import SchemaCheck.FileTree.Walk
import SchemaCheck.Yaml.Read
import SchemaCheck.Pattern
/-! Which files to check: the configuration, as a file holds it or as calls build it, and the filter it
stands for. -/
namespace SchemaCheck

inductive LoadError where
  | io (e : IoError)
  | yaml
  | invalidPattern
  | missingSource (path : String)
  | walk (e : WalkError)
  deriving DecidableEq, Repr

def LoadError.message (e : LoadError) (words : String := "") : String :=
  match e with
  | io e => "I/O error: " ++ e.message
  | yaml => "YAML error: " ++ words
  | invalidPattern => "invalid file pattern: " ++ words
  | missingSource path => "source path '" ++ path ++ "' does not exist"
  | walk e => "cannot walk '" ++ e.path ++ "': " ++ e.message

structure Filter where
  accepts : String → Bool := fun _ => true
  excluded : List String := []

namespace Filter

def withPattern (f : Filter) (p : Pattern) : Filter := { f with accepts := p.matches }

def withExcluded (f : Filter) (name : String) : Filter := { f with excluded := f.excluded ++ [name] }

def excludes (f : Filter) (name : String) : Bool := f.excluded.any (· == name)

end Filter

structure Config where
  pattern : Option String := none
  exclude : List String := []
  followLinks : Bool := false
  deriving DecidableEq, Repr

namespace Config

inductive Keyword where
  | pattern | exclude | followLinks
  deriving DecidableEq, Repr

def Keyword.ofText? (s : String) : Option Keyword :=
  if s = "pattern" then some .pattern
  else if s = "exclude" then some .exclude
  else if s = "follow_links" then some .followLinks
  else none

def readMember (r : Reader Yaml.Read Yaml.Malformed Yaml.Node) (depth : Nat) (key : Keyword)
    (c : Config) (n : Yaml.Node) : Yaml.Read Config := do
  match key with
  | .pattern => return { c with pattern := ← r.optional r.readText n }
  | .exclude => return { c with exclude := ← r.readList (fun _ => r.readText) depth n }
  | .followLinks => return { c with followLinks := ← (← r.resolve n).flag }

def parse (content : List UInt8) : Except LoadError Config :=
  let read (r : Reader Yaml.Read Yaml.Malformed Yaml.Node) (n : Yaml.Node) : Yaml.Read Config :=
    r.readRecord .document [] Keyword.ofText? (readMember r) {} Yaml.depthLimit n
  match Yaml.readWith {} read content with
  | .ok c => .ok c
  | .error _ => .error .yaml

def load (t : FileTree) (path : String) : Except LoadError Config :=
  match t.read path with
  | .ok content => parse content
  -- A directory can be opened, and then holds no configuration.
  | .error .isDirectory => .error .yaml
  | .error e => .error (.io e)

def isExcluded (c : Config) (name : String) : Bool := c.exclude.any (· == name)

end Config
end SchemaCheck
