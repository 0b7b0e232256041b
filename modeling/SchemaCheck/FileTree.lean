import SchemaCheck.IoError
import SchemaCheck.Path
/-! A file system in memory: directories of named files, directories and symbolic links, and finding what
a path means in it. -/
namespace SchemaCheck

inductive FileNode where
  | file (content : List UInt8)
  | link (target : String)
  | directory (entries : List (String × FileNode))
  deriving Inhabited

namespace FileNode

def isDirectory : FileNode → Bool
  | directory _ => true
  | _ => false

def isLink : FileNode → Bool
  | link _ => true
  | _ => false

def child? (name : String) : FileNode → Option FileNode
  | directory entries => Entries.get? name entries
  | _ => none

def at? : List String → FileNode → Option FileNode
  | [], n => some n
  | name :: rest, n => (n.child? name).bind (at? rest)

def put (new : FileNode) : List String → FileNode → FileNode
  | [], _ => new
  | name :: rest, n =>
    let entries := match n with
      | directory entries => entries
      | _ => []
    directory (Entries.insert name (put new rest ((Entries.get? name entries).getD (directory []))) entries)

mutual

def directories : FileNode → Nat
  | directory entries => directoriesOf entries + 1
  | _ => 0

def directoriesOf : List (String × FileNode) → Nat
  | [] => 0
  | (_, n) :: rest => directories n + directoriesOf rest

end

end FileNode

abbrev Location := List String

structure FileTree where
  root : FileNode := .directory []
  working : Location := []
  deriving Inhabited

namespace FileTree

def nameLimit : Nat := 255

def pathLimit : Nat := 4096

def linkLimit : Nat := 40

def steps (path : String) : List String :=
  let names := (Path.parts path).filter (· ≠ "")
  if path.endsWith "/" then names ++ ["."] else names

def start (path : String) (here : Location) : Location :=
  if Path.isAbsolute path then [] else here

/-- Goes from a directory along the steps of a path. Links on the way are followed, one at the end only
if `follow` says so. -/
def go (t : FileTree) (follow : Bool) (links : Nat) (here : Location) (steps : List String) :
    Except IoError Location :=
  match steps with
  | [] => .ok here
  | step :: rest =>
    match t.root.at? here with
    | some (.directory entries) =>
      if step = "." then go t follow links here rest
      else if step = ".." then go t follow links here.dropLast rest
      else if nameLimit < step.utf8ByteSize then .error .nameTooLong
      else match Entries.get? step entries with
        | none => .error .notFound
        | some (.link target) =>
          if rest.isEmpty && !follow then .ok (here ++ [step])
          else match links with
            | 0 => .error .linkLoop
            | links + 1 => go t follow links (start target here) (FileTree.steps target ++ rest)
        | some _ => go t follow links (here ++ [step]) rest
    | _ => .error .notDirectory
  termination_by (links, steps.length)

def locate (t : FileTree) (follow : Bool) (path : String) : Except IoError Location :=
  if path.isEmpty then .error .notFound
  else if path.toList.contains '\x00' then .error .nulInName
  else if pathLimit ≤ path.utf8ByteSize then .error .nameTooLong
  else t.go follow linkLimit (start path t.working) (steps path)

def find (t : FileTree) (follow : Bool) (path : String) : Except IoError (Location × FileNode) := do
  let l ← t.locate follow path
  match t.root.at? l with
  | some n => pure (l, n)
  | none => throw .notFound

def exists? (t : FileTree) (path : String) : Bool := (t.find true path).isOk

def read (t : FileTree) (path : String) : Except IoError (List UInt8) := do
  match (← t.find true path).2 with
  | .file content => pure content
  | .directory _ => throw .isDirectory
  | .link _ => throw .linkLoop

def add (t : FileTree) (path : String) (n : FileNode) : FileTree :=
  let place (here : Location) (step : String) : Location :=
    if step = "." then here
    else if step = ".." then here.dropLast
    else here ++ [step]
  let along (here : Location) (step : String) : Location :=
    match t.go true linkLimit here [step] with
    | .ok l => l
    | .error _ => place here step
  let names := (Path.parts path).filter (· ≠ "")
  let parent := names.dropLast.foldl along (start path t.working)
  let target := match names.getLast? with
    | some name => place parent name
    | none => parent
  { t with root := FileNode.put n target t.root }

end FileTree
end SchemaCheck
