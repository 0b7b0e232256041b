import SchemaCheck.Config
import SchemaCheck.FileFaults
import SchemaCheck.Registry
import SchemaCheck.SourceFormat
/-! Finding documents in a file tree and registering them. Nothing that goes wrong with a file or a source
stops the rest. -/
namespace SchemaCheck

structure Loader where
  filter : Filter := {}
  followLinks : Bool := false

def Config.loader (c : Config) : Except LoadError Loader := do
  let filter : Filter ← match c.pattern with
    | none => pure {}
    | some s =>
      -- An empty pattern is none.
      if s.isEmpty then pure {}
      else match Pattern.parse? s with
        | some p => pure (({} : Filter).withPattern p)
        | none => throw .invalidPattern
  return { filter := c.exclude.foldl Filter.withExcluded filter, followLinks := c.followLinks }

structure Outcome where
  files : Nat := 0
  fileFaults : FileFaults := []
  walkErrors : List LoadError := []
  log : List LogRecord := []

def LoadError.warning? : LoadError → Option LogRecord
  | missingSource path =>
    some { level := .warn, message := "source does not exist", fields := [("source", path)] }
  | walk e =>
    some { level := .warn, message := "walk failed", fields := [("path", e.path), ("error", e.message)] }
  | _ => none

def Outcome.withSummary (o : Outcome) : Outcome :=
  let summary : LogRecord :=
    { level := .info
      message := "loaded schema sources"
      fields := [("files", toString o.files), ("failed_files", toString o.fileFaults.length),
        ("walk_errors", toString o.walkErrors.length)] }
  { o with log := o.log ++ [summary] }

def FileTree.ingest (t : FileTree) (path : String) (r : Registry) : Registry × List Fault :=
  match t.readDocument path with
  | .error f => (r, [f])
  | .ok d => r.addDocument d

def FileTree.ingestLog (t : FileTree) (path : String) : List LogRecord :=
  { level := .debug, message := "ingesting schema file", fields := [("path", path)] } ::
    match t.readDocument path with
    | .error _ => []
    | .ok d => Registry.addLog d

namespace Loader

def options (l : Loader) : FileTree.WalkOptions := ⟨l.followLinks, l.filter.excludes⟩

abbrev State := Registry × Outcome

def takeFile (l : Loader) (t : FileTree) (s : State) (f : FoundFile) : State :=
  let (r, o) := s
  if l.filter.accepts f.name then
    let (r, faults) := t.ingest f.path r
    let fileFaults := if faults.isEmpty then o.fileFaults else o.fileFaults.insert f.path faults
    (r, { o with files := o.files + 1, fileFaults, log := o.log ++ t.ingestLog f.path })
  else (r, o)

def fail (s : State) (e : LoadError) : State :=
  (s.1, { s.2 with walkErrors := s.2.walkErrors ++ [e], log := s.2.log ++ e.warning?.toList })

def take (l : Loader) (t : FileTree) (s : State) (e : Except WalkError FoundFile) : State :=
  match e with
  | .ok f => l.takeFile t s f
  | .error e => fail s (.walk e)

def takeSource (l : Loader) (t : FileTree) (s : State) (source : String) : State :=
  if t.exists? source then (t.walk l.options source).foldl (l.take t) s
  else fail s (.missingSource source)

def load (l : Loader) (t : FileTree) (sources : List String) (r : Registry) : State :=
  let (r, o) := sources.foldl (l.takeSource t) (r, {})
  (r, o.withSummary)

end Loader
end SchemaCheck
