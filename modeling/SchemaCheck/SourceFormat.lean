import SchemaCheck.Fault
import SchemaCheck.FileTree
import SchemaCheck.Json.Read
import SchemaCheck.Yaml.Read
/-! The notations of source documents, and reading a document in one of them. -/
namespace SchemaCheck

inductive SourceFormat where
  | yaml | json
  deriving DecidableEq, Repr

namespace SourceFormat

def ofExtension? (extension : String) : Option SourceFormat :=
  if extension ∈ ["yaml", "yml"] then some yaml
  else if extension ∈ ["json", "js"] then some json
  else none

def ofPath? (path : String) : Option SourceFormat := (Path.extension? path).bind ofExtension?

def parse (format : SourceFormat) (content : List UInt8) : Except Fault Document :=
  match format with
  | yaml => match Yaml.readDocument content with
    | .ok d => .ok d
    | .error _ => .error (.unsupportedFile (some (@Cause.yaml content)))
  | json => match Json.readDocument content with
    | .ok d => .ok d
    | .error f => .error (.unsupportedFile (some (@Cause.json f content)))

end SourceFormat

def FileTree.readDocument (t : FileTree) (path : String) : Except Fault Document :=
  match SourceFormat.ofPath? path with
  | none => .error (.unsupportedFile none)
  | some format => match t.read path with
    | .error e => .error (.unsupportedFile (some (.io e)))
    | .ok content => format.parse content

end SchemaCheck
