import SchemaCheck.IoError
import SchemaCheck.Json.Fault
/-! A problem found in a file or in a schema, and the report of a list of them: one line each, the
message, the code of its kind and what caused it. -/
namespace SchemaCheck

/-- A text that a parser refuses goes with the refusal. -/
inductive Cause where
  | json (f : Json.Fault) {content : List UInt8}
  | yaml {content : List UInt8}
  | io (e : IoError)
  | text (s : String)
  deriving DecidableEq, Repr

/-- What parsers say of what they refuse is up to them, and may run over several lines. -/
class Wording where
  cause : Cause → String
  configuration : Except IoError (List UInt8) → String
  pattern : String → String

variable [Wording]

def Cause.summary (c : Cause) : String :=
  match c with
  | json _ | yaml => Wording.cause c
  | io e => e.message
  | text s => s

inductive Problem where
  | nil | empty | conflicted
  deriving DecidableEq, Repr

def Problem.text : Problem → String
  | nil => "is nil"
  | empty => "is empty"
  | conflicted => "are conflicted"

inductive FaultKind where
  | unsupportedFile | extraSlash | duplicated | missingId | property | propertyIncorrect | invalidRef
  deriving DecidableEq, Repr

namespace FaultKind

def all : List FaultKind :=
  [unsupportedFile, extraSlash, duplicated, missingId, property, propertyIncorrect, invalidRef]

def code : FaultKind → Nat
  | unsupportedFile => 0
  | extraSlash => 1
  | duplicated => 2
  | missingId => 3
  | property => 4
  | propertyIncorrect => 5
  | invalidRef => 6

end FaultKind

inductive Fault where
  | unsupportedFile (cause : Option Cause)
  | extraSlash (id : String)
  | duplicated (id : String)
  | missingId
  | property (id name : String) (problem : Problem)
  | propertyIncorrect (id name value : String)
  | invalidRef (id reference : String)
  deriving DecidableEq, Repr

namespace Fault

def incorrectText (id name text : String) : Fault := propertyIncorrect id name (Text.quoted text)

def kind : Fault → FaultKind
  | unsupportedFile _ => .unsupportedFile
  | extraSlash _ => .extraSlash
  | duplicated _ => .duplicated
  | missingId => .missingId
  | property .. => .property
  | propertyIncorrect .. => .propertyIncorrect
  | invalidRef .. => .invalidRef

def propertyName? : Fault → Option String
  | property _ name _ | propertyIncorrect _ name _ => some name
  | _ => none

def cause? : Fault → Option Cause
  | unsupportedFile cause => cause
  | _ => none

def message : Fault → String
  | unsupportedFile _ => "not supported file"
  | extraSlash id => "extra slash in ID '" ++ id ++ "'"
  | duplicated id => "duplicated ID '" ++ id ++ "'"
  | missingId => "ID is empty"
  | property id name problem => name ++ " in '" ++ id ++ "' " ++ problem.text
  | propertyIncorrect id name value => name ++ " in '" ++ id ++ "', " ++ value ++ " is incorrect"
  | invalidRef id reference =>
    "referred from '" ++ id ++ "' to " ++ reference ++ " but it's not found"

def line (f : Fault) : String :=
  let head := f.message ++ "(" ++ toString f.kind.code ++ ")"
  match f.cause? with
  | none => head
  | some cause => head ++ ";internal:" ++ cause.summary

def report (faults : List Fault) : String := "\n".intercalate (faults.map line)

def found? (faults : List Fault) : Option (List Fault) := if faults.isEmpty then none else some faults

def withKind (k : FaultKind) (faults : List Fault) : List Fault := faults.filter (·.kind = k)

end Fault
end SchemaCheck
