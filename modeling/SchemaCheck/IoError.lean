/-! Why a path cannot be opened or read. -/
namespace SchemaCheck

inductive IoError where
  | notFound | notDirectory | isDirectory | nameTooLong | linkLoop
  | nulInName
  deriving DecidableEq, Repr

namespace IoError

def code? : IoError → Option Nat
  | notFound => some 2
  | notDirectory => some 20
  | isDirectory => some 21
  | nameTooLong => some 36
  | linkLoop => some 40
  | nulInName => none

def text : IoError → String
  | notFound => "No such file or directory"
  | notDirectory => "Not a directory"
  | isDirectory => "Is a directory"
  | nameTooLong => "File name too long"
  | linkLoop => "Too many levels of symbolic links"
  | nulInName => "file name contained an unexpected NUL byte"

def message (e : IoError) : String :=
  match e.code? with
  | some n => e.text ++ " (os error " ++ toString n ++ ")"
  | none => e.text

end IoError
end SchemaCheck
