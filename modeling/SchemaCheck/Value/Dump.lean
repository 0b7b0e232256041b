import SchemaCheck.Value
import SchemaCheck.Decimal.Shortest
import SchemaCheck.Text.Quoted
/-! The dump of a value in a report: constructor and content, objects in order of their names. -/
namespace SchemaCheck

def Binary64.text (x : Binary64) : String :=
  if x.isFinite then Decimal.Layout.plain.write x
  else if x.isNaN then "NaN"
  else if x.negative then "-inf" else "inf"

namespace Value

mutual

def dump : Value → String
  | .null => "Null"
  | .bool b => "Bool(" ++ (if b then "true" else "false") ++ ")"
  | .int n => "Number(" ++ toString n ++ ")"
  | .float x => "Number(" ++ x.text ++ ")"
  | .string s => "String(" ++ Text.quoted s ++ ")"
  | .array items => "Array [" ++ dumpItems items ++ "]"
  | .object members => "Object \x7b" ++ dumpMembers members ++ "\x7d"

def dumpItems : List Value → String
  | [] => ""
  | [v] => dump v
  | v :: w :: rest => dump v ++ ", " ++ dumpItems (w :: rest)

def dumpMembers : List (String × Value) → String
  | [] => ""
  | [(k, v)] => Text.quoted k ++ ": " ++ dump v
  | (k, v) :: w :: rest => Text.quoted k ++ ": " ++ dump v ++ ", " ++ dumpMembers (w :: rest)

end

end Value
end SchemaCheck
