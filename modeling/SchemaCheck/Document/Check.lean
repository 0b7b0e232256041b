import SchemaCheck.Fault
import SchemaCheck.Schema
/-! What a node of a document says on its own: its type names, its bounds, and the faults that need no
look at other nodes. -/
namespace SchemaCheck

def Declaration.dump : Declaration → String
  | name s => "Name(" ++ Text.quoted s ++ ")"
  | names ss => "Names([" ++ ", ".intercalate (ss.map Text.quoted) ++ "])"
  | other v => "Other(" ++ v.dump ++ ")"

/-- The older name of a bound wins, and without both the bound is zero. -/
def boundOf (legacy canonical : Option Binary64) : Binary64 := (legacy.or canonical).getD .zero

namespace Document

def types (d : Document) : List String :=
  match d.declaration with
  | none => []
  | some t => t.typeNames?.getD []

def declarationFaults (id : String) (d : Document) : List Fault :=
  match d.declaration with
  | none => []
  | some t => match t.typeNames? with
    | some _ => []
    | none => [.propertyIncorrect id "type" t.dump]

def boundFaults (id name : String) (legacy canonical : Option Binary64) : List Fault :=
  if legacy.isSome && canonical.isSome then [.property id name .conflicted] else []

def referenceFaults (id : String) (d : Document) : List Fault :=
  match d.reference.isEmpty, d.types.isEmpty with
  | true, true => [.property id "$ref" .nil, .property id "type" .nil]
  | false, false => [.property id "$ref, type" .conflicted]
  | _, _ => []

def typeFaults (id : String) (d : Document) (name : String) : List Fault :=
  if name = "array" then if d.items.isNone then [.property id "items" .nil] else []
  else if name ∈ knownTypes then []
  else [.incorrectText id "type" name]

def nodeFaults (id : String) (d : Document) : List Fault :=
  declarationFaults id d ++
  boundFaults id "min, minValue" d.min d.minValue ++
  boundFaults id "max, maxValue" d.max d.maxValue ++
  referenceFaults id d ++
  d.types.flatMap (typeFaults id d)

def schemaWith (id : String) (d : Document) (definitions properties : List (String × Schema))
    (items : Option Schema) (links : List (Link Schema)) : Schema where
  id
  dialect := d.dialect
  types := d.types
  description := d.description
  reference := d.reference
  sample := d.sample
  pattern := d.pattern
  required := d.required
  minValue := boundOf d.min d.minValue
  maxValue := boundOf d.max d.maxValue
  minLength := d.minLength
  maxLength := d.maxLength
  definitions
  properties
  choices := d.choices
  items
  links

end Document
end SchemaCheck
