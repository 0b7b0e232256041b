import SchemaCheck.Value
/-! A schema document as written: nothing is checked, every part may be absent, and a declaration of
types keeps its shape. Definitions and properties are in order of their names. -/
namespace SchemaCheck

inductive Declaration where
  | name (s : String)
  | names (ss : List String)
  | other (v : Value)
  deriving Inhabited, Repr

namespace Declaration

def typeNames? : Declaration → Option (List String)
  | name s => some [s]
  | names ss => some ss
  | other _ => none

def ofValue : Value → Declaration
  | .string s => name s
  | .array items => match Value.strings? items with
    | some ss => names ss
    | none => other (.array items)
  | v => other v

def toValue : Declaration → Value
  | name s => .string s
  | names ss => .array (ss.map .string)
  | other v => v

def same : Declaration → Declaration → Bool
  | name a, name b => a == b
  | names a, names b => a == b
  | other a, other b => a.same b
  | _, _ => false

end Declaration

structure Link (σ : Type) where
  title : String := ""
  href : String := ""
  method : String := ""
  rel : String := ""
  description : String := ""
  schema : Option σ := none
  deriving Inhabited, Repr

/-- `min` and `max` are older names of the bounds; an entry of a section may be present without a
schema. -/
structure Document where
  id : String := ""
  dialect : String := ""
  declaration : Option Declaration := none
  description : String := ""
  reference : String := ""
  sample : Option Value := none
  pattern : String := ""
  required : List String := []
  min : Option Binary64 := none
  minValue : Option Binary64 := none
  max : Option Binary64 := none
  maxValue : Option Binary64 := none
  minLength : Int := 0
  maxLength : Int := 0
  definitions : List (String × Option Document) := []
  properties : List (String × Option Document) := []
  items : Option Document := none
  choices : List String := []
  links : List (Link Document) := []
  deriving Inhabited, Repr

namespace Link

def request (rel method href : String) : Link σ := { rel, method, href }

def withSchema (l : Link σ) (s : σ) : Link σ := { l with schema := some s }

end Link

namespace Document

def typed (d : Declaration) : Document := { declaration := some d }

def referring (target : String) : Document := { reference := target }

def withId (d : Document) (id : String) : Document := { d with id }

def withDialect (d : Document) (dialect : String) : Document := { d with dialect }

def withDefinition (d : Document) (name : String) (child : Document) : Document :=
  { d with definitions := Entries.insert name (some child) d.definitions }

def withProperty (d : Document) (name : String) (child : Document) : Document :=
  { d with properties := Entries.insert name (some child) d.properties }

def withItems (d : Document) (child : Document) : Document := { d with items := some child }

def withLink (d : Document) (l : Link Document) : Document := { d with links := d.links ++ [l] }

def nested : Nat → Document → Document
  | 0, d => d
  | n + 1, d => nested n ((typed (.name "array")).withItems d)

end Document

def sameBound : Option Binary64 → Option Binary64 → Bool
  | none, none => true
  | some a, some b => a.sameNumber b
  | _, _ => false

def sameWith (same : α → α → Bool) : Option α → Option α → Bool
  | none, none => true
  | some a, some b => same a b
  | _, _ => false

namespace Document

def sameNode (a b : Document) : Bool :=
  a.id == b.id && a.dialect == b.dialect && sameWith Declaration.same a.declaration b.declaration &&
  a.description == b.description && a.reference == b.reference &&
  sameWith Value.same a.sample b.sample && a.pattern == b.pattern && a.required == b.required &&
  sameBound a.min b.min && sameBound a.minValue b.minValue &&
  sameBound a.max b.max && sameBound a.maxValue b.maxValue &&
  a.minLength == b.minLength && a.maxLength == b.maxLength && a.choices == b.choices

mutual

def same (a b : Document) : Bool :=
  match a with
  | { definitions, properties, items, links, .. } =>
    sameNode a b && sameEntries definitions b.definitions && sameEntries properties b.properties &&
    sameOptional items b.items && sameLinks links b.links

def sameOptional : Option Document → Option Document → Bool
  | none, none => true
  | some a, some b => same a b
  | _, _ => false

def sameEntries : List (String × Option Document) → List (String × Option Document) → Bool
  | [], [] => true
  | (k, a) :: as, (l, b) :: bs => k == l && sameOptional a b && sameEntries as bs
  | _, _ => false

def sameLinks : List (Link Document) → List (Link Document) → Bool
  | [], [] => true
  | { title, href, method, rel, description, schema } :: as, b :: bs =>
    title == b.title && href == b.href && method == b.method && rel == b.rel &&
    description == b.description && sameOptional schema b.schema && sameLinks as bs
  | _, _ => false

end

end Document
end SchemaCheck
