import SchemaCheck.Document.Check
import SchemaCheck.Identifier
import SchemaCheck.Log
/-! All normalized schemas by identifier, the reference each one makes, and the identifiers registered
directly. Registering stores a document's nodes from the inside out and collects every fault on the way;
references are looked up only by `validate`, when all documents are in. -/
namespace SchemaCheck

structure Registry where
  schemas : Table Schema := .empty
  references : Table String := .empty
  roots : List String := []
  deriving Inhabited

inductive Misuse where
  | emptyIdentifier
  deriving DecidableEq, Repr

def Misuse.message : Misuse → String
  | emptyIdentifier => "bug: schema registered under an empty identifier"

def localPrefix : String := "#/"

namespace Registry

def get? (r : Registry) (id : String) : Option Schema := r.schemas.get? id

def contains (r : Registry) (id : String) : Bool := r.schemas.contains id

def reference? (r : Registry) (id : String) : Option String := r.references.get? id

def size (r : Registry) : Nat := r.schemas.size

def ids (r : Registry) : List String := r.schemas.names

def store (r : Registry) (s : Schema) : Registry :=
  { r with
    schemas := r.schemas.insert s.id s
    references := r.references.insert s.id s.reference }

def addRoot (r : Registry) (id : String) : Registry :=
  if id ∈ r.roots then r else { r with roots := r.roots ++ [id] }

mutual

def register (id : String) : Document → Registry → Registry × Schema × List Fault
  | d@{ definitions, properties, items, links, .. }, r =>
    -- Tested before anything inside the node is stored; the node itself is stored last.
    let duplicate : List Fault := if r.contains id then [.duplicated id] else []
    let (r, ds, f₁) := registerEntries (definitionId id) definitions r
    let (r, ps, f₂) := registerEntries (propertyId id) properties r
    let (r, ls, f₃) := registerLinks (linkId id) 0 links r
    let (r, i, f₄) := registerOptional (itemsId id) items r
    let s := d.schemaWith id ds ps i ls
    (r.store s, s, duplicate ++ f₁ ++ f₂ ++ f₃ ++ f₄ ++ d.nodeFaults id)

def registerOptional (id : String) : Option Document → Registry →
    Registry × Option Schema × List Fault
  | none, r => (r, none, [])
  | some d, r =>
    let (r, s, faults) := register id d r
    (r, some s, faults)

def registerEntries (idOf : String → String) : List (String × Option Document) → Registry →
    Registry × List (String × Schema) × List Fault
  | [], r => (r, [], [])
  | (_, none) :: rest, r => registerEntries idOf rest r
  | (name, some d) :: rest, r =>
    let (r, s, f₁) := register (idOf name) d r
    let (r, ss, f₂) := registerEntries idOf rest r
    (r, (name, s) :: ss, f₁ ++ f₂)

def registerLinks (idOf : Nat → String) (index : Nat) : List (Link Document) → Registry →
    Registry × List (Link Schema) × List Fault
  | [], r => (r, [], [])
  | { title, href, method, rel, description, schema } :: rest, r =>
    let (r, s, f₁) := registerOptional (idOf index) schema r
    let (r, ls, f₂) := registerLinks idOf (index + 1) rest r
    (r, { title, href, method, rel, description, schema := s } :: ls, f₁ ++ f₂)

end

def registerRoot (id : String) (d : Document) (r : Registry) : Registry × Schema × List Fault :=
  let (r, s, faults) := register id d r
  (r.addRoot id, s, faults)

def register? (id : String) (d : Option Document) (r : Registry) :
    Except Misuse (Registry × Option Schema × List Fault) :=
  match d with
  | none => .ok (r, none, [])
  | some d =>
    if id.isEmpty then .error .emptyIdentifier
    else
      let (r, s, faults) := registerRoot id d r
      .ok (r, some s, faults)

structure Registration where
  schema : Option Schema
  faults : Option (List Fault)

def registration? (id : String) (d : Option Document) (r : Registry) :
    Except Misuse (Registry × Registration) :=
  (register? id d r).map fun (r, schema, faults) => (r, { schema, faults := Fault.found? faults })

def rejection? (d : Document) : Option Fault :=
  if d.id.isEmpty then some .missingId
  else if d.id.endsWith "/" then some (.extraSlash d.id)
  else if d.dialect.isEmpty then some (.property d.id "schema" .empty)
  else if d.dialect ≠ draft04 then some (.incorrectText d.id "schema" d.dialect)
  else none

def addDocument (d : Document) (r : Registry) : Registry × List Fault :=
  match rejection? d with
  | some f => (r, [f])
  | none =>
    let (r, _, faults) := registerRoot (lastSegment d.id) d r
    (r, faults)

def addLog (d : Document) : List LogRecord :=
  match rejection? d with
  | some _ => []
  | none =>
    [{ level := .debug
       message := "registering document"
       fields := [("id", d.id), ("key", lastSegment d.id)] }]

def target? (reference : String) : Option String :=
  match reference.toList with
  | '#' :: '/' :: rest => some (String.ofList rest)
  | _ => none

def referenceFault? (r : Registry) (id reference : String) : Option Fault :=
  if reference.isEmpty then none
  else match target? reference with
    | none => some (.incorrectText id "$ref" reference)
    | some t => if r.contains t then none else some (.invalidRef id reference)

def validate (r : Registry) : List Fault :=
  r.references.entries.filterMap fun (id, reference) => r.referenceFault? id reference

def validateLog (r : Registry) : LogRecord :=
  { level := .debug
    message := "validated references"
    fields := [("schemas", toString r.size), ("faults", toString r.validate.length)] }

def rootSchemas (r : Registry) : List Schema := r.roots.filterMap r.get?

def walk (visit : Visitor σ ε) (r : Registry) (state : σ) : σ × Except ε Unit :=
  Schema.walkAll visit r.rootSchemas state

end Registry
end SchemaCheck
