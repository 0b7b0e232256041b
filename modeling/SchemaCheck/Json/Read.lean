import SchemaCheck.Json.Tree
/-! Reading documents, declarations and data from JSON trees. -/
namespace SchemaCheck.Json

def depthLimit : Nat := 127

namespace Tree

def found : Tree → Except Fault Found
  | null => .ok .null
  | bool b => .ok (.bool b)
  | number (.ok (.int n)) => .ok (.int n)
  | number (.ok (.float x)) => .ok (.float x)
  | number (.error f) => .error f
  | string (.ok s) => .ok (.string s)
  | string (.error f) => .error f
  | array .. => .ok .sequence
  | object .. => .ok .map
  | broken f _ => .error f

def refuse (w : Wanted) (t : Tree) : Except Fault α := do
  throw (.wrongType (← t.found) w)

def text : Tree → Except Fault String
  | string s => s
  | t => t.refuse .text

def float : Tree → Except Fault Binary64
  | number (.ok (.int n)) => .ok (Binary64.ofDecimal (n < 0) n.natAbs 0)
  | number (.ok (.float x)) => .ok x
  | t => t.refuse .number

def length : Tree → Except Fault Int
  | number (.ok (.int n)) =>
    if n < twoPow 63 then .ok n else .error (.wrongValue (.int n) .length)
  | t => t.refuse .length

def stopped (why : Stop → Fault) : Option Stop → Except Fault Unit
  | none => .ok ()
  | some s => .error (why s)

def sequence : Tree → Except Fault (Option (Contents (Except Fault) Tree))
  | array items stop => .ok (some ⟨items, stopped Stop.wanted stop⟩)
  | t => t.refuse .sequence

def map : Tree → Except Fault (Option (Contents (Except Fault) (Tree × Tree)))
  | object members stop => .ok (some ⟨members, stopped Stop.wanted stop⟩)
  | t => t.refuse .map

def surplus (stop : Option Stop) : List Tree → Except Fault Unit
  | [] => stopped Stop.surplus stop
  | _ :: _ => .error (.malformed .trailingCharacters)

def record (w : Wanted) : Tree → Except Fault (Option (Record (Except Fault) Tree))
  | array items stop => .ok (some (.listed items (stopped Stop.wanted stop) (surplus stop)))
  | object members stop => .ok (some (.keyed ⟨members, stopped Stop.wanted stop⟩))
  | t => t.refuse w

def shape : Tree → Except Fault (Shape (Except Fault) Tree)
  | null => .ok (.scalar .null)
  | bool b => .ok (.scalar (.bool b))
  | number (.ok (.int n)) => .ok (.scalar (.int n))
  | number (.ok (.float x)) => .ok (.scalar (Value.ofNumber x))
  | number (.error f) => .error f
  | string (.ok s) => .ok (.scalar (.string s))
  | string (.error f) => .error f
  | array items stop => .ok (.sequence ⟨items, stopped Stop.wanted stop⟩)
  | object members stop => .ok (.map ⟨members, stopped Stop.wanted stop⟩)
  | broken f _ => .error f

mutual

def skip : Tree → Except Fault Unit
  | array items stop => do
    skipItems items
    stopped Stop.skipped stop
  | object members stop => do
    skipMembers members
    stopped Stop.skipped stop
  | broken _ f => .error f
  | _ => .ok ()

def skipItems : List Tree → Except Fault Unit
  | [] => .ok ()
  | t :: ts => do
    skip t
    skipItems ts

def skipMembers : List (Tree × Tree) → Except Fault Unit
  | [] => .ok ()
  | (k, v) :: ms => do
    skip k
    skip v
    skipMembers ms

end

def isNull : Tree → Bool
  | null => true
  | _ => false

end Tree

/-- A broken word that starts as `null` is no value, and asking for it is its fault. -/
def reader : Reader (Except Fault) Fault Tree where
  resolve t := .ok t
  absent t := .ok t.isNull
  text := Tree.text
  number := Tree.float
  length := Tree.length
  sequence := Tree.sequence
  map := Tree.map
  record := Tree.record
  shape := Tree.shape
  key := Tree.text
  declarationKey := Tree.text
  skip := Tree.skip
  repeated := .repeated
  tooDeep := .malformed .tooDeep

def whole (read : Tree → Except Fault α) (bs : Bytes) : Except Fault α := do
  let (t, rest) := Tree.ofBytes bs
  let x ← read t
  match dropSpace (rest.getD []) with
  | [] => pure x
  | _ :: _ => throw (.malformed .trailingCharacters)

def readDocument (bs : Bytes) : Except Fault Document := whole (reader.readDocument depthLimit) bs

def readDeclaration (bs : Bytes) : Except Fault Declaration :=
  whole (reader.readDeclaration depthLimit) bs

/-! ## Data as a tree -/

mutual

def Tree.ofValue : Value → Tree
  | .null => .null
  | .bool b => .bool b
  | .int n => .number (.ok (.int n))
  | .float x => .number (.ok (.float x))
  | .string s => .string (.ok s)
  | .array vs => .array (ofItems vs) none
  | .object ms => .object (ofMembers ms) none

def ofItems : List Value → List Tree
  | [] => []
  | v :: vs => Tree.ofValue v :: ofItems vs

def ofMembers : List (String × Value) → List (Tree × Tree)
  | [] => []
  | (k, v) :: ms => (.string (.ok k), Tree.ofValue v) :: ofMembers ms

end

/-- Data in memory may be of any depth: no more collections are opened than it has inside each other. -/
def documentOfValue (v : Value) : Except Fault Document := reader.readDocument v.nesting (Tree.ofValue v)

def declarationOfValue (v : Value) : Except Fault Declaration :=
  reader.readDeclaration v.nesting (Tree.ofValue v)

end SchemaCheck.Json
