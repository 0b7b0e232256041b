import SchemaCheck.Document.Keyword
/-! Reading a document from the nodes of a notation. A `Reader` says what a node of the notation gives
to each kind of question; which members there are, what each of them asks for, that a known member
comes once and how deep collections nest is the same for all notations.
`depth` is always the number of collections that may still be opened. -/
namespace SchemaCheck

inductive Wanted where
  | text | number | length | sequence | map | document | link
  deriving DecidableEq, Repr

structure Contents (m : Type → Type) (α : Type) where
  items : List α
  close : m Unit

/-- A record is keyed, or a list of its members in order. A list is checked in two ways: `next` where
another member is asked for and none is there, `close` when all members were read. -/
inductive Record (m : Type → Type) (ν : Type) where
  | keyed (c : Contents m (ν × ν))
  | listed (items : List ν) (next : m Unit) (close : List ν → m Unit)

inductive Shape (m : Type → Type) (ν : Type) where
  | scalar (v : Value)
  | sequence (c : Contents m ν)
  | map (c : Contents m (ν × ν))

structure Reader (m : Type → Type) (ε ν : Type) where
  resolve : ν → m ν
  absent : ν → m Bool
  text : ν → m String
  number : ν → m Binary64
  length : ν → m Int
  sequence : ν → m (Option (Contents m ν))
  map : ν → m (Option (Contents m (ν × ν)))
  record : Wanted → ν → m (Option (Record m ν))
  shape : ν → m (Shape m ν)
  key : ν → m String
  declarationKey : ν → m String
  skip : ν → m Unit
  repeated : String → ε
  tooDeep : ε

namespace Reader

variable {m : Type → Type} {ε ν α : Type} [Monad m] [MonadExceptOf ε m] (r : Reader m ε ν)

def optional (read : ν → m α) (n : ν) : m (Option α) := do
  let n ← r.resolve n
  if ← r.absent n then pure none else some <$> read n

def readText (n : ν) : m String := do r.text (← r.resolve n)

def readNumber (n : ν) : m Binary64 := do r.number (← r.resolve n)

def readLength (n : ν) : m Int := do r.length (← r.resolve n)

def readKey (n : ν) : m String := do r.key (← r.resolve n)

def readList (read : Nat → ν → m α) (depth : Nat) (n : ν) : m (List α) := do
  match ← r.sequence (← r.resolve n), depth with
  | none, _ => pure []
  | some _, 0 => throw r.tooDeep
  | some c, depth + 1 => do
    let xs ← c.items.mapM (read depth)
    c.close
    pure xs

def readTable (read : Nat → ν → m α) (depth : Nat) (n : ν) : m (List (String × α)) := do
  match ← r.map (← r.resolve n), depth with
  | none, _ => pure []
  | some _, 0 => throw r.tooDeep
  | some c, depth + 1 => do
    let xs ← c.items.mapM fun (k, v) => do
      let name ← r.readKey k
      let x ← read depth v
      pure (name, x)
    c.close
    pure (Entries.ofList xs)

def readValue (key : ν → m String) : Nat → ν → m Value
  | depth, n => do
    match ← r.shape (← r.resolve n), depth with
    | .scalar v, _ => pure v
    | .sequence _, 0 => throw r.tooDeep
    | .map _, 0 => throw r.tooDeep
    | .sequence c, depth + 1 => do
      let xs ← c.items.mapM (readValue key depth)
      c.close
      pure (.array xs)
    | .map c, depth + 1 => do
      let xs ← c.items.mapM fun (k, v) => do
        let name ← key (← r.resolve k)
        let x ← readValue key depth v
        pure (name, x)
      c.close
      pure (.object (Entries.ofList xs))

def readKeyed [DecidableEq κ] (known : String → Option κ) (read : κ → α → ν → m α)
    (start : α) (c : Contents m (ν × ν)) : m α := do
  let (x, _) ← c.items.foldlM (fun (x, seen) (k, v) => do
    let name ← r.readKey k
    match known name with
    | none => do
      r.skip v
      pure (x, seen)
    | some key =>
      if key ∈ seen then throw (r.repeated name)
      else do
        let x ← read key x v
        pure (x, key :: seen)) (start, ([] : List κ))
  c.close
  pure x

def readListed (read : κ → α → ν → m α) (next : m Unit) (close : List ν → m Unit) :
    List κ → α → List ν → m α
  | [], x, rest => do
    close rest
    pure x
  | key :: keys, x, n :: rest => do
    let x ← read key x n
    readListed read next close keys x rest
  | _ :: keys, x, [] => do
    next
    readListed read next close keys x []

def readRecord [DecidableEq κ] (wanted : Wanted) (keys : List κ) (known : String → Option κ)
    (read : Nat → κ → α → ν → m α) (start : α) (depth : Nat) (n : ν) : m α := do
  match ← r.record wanted (← r.resolve n), depth with
  | none, _ => pure start
  | some _, 0 => throw r.tooDeep
  | some (.keyed c), depth + 1 => r.readKeyed known (read depth) start c
  | some (.listed items next close), depth + 1 =>
    readListed (read depth) next close keys start items

def readDeclaration (depth : Nat) (n : ν) : m Declaration :=
  Declaration.ofValue <$> r.readValue r.declarationKey depth n

def readLink (read : Nat → ν → m Document) : Nat → ν → m (Link Document) :=
  r.readRecord .link LinkKeyword.all LinkKeyword.ofText? (fun depth key l n => do
    match key with
    | .title => pure { l with title := ← r.readText n }
    | .href => pure { l with href := ← r.readText n }
    | .method => pure { l with method := ← r.readText n }
    | .rel => pure { l with rel := ← r.readText n }
    | .description => pure { l with description := ← r.readText n }
    | .schema => pure { l with schema := ← r.optional (read depth) n }) {}

def readMember (read : Nat → ν → m Document) (depth : Nat) (key : Keyword) (d : Document) (n : ν) :
    m Document := do
  match key with
  | .id => pure { d with id := ← r.readText n }
  | .dialect => pure { d with dialect := ← r.readText n }
  | .declaration => pure { d with declaration := ← r.optional (r.readDeclaration depth) n }
  | .description => pure { d with description := ← r.readText n }
  | .reference => pure { d with reference := ← r.readText n }
  | .sample => pure { d with sample := ← r.optional (r.readValue r.key depth) n }
  | .pattern => pure { d with pattern := ← r.readText n }
  | .required => pure { d with required := ← r.readList (fun _ => r.readText) depth n }
  | .min => pure { d with min := ← r.optional r.readNumber n }
  | .minValue => pure { d with minValue := ← r.optional r.readNumber n }
  | .max => pure { d with max := ← r.optional r.readNumber n }
  | .maxValue => pure { d with maxValue := ← r.optional r.readNumber n }
  | .minLength => pure { d with minLength := ← r.readLength n }
  | .maxLength => pure { d with maxLength := ← r.readLength n }
  | .definitions => pure { d with definitions := ← r.readTable (fun k => r.optional (read k)) depth n }
  | .properties => pure { d with properties := ← r.readTable (fun k => r.optional (read k)) depth n }
  | .items => pure { d with items := ← r.optional (read depth) n }
  | .choices => pure { d with choices := ← r.readList (fun _ => r.readText) depth n }
  | .links => pure { d with links := ← r.readList (r.readLink read) depth n }

def readDocumentWithin : Nat → Nat → ν → m Document
  | 0, _, _ => throw r.tooDeep
  | fuel + 1, depth, n =>
    r.readRecord .document Keyword.all Keyword.ofText? (r.readMember (readDocumentWithin fuel)) {}
      depth n

def readDocument (depth : Nat) (n : ν) : m Document := r.readDocumentWithin (depth + 1) depth n

end Reader
end SchemaCheck
