import SchemaCheck.Document.Reader
import SchemaCheck.Proofs.Endings
import SchemaCheck.Proofs.Retyping

/-! Two texts of one notation, the second with a `type` member more at some of its schemas. What is related
is what was read of the texts, node by node: the schemas with their sections, items and links, and what
stands beside them, which is the same data. -/
namespace SchemaCheck

def Additions.inside (added : Additions) : Additions
  | [] => none
  | s :: path => added (s :: path)

/-- What a node is read as, with what is added at and below it. -/
inductive Part where
  | schema (added : Additions)
  | table (added : String → Additions)
  | links (added : Nat → Additions)
  | link (added : Additions)
  | data
  | unread

def Keyword.part (added : Additions) : Keyword → Part
  | definitions => .table fun name => added.below (.definition name)
  | properties => .table fun name => added.below (.property name)
  | items => .schema (added.below .items)
  | links => .links fun index => added.below (.link index)
  | _ => .data

def LinkKeyword.part (added : Additions) : LinkKeyword → Part
  | schema => .schema added
  | _ => .data

def Part.Still : Part → Prop
  | schema added => added [] = none
  | table _ | links _ | link _ => True
  | data | unread => False

/-- How the nodes of a notation are made. `stands n c t`: where `n` stands `t` is read, which counts `c`;
the nodes of the second text are looked up on their own. `data`, `unread` and `declared` say what is
the same data, what need not be looked at and what a `type` of the second text declares, with so many
collections that may still be opened. -/
structure Layout (ν : Type) where
  stands : ν → Nat → ν → Prop
  stands' : ν → Nat → ν → Prop
  leaf : ν → Prop
  items : ν → List ν → Prop
  members : ν → List (ν × ν) → Prop
  text : ν → String → Prop
  blank : ν → Prop
  data : Nat → ν → ν → Prop
  unread : ν → ν → Prop
  declared : Nat → ν → Option Declaration → Prop

namespace Layout

variable (L : Layout ν) (G : Part → ν → ν → Prop)

def Key (k k' : ν) (name : String) : Prop :=
  ∃ c t t', L.stands k c t ∧ L.stands' k' c t' ∧ L.text t name ∧ L.text t' name

def Member (known : String → Option κ) (part : κ → Part) (here : String → Prop) (x y : ν × ν) : Prop :=
  ∃ name, here name ∧ L.Key x.1 y.1 name ∧
    match known name with
    | some key => G (part key) x.2 y.2
    | none => G .unread x.2 y.2

abbrev SchemaMembers (added : Additions) (here : String → Prop) : List (ν × ν) → List (ν × ν) → Prop :=
  List.Forall₂ (L.Member G Keyword.ofText? (Keyword.part added) here)

/- The rows of a section with their names. A row that a later one of its name hides may be given anything. -/
inductive Rows (added : String → Additions) : List String → List (ν × ν) → List (ν × ν) → Prop where
  | nil : Rows added [] [] []
  | cons {name : String} {own : Additions} {names : List String} {x y : ν × ν} {xs ys : List (ν × ν)}
      (key : L.Key x.1 y.1 name) (last : name ∉ names → own = added name)
      (value : G (.schema own) x.2 y.2) (later : Rows added names xs ys) :
      Rows added (name :: names) (x :: xs) (y :: ys)

inductive Links : (Nat → Additions) → List ν → List ν → Prop where
  | nil {added : Nat → Additions} : Links added [] []
  | cons {added : Nat → Additions} {x y : ν} {xs ys : List ν} (here : G (.link (added 0)) x y)
      (later : Links (fun index => added (index + 1)) xs ys) : Links added (x :: xs) (y :: ys)

inductive Listed (part : κ → Part) : List κ → List ν → List ν → Prop where
  | nil : Listed part [] [] []
  | cons {key : κ} {keys : List κ} {x y : ν} {xs ys : List ν} (here : G (part key) x y)
      (later : Listed part keys xs ys) : Listed part (key :: keys) (x :: xs) (y :: ys)

inductive Opened (depth : Nat) : Part → ν → ν → Prop where
  | table {added : String → Additions} {names : List String} {n n' : ν} {xs ys : List (ν × ν)}
      (old : L.members n xs) (new : L.members n' ys) (rows : L.Rows G added names xs ys) :
      Opened depth (.table added) n n'
  | links {added : Nat → Additions} {n n' : ν} {xs ys : List ν} (old : L.items n xs) (new : L.items n' ys)
      (each : Links G added xs ys) : Opened depth (.links added) n n'
  | link {added : Additions} {n n' : ν} {xs ys : List (ν × ν)} (old : L.members n xs) (new : L.members n' ys)
      (each : List.Forall₂ (L.Member G LinkKeyword.ofText? (LinkKeyword.part added) fun _ => True) xs ys) :
      Opened depth (.link added) n n'
  | linkListed {added : Additions} {n n' : ν} {xs ys : List ν} (old : L.items n xs) (new : L.items n' ys)
      (each : Listed G (LinkKeyword.part added) LinkKeyword.all xs ys) : Opened depth (.link added) n n'
  | schema {added : Additions} {n n' : ν} {xs ys : List (ν × ν)} (kept : added [] = none)
      (old : L.members n xs) (new : L.members n' ys)
      (each : L.SchemaMembers G added (fun _ => True) xs ys) : Opened depth (.schema added) n n'
  | schemaListed {added : Additions} {n n' : ν} {xs ys : List ν} (kept : added [] = none)
      (old : L.items n xs) (new : L.items n' ys) (each : Listed G (Keyword.part added) Keyword.all xs ys) :
      Opened depth (.schema added) n n'
  | typed {added : Additions} {n n' k v : ν} {xs ys xs' ys' : List (ν × ν)} {declared : Option Declaration}
      (given : added [] = some declared) (old : L.members n (xs ++ ys))
      (new : L.members n' (xs' ++ (k,v) :: ys')) (itself : L.stands' k 0 k) (key : L.text k "type")
      (value : L.declared depth v declared)
      (before : L.SchemaMembers G added (· ≠ "type") xs xs')
      (after : L.SchemaMembers G added (· ≠ "type") ys ys') : Opened depth (.schema added) n n'
  | blank {added : Additions} {n n' k v : ν} {declared : Option Declaration}
      (given : added [] = some declared) (old : L.blank n) (new : L.members n' [(k,v)])
      (itself : L.stands' k 0 k) (key : L.text k "type") (value : L.declared depth v declared) :
      Opened depth (.schema added) n n'

inductive Near (depth : Nat) (O : Part → ν → ν → Prop) : Part → ν → ν → Prop where
  | data {n n' : ν} (same : L.data depth n n') : Near depth O .data n n'
  | unread {n n' : ν} (same : L.unread n n') : Near depth O .unread n n'
  | leaf {p : Part} {n n' t : ν} {c : Nat} (old : L.stands n c t) (new : L.stands' n' c t) (leaf : L.leaf t)
      (still : p.Still) : Near depth O p n n'
  | opened {p : Part} {n n' t t' : ν} {c : Nat} (old : L.stands n c t) (new : L.stands' n' c t')
      (inside : O p t t') : Near depth O p n n'

/-- The second node is the first with `type` members added, where so many collections may be opened. -/
def Grown : Nat → Part → ν → ν → Prop
  | 0 => L.Near 0 fun _ _ _ => False
  | depth + 1 => L.Near (depth + 1) (L.Opened (Grown depth) depth)

end Layout

variable {m : Type → Type} {ε ν : Type} [Monad m] [MonadExceptOf ε m] [Runs m ε]

structure Layout.Read (K : AddSubmonoid Nat) (L : Layout ν) (r r' : Reader m ε ν) : Prop where
  stood {n t : ν} {c : Nat} (stands : L.stands n c t) :
    L.stands t 0 t ∧ ∀ s x u, ends (r.resolve n) s x u → x = t ∧ s = u + c
  stood' {n t : ν} {c : Nat} (stands : L.stands' n c t) :
    L.stands' t 0 t ∧ ∀ s, ends (r'.resolve n) (s + c) t s
  leafAbsent {n : ν} (leaf : L.leaf n) : Follows K (· = ·) (r.absent n) (r'.absent n)
  leafSequence {n : ν} (leaf : L.leaf n) :
    Follows K (fun c c' => c = none ∧ c' = none) (r.sequence n) (r'.sequence n)
  leafMap {n : ν} (leaf : L.leaf n) : Follows K (fun c c' => c = none ∧ c' = none) (r.map n) (r'.map n)
  leafRecord {n : ν} (leaf : L.leaf n) (w : Wanted) :
    Follows K (fun f f' => f = none ∧ f' = none) (r.record w n) (r'.record w n)
  blankRecord {n : ν} (blank : L.blank n) : r.absent n = pure false ∧ r.record .document n = pure none
  itemsAbsent {n : ν} {xs : List ν} (items : L.items n xs) :
    r.absent n = pure false ∧ r'.absent n = pure false
  itemsSequence {n : ν} {xs : List ν} (items : L.items n xs) :
    r.sequence n = pure (some ⟨xs,pure ()⟩) ∧ r'.sequence n = pure (some ⟨xs,pure ()⟩)
  itemsRecord {n n' : ν} {xs ys : List ν} (old : L.items n xs) (new : L.items n' ys) (w : Wanted) :
    Follows K (fun f f' => ∃ next close next' close', f = some (.listed xs next close) ∧
      f' = some (.listed ys next' close') ∧ Follows K (· = ·) (close []) (close' []))
      (r.record w n) (r'.record w n')
  membersAbsent {n : ν} {xs : List (ν × ν)} (members : L.members n xs) :
    r.absent n = pure false ∧ r'.absent n = pure false
  membersMap {n : ν} {xs : List (ν × ν)} (members : L.members n xs) :
    r.map n = pure (some ⟨xs,pure ()⟩) ∧ r'.map n = pure (some ⟨xs,pure ()⟩)
  membersRecord {n : ν} {xs : List (ν × ν)} (members : L.members n xs) (w : Wanted) :
    r.record w n = pure (some (.keyed ⟨xs,pure ()⟩)) ∧ r'.record w n = pure (some (.keyed ⟨xs,pure ()⟩))
  keyText {n : ν} {name : String} (text : L.text n name) : r.key n = pure name ∧ r'.key n = pure name
  skipped {n n' : ν} (unread : L.unread n n') : Follows K (· = ·) (r.skip n) (r'.skip n')
  dataText {depth : Nat} {n n' : ν} (same : L.data depth n n') :
    Follows K (· = ·) (r.readText n) (r'.readText n')
  dataNumber {depth : Nat} {n n' : ν} (same : L.data depth n n') :
    Follows K (· = ·) (r.optional r.readNumber n) (r'.optional r'.readNumber n')
  dataLength {depth : Nat} {n n' : ν} (same : L.data depth n n') :
    Follows K (· = ·) (r.readLength n) (r'.readLength n')
  dataTexts {depth : Nat} {n n' : ν} (same : L.data depth n n') :
    Follows K (· = ·) (r.readList (fun _ => r.readText) depth n) (r'.readList (fun _ => r'.readText) depth n')
  dataValue {depth : Nat} {n n' : ν} (same : L.data depth n n') :
    Follows K (· = ·) (r.optional (r.readValue r.key depth) n) (r'.optional (r'.readValue r'.key depth) n')
  dataDeclaration {depth : Nat} {n n' : ν} (same : L.data depth n n') :
    Follows K (· = ·) (r.optional (r.readDeclaration depth) n) (r'.optional (r'.readDeclaration depth) n')
  declared {depth : Nat} {n : ν} {t : Option Declaration} (declared : L.declared depth n t) :
    Gives K (r'.optional (r'.readDeclaration depth) n) t

end SchemaCheck
