import SchemaCheck.Document.Reader
import SchemaCheck.Proofs.Endings

/-! Nodes that can be kept as data, whatever asks for them: scalars with a value, and lists and objects of
such nodes whose names are texts. A `type` that holds one is read, and is no error of its document. -/
namespace SchemaCheck

namespace Reader

variable {m : Type → Type} {ε ν : Type} [Monad m] [MonadExceptOf ε m] (r : Reader m ε ν)

def readEntry (key : ν → m String) (depth : Nat) (e : ν × ν) : m (String × Value) := do
  let name ← key (← r.resolve e.1)
  let x ← r.readValue key depth e.2
  pure (name,x)

def readShape (key : ν → m String) : Nat → Shape m ν → m Value
  | _, .scalar v => pure v
  | 0, _ => throw r.tooDeep
  | depth + 1, .sequence c => do
    let xs ← c.items.mapM (r.readValue key depth)
    c.close
    pure (.array xs)
  | depth + 1, .map c => do
    let xs ← c.items.mapM (r.readEntry key depth)
    c.close
    pure (.object (Entries.ofList xs))

/- The recursion is on the depth, below a match on what the node turns out to be. -/
theorem valueEqual (key : ν → m String) (depth : Nat) (n : ν) :
    r.readValue key depth n = (do r.readShape key depth (← r.shape (← r.resolve n))) := by
  delta readShape readEntry readValue
  cases depth <;> refine bind_congr fun n => bind_congr fun shape => ?_ <;> cases shape <;> rfl

end Reader

/-- What the nodes of a notation are as data, where they are: `leads n c t` says that `t` is read where `n`
stands, which uses `c`. A `null` is not there at all where it may be left out. -/
structure DataLayout (ν : Type) where
  leads : ν → Nat → ν → Prop
  null : ν → Prop
  scalar : ν → Value → Prop
  list : ν → List ν → Prop
  object : ν → List (ν × ν) → Prop
  name : ν → String → Prop

namespace DataLayout

variable {ν : Type} (D : DataLayout ν)

def Named (n : ν) (s : String) : Prop := ∃ c t, D.leads n c t ∧ D.name t s

inductive Collected (H : ν → Value → Prop) : ν → Value → Prop where
  | list {n : ν} {xs : List ν} {vs : List Value} (list : D.list n xs) (each : List.Forall₂ H xs vs) :
      Collected H n (.array vs)
  | object {n : ν} {xs : List (ν × ν)} {es : List (String × Value)} (object : D.object n xs)
      (each : List.Forall₂ (fun x e => D.Named x.1 e.1 ∧ H x.2 e.2) xs es) :
      Collected H n (.object (Entries.ofList es))

def Holds : Nat → ν → Value → Prop
  | 0, n, v => ∃ c t, D.leads n c t ∧ D.scalar t v
  | depth + 1, n, v => ∃ c t, D.leads n c t ∧ (D.scalar t v ∨ D.Collected (Holds depth) t v)

inductive Declares (depth : Nat) : ν → Option Declaration → Prop where
  | nothing {n t : ν} {c : Nat} (leads : D.leads n c t) (null : D.null t) : Declares depth n none
  | something {n t : ν} {c : Nat} {v : Value} (leads : D.leads n c t) (given : ¬ D.null t)
      (holds : D.Holds depth t v) : Declares depth n (some (.ofValue v))

variable {m : Type → Type} {ε : Type} [Monad m] [MonadExceptOf ε m] [Runs m ε]

structure Read (K : AddSubmonoid Nat) (r : Reader m ε ν) : Prop where
  leads {n t : ν} {c : Nat} (leads : D.leads n c t) : c ∈ K ∧ ∀ s, ends (r.resolve n) (s + c) t s
  null {n : ν} (null : D.null n) : r.absent n = pure true
  given {n t : ν} {c : Nat} (leads : D.leads n c t) (given : ¬ D.null n)
    (kept : (∃ v, D.scalar t v) ∨ (∃ xs, D.list t xs) ∨ ∃ xs, D.object t xs) : r.absent n = pure false
  scalar {n : ν} {v : Value} (scalar : D.scalar n v) : r.shape n = pure (.scalar v)
  list {n : ν} {xs : List ν} (list : D.list n xs) : r.shape n = pure (.sequence ⟨xs,pure ()⟩)
  object {n : ν} {xs : List (ν × ν)} (object : D.object n xs) : r.shape n = pure (.map ⟨xs,pure ()⟩)
  name {n : ν} {s : String} (name : D.name n s) : r.declarationKey n = pure s

namespace Read

variable {D} {K : AddSubmonoid Nat} {r : Reader m ε ν} (laws : D.Read K r) {depth : Nat} {n : ν}
include laws

theorem led {t : ν} {c : Nat} (leads : D.leads n c t) : Gives K (r.resolve n) t :=
  ⟨c,(laws.leads leads).1,(laws.leads leads).2⟩

theorem present {v : Value} (given : ¬ D.null n) (holds : D.Holds depth n v) : r.absent n = pure false := by
  cases depth with
  | zero =>
    obtain ⟨c,t,leads,scalar⟩ := holds
    exact laws.given leads given (Or.inl ⟨v,scalar⟩)
  | succ depth =>
    obtain ⟨c,t,leads,scalar | collected⟩ := holds
    · exact laws.given leads given (Or.inl ⟨v,scalar⟩)
    · cases collected with
      | list list _ => exact laws.given leads given (Or.inr (Or.inl ⟨_,list⟩))
      | object object _ => exact laws.given leads given (Or.inr (Or.inr ⟨_,object⟩))

theorem nameRead {s : String} (named : D.Named n s) :
    Gives K (do r.declarationKey (← r.resolve n)) s := by
  obtain ⟨c,t,leads,name⟩ := named
  refine (laws.led leads).bind ?_
  rw [laws.name name]
  exact .pure s

variable [LawfulMonad m]

theorem scalarRead {t : ν} {c : Nat} {v : Value} (leads : D.leads n c t) (scalar : D.scalar t v) :
    Gives K (r.readValue r.declarationKey depth n) v := by
  rw [Reader.valueEqual]
  refine (laws.led leads).bind ?_
  rw [laws.scalar scalar,pure_bind]
  cases depth <;> exact .pure v

theorem holdsRead {v : Value} (holds : D.Holds depth n v) :
    Gives K (r.readValue r.declarationKey depth n) v := by
  induction depth generalizing n v with
  | zero =>
    obtain ⟨c,t,leads,scalar⟩ := holds
    exact laws.scalarRead leads scalar
  | succ depth ih =>
    obtain ⟨c,t,leads,scalar | collected⟩ := holds
    · exact laws.scalarRead leads scalar
    · rw [Reader.valueEqual]
      refine (laws.led leads).bind ?_
      cases collected with
      | list list each =>
        rw [laws.list list,pure_bind]
        exact (Gives.mapM each fun _ _ => ih).bind (Gives.bind (.pure ()) (.pure _))
      | object object each =>
        rw [laws.object object,pure_bind]
        refine (Gives.mapM each ?_).bind (Gives.bind (.pure ()) (.pure _))
        rintro x e ⟨named,value⟩
        rw [Reader.readEntry,← bind_assoc]
        exact (laws.nameRead named).bind ((ih value).bind (.pure _))

theorem declaresRead {t : Option Declaration} (declares : D.Declares depth n t) :
    Gives K (r.optional (r.readDeclaration depth) n) t := by
  rw [Reader.optional]
  cases declares with
  | nothing leads null =>
    refine (laws.led leads).bind ?_
    rw [laws.null null,pure_bind]
    exact .pure none
  | something leads given holds =>
    refine (laws.led leads).bind ?_
    rw [laws.present given holds,pure_bind]
    exact ((laws.holdsRead holds).map _).map some

end Read
end DataLayout
end SchemaCheck
