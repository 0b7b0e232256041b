import Mathlib.Algebra.Group.Nat.Defs
import Mathlib.Algebra.Group.Submonoid.Defs
import Mathlib.Data.List.Forall2

/-! Runs that end. A run may use up a count, as following aliases does; one run follows another if it ends
wherever the other does, with a result that goes with it and with no more of the count used than is allowed
to be added. -/
namespace SchemaCheck

/-- How runs of a monad end: `ends c s x t` if `c`, begun with the count `s`, gives `x` and leaves `t`. -/
class Runs (m : Type → Type) (ε : outParam Type) [Monad m] [MonadExceptOf ε m] where
  ends {α : Type} : m α → Nat → α → Nat → Prop
  endsPure {α : Type} {x y : α} {s t : Nat} : ends (pure x) s y t ↔ y = x ∧ t = s
  endsBind {α β : Type} {c : m α} {f : α → m β} {s t : Nat} {y : β} :
    ends (c >>= f) s y t ↔ ∃ x u, ends c s x u ∧ ends (f x) u y t
  endsThrow {α : Type} {e : ε} {s t : Nat} {x : α} : ¬ ends (throw e) s x t

export Runs (ends endsPure endsBind endsThrow)

instance {ε : Type} : Runs (Except ε) ε where
  ends c s x t := c = .ok x ∧ t = s
  endsPure := by simp [pure,Except.pure,eq_comm]
  endsBind {_ _ c f s t y} := by
    cases c with
    | error e => simp [bind,Except.bind]
    | ok x => simp [bind,Except.bind]
  endsThrow := by simp [throw,throwThe,MonadExceptOf.throw]

instance {ε : Type} : Runs (StateT Nat (Except ε)) ε where
  ends c s x t := c.run s = .ok (x,t)
  endsPure := by
    intros
    rw [StateT.run_pure]
    simp [pure,Except.pure,Prod.ext_iff,eq_comm]
  endsBind {_ _ c f s t y} := by
    rw [StateT.run_bind]
    cases run : c.run s with
    | error e => simp [bind,Except.bind]
    | ok found => simp [bind,Except.bind,Prod.ext_iff]
  endsThrow := by simp [throw,throwThe,MonadExceptOf.throw]

variable {m : Type → Type} {ε α β γ δ : Type} [Monad m] [MonadExceptOf ε m] [Runs m ε]

section
variable (K : AddSubmonoid Nat)

/-- A run that gives `x` and uses one of the counts of `K` for it. -/
def Gives (c : m α) (x : α) : Prop := ∃ k ∈ K, ∀ s, ends c (s + k) x s

def Follows (R : α → β → Prop) (c : m α) (c' : m β) : Prop :=
  ∀ s x t, ends c s x t → ∃ y, R x y ∧ ∃ k ∈ K, ∀ more, ends c' (s + more + k) y (t + more)

end

variable {K : AddSubmonoid Nat}

namespace Gives

theorem ofEnds {c : m α} {x : α} (ended : ∀ s, ends c s x s) : Gives K c x := ⟨0,K.zero_mem,ended⟩

theorem pure (x : α) : Gives K (pure x : m α) x := ofEnds fun _ => endsPure.mpr ⟨rfl,rfl⟩

theorem bind {c : m α} {x : α} {f : α → m β} {y : β} (first : Gives K c x) (later : Gives K (f x) y) :
    Gives K (c >>= f) y := by
  obtain ⟨j,some,one⟩ := first
  obtain ⟨k,more,two⟩ := later
  refine ⟨k + j,K.add_mem more some,fun s => ?_⟩
  rw [← Nat.add_assoc]
  exact endsBind.mpr ⟨x,s + k,one (s + k),two s⟩

theorem map [LawfulMonad m] {c : m α} {x : α} (given : Gives K c x) (f : α → β) :
    Gives K (f <$> c) (f x) := by
  rw [map_eq_pure_bind]
  exact given.bind (pure _)

theorem mapM [LawfulMonad m] {P : γ → α → Prop} {f : γ → m α} {xs : List γ} {ys : List α}
    (inputs : List.Forall₂ P xs ys) (each : ∀ x y, P x y → Gives K (f x) y) : Gives K (xs.mapM f) ys := by
  induction inputs with
  | nil => exact pure []
  | cons head _ ih =>
    rw [List.mapM_cons]
    exact (each _ _ head).bind (ih.bind (pure _))

end Gives

theorem mapMEnds [LawfulMonad m] {P : γ → α → Prop} {f : γ → m α} {xs : List γ} {ys : List α} {s t : Nat}
    (each : ∀ x ∈ xs, ∀ y s t, ends (f x) s y t → P x y) (ended : ends (xs.mapM f) s ys t) :
    List.Forall₂ P xs ys := by
  induction xs generalizing s ys with
  | nil =>
    rw [List.mapM_nil] at ended
    obtain ⟨rfl,_⟩ := endsPure.mp ended
    exact .nil
  | cons x xs ih =>
    rw [List.mapM_cons] at ended
    obtain ⟨y,u,here,ended⟩ := endsBind.mp ended
    obtain ⟨later,w,rest,last⟩ := endsBind.mp ended
    obtain ⟨rfl,rfl⟩ := endsPure.mp last
    have others : ∀ x ∈ xs, ∀ y s t, ends (f x) s y t → P x y := fun x inside =>
      each x (List.mem_cons_of_mem _ inside)
    exact .cons (each x List.mem_cons_self y s u here) (ih others rest)

theorem foldlMEnds {f : α → γ → m α} {xs : List γ} {x : γ} (member : x ∈ xs) {start last : α} {s t : Nat}
    (ended : ends (xs.foldlM f start) s last t) : ∃ a b s t, ends (f a x) s b t := by
  induction xs generalizing start s with
  | nil => contradiction
  | cons y ys ih =>
    rw [List.foldlM_cons] at ended
    obtain ⟨b,u,here,rest⟩ := endsBind.mp ended
    rcases List.mem_cons.mp member with rfl | later
    · exact ⟨start,b,s,u,here⟩
    · exact ih later rest

namespace Follows

variable {R : α → β → Prop} {S : γ → δ → Prop} {c : m α} {c' : m β}

theorem pure {x : α} {y : β} (related : R x y) : Follows K R (pure x : m α) (pure y) := by
  intro s z t ended
  obtain ⟨rfl,rfl⟩ := endsPure.mp ended
  exact ⟨y,related,0,K.zero_mem,fun _ => endsPure.mpr ⟨rfl,rfl⟩⟩

theorem bind {f : α → m γ} {f' : β → m δ} (first : Follows K R c c')
    (later : ∀ x y, R x y → Follows K S (f x) (f' y)) : Follows K S (c >>= f) (c' >>= f') := by
  intro s z t ended
  obtain ⟨x,u,one,two⟩ := endsBind.mp ended
  obtain ⟨y,related,j,some,one'⟩ := first s x u one
  obtain ⟨w,result,k,others,two'⟩ := later x y related u z t two
  refine ⟨w,result,k + j,K.add_mem others some,fun more => ?_⟩
  have run := one' (more + k)
  rw [← Nat.add_assoc,← Nat.add_assoc] at run
  rw [← Nat.add_assoc]
  exact endsBind.mpr ⟨y,u + more + k,run,two' more⟩

theorem ofEnds {x : α} {y : β} {k : Nat} (only : ∀ s z t, ends c s z t → z = x ∧ s = t + k)
    (gives : ∀ s, ends c' (s + k) y s) : Follows K (fun z w => z = x ∧ w = y) c c' := by
  intro s z t ended
  obtain ⟨rfl,rfl⟩ := only s z t ended
  refine ⟨y,⟨rfl,rfl⟩,0,K.zero_mem,fun more => ?_⟩
  rw [Nat.add_zero,Nat.add_right_comm]
  exact gives (t + more)

theorem thrown {e : ε} : Follows K R (throw e : m α) c' := fun _ _ _ ended => absurd ended endsThrow

theorem mono {R' : α → β → Prop} (follows : Follows K R c c') (weaker : ∀ x y, R x y → R' x y) :
    Follows K R' c c' := by
  intro s x t ended
  obtain ⟨y,related,run⟩ := follows s x t ended
  exact ⟨y,weaker x y related,run⟩

theorem map [LawfulMonad m] {f : α → γ} {f' : β → δ} (follows : Follows K R c c')
    (each : ∀ x y, R x y → S (f x) (f' y)) : Follows K S (f <$> c) (f' <$> c') := by
  rw [map_eq_pure_bind,map_eq_pure_bind]
  exact follows.bind fun x y related => pure (each x y related)

theorem after {d : m γ} {z : γ} {f : γ → m β} (extra : Gives K d z) (later : Follows K R c (f z)) :
    Follows K R c (d >>= f) := by
  intro s x t ended
  obtain ⟨j,some,first⟩ := extra
  obtain ⟨y,related,k,others,run⟩ := later s x t ended
  refine ⟨y,related,k + j,K.add_mem others some,fun more => ?_⟩
  rw [← Nat.add_assoc]
  exact endsBind.mpr ⟨z,s + more + k,first _,run more⟩

theorem mapM [LawfulMonad m] {P : γ → δ → Prop} {f : γ → m α} {f' : δ → m β} {xs : List γ} {ys : List δ}
    (inputs : List.Forall₂ P xs ys) (each : ∀ x y, P x y → Follows K R (f x) (f' y)) :
    Follows K (List.Forall₂ R) (xs.mapM f) (ys.mapM f') := by
  induction inputs with
  | nil => exact pure .nil
  | cons head _ ih =>
    rw [List.mapM_cons,List.mapM_cons]
    exact (each _ _ head).bind fun a b here => ih.bind fun as bs later => pure (.cons here later)

theorem foldlM {P : γ → δ → Prop} {f : α → γ → m α} {f' : β → δ → m β} {xs : List γ} {ys : List δ}
    (inputs : List.Forall₂ P xs ys) (each : ∀ a b x y, R a b → P x y → Follows K R (f a x) (f' b y))
    {a : α} {b : β} (start : R a b) : Follows K R (xs.foldlM f a) (ys.foldlM f' b) := by
  induction inputs generalizing a b with
  | nil => exact pure start
  | cons head _ ih =>
    rw [List.foldlM_cons,List.foldlM_cons]
    exact (each a b _ _ start head).bind fun _ _ here => ih here

end Follows
end SchemaCheck
