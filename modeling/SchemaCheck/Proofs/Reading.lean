import Mathlib
import SchemaCheck.Proofs.Steps
import SchemaCheck.Proofs.Table

/-! Documents as they are read. Whatever a reader is given, the sections of a document that it returns are
in strict order of their names, at every depth; so no name is in a section twice. -/
namespace SchemaCheck

theorem Entries.memberOfList {xs : List (String × α)} {e : String × α} (member : e ∈ ofList xs) :
    e ∈ xs := by
  have step : ∀ (xs : List (String × α)) (acc : Entries α),
      e ∈ xs.foldl (fun acc x => Entries.insert x.1 x.2 acc) acc → e ∈ acc ∨ e ∈ xs := by
    intro xs
    induction xs with
    | nil => exact fun acc inside => Or.inl inside
    | cons x rest ih =>
      intro acc inside
      rcases ih _ inside with inserted | later
      · rcases memberInsert inserted with rfl | before
        · exact Or.inr List.mem_cons_self
        · exact Or.inl before
      · exact Or.inr (List.mem_cons_of_mem _ later)
  exact (step xs [] member).resolve_left List.not_mem_nil

namespace Document

inductive Tabled : Document → Prop where
  | intro {d : Document} (definitions : Entries.Ordered d.definitions)
      (properties : Entries.Ordered d.properties)
      (inDefinitions : ∀ e ∈ d.definitions, ∀ c ∈ e.2, Tabled c)
      (inProperties : ∀ e ∈ d.properties, ∀ c ∈ e.2, Tabled c)
      (inLinks : ∀ l ∈ d.links, ∀ c ∈ l.schema, Tabled c)
      (inItems : ∀ c ∈ d.items, Tabled c) : Tabled d

namespace Tabled

theorem empty : Tabled {} :=
  ⟨List.Pairwise.nil,List.Pairwise.nil,by simp,by simp,by simp,by simp⟩

theorem sameSections {d e : Document} (tabled : Tabled d)
    (definitions : e.definitions = d.definitions) (properties : e.properties = d.properties)
    (links : e.links = d.links) (items : e.items = d.items) : Tabled e := by
  obtain ⟨definitionsOrdered,propertiesOrdered,inDefinitions,inProperties,inLinks,inItems⟩ := tabled
  rw [← definitions] at definitionsOrdered inDefinitions
  rw [← properties] at propertiesOrdered inProperties
  rw [← links] at inLinks
  rw [← items] at inItems
  exact ⟨definitionsOrdered,propertiesOrdered,inDefinitions,inProperties,inLinks,inItems⟩

theorem ordered {d : Document} (tabled : Tabled d) :
    Entries.Ordered d.definitions ∧ Entries.Ordered d.properties := by
  obtain ⟨definitions,properties,_⟩ := tabled
  exact ⟨definitions,properties⟩

theorem part {id : String} {d : Document} (tabled : Tabled d) {p : Node} (member : p ∈ parts id d) :
    Tabled p.2 := by
  obtain ⟨_,_,inDefinitions,inProperties,inLinks,inItems⟩ := tabled
  simp only [parts,List.mem_append] at member
  rcases member with ((found | found) | found) | found
  · obtain ⟨name,_,inside⟩ := partsOfEntriesMember found
    exact inDefinitions _ inside _ rfl
  · obtain ⟨name,_,inside⟩ := partsOfEntriesMember found
    exact inProperties _ inside _ rfl
  · obtain ⟨_,_,l,inside,schema⟩ := partsOfLinksMember found
    exact inLinks l inside _ schema
  · exact inItems _ (partOfOptionalMember found).2

end Tabled
end Document

namespace Reader
open Document

variable {m : Type → Type} {ε ν α κ : Type} [Monad m] [LawfulMonad m] {r : Reader m ε ν}

theorem mapGives {P : β → Prop} {f : α → m β} {xs : List α}
    (each : ∀ x ∈ xs, SatisfiesM P (f x)) : SatisfiesM (fun ys => ∀ y ∈ ys, P y) (xs.mapM f) := by
  induction xs with
  | nil => exact SatisfiesM.pure (by simp)
  | cons x rest ih =>
    rw [List.mapM_cons]
    refine (each x List.mem_cons_self).bind fun y head => ?_
    refine (ih fun z later => each z (List.mem_cons_of_mem _ later)).bind fun ys tail => ?_
    exact SatisfiesM.pure (List.forall_mem_cons.mpr ⟨head,tail⟩)

theorem optionalGives {P : α → Prop} {read : ν → m α} (each : ∀ n, SatisfiesM P (read n)) (n : ν) :
    SatisfiesM (fun found => ∀ x ∈ found, P x) (r.optional read n) := by
  refine SatisfiesM.trivial.bind fun n _ => SatisfiesM.trivial.bind fun absent _ => ?_
  cases absent
  · exact (each n).map fun {x} given y found => Option.mem_some_iff.mp found ▸ given
  · exact SatisfiesM.pure (by simp)

theorem listedGives {P : α → Prop} {read : κ → α → ν → m α}
    (each : ∀ key x n, P x → SatisfiesM P (read key x n)) (next : m Unit) (close : List ν → m Unit)
    (keys : List κ) {start : α} (first : P start) (items : List ν) :
    SatisfiesM P (readListed read next close keys start items) := by
  induction keys generalizing start items with
  | nil => exact SatisfiesM.trivial.bind fun _ _ => SatisfiesM.pure first
  | cons key keys ih =>
    cases items with
    | nil => exact SatisfiesM.trivial.bind fun _ _ => ih first []
    | cons n rest => exact (each key start n first).bind fun x given => ih given rest

variable [MonadExceptOf ε m]
  (stops : ∀ {β : Type} (P : β → Prop) (e : ε), SatisfiesM P (throw e : m β))
include stops

theorem listGives {P : α → Prop} {read : Nat → ν → m α} (each : ∀ k n, SatisfiesM P (read k n))
    (depth : Nat) (n : ν) : SatisfiesM (fun xs => ∀ x ∈ xs, P x) (r.readList read depth n) := by
  refine SatisfiesM.trivial.bind fun n _ => SatisfiesM.trivial.bind fun contents _ => ?_
  match contents, depth with
  | none, _ => exact SatisfiesM.pure (by simp)
  | some _, 0 => exact stops _ _
  | some c, depth + 1 =>
    refine (mapGives fun x _ => each depth x).bind fun xs given => ?_
    exact SatisfiesM.trivial.bind fun _ _ => SatisfiesM.pure given

theorem tableGives {P : α → Prop} {read : Nat → ν → m α} (each : ∀ k n, SatisfiesM P (read k n))
    (depth : Nat) (n : ν) :
    SatisfiesM (fun xs => Entries.Ordered xs ∧ ∀ e ∈ xs, P e.2) (r.readTable read depth n) := by
  refine SatisfiesM.trivial.bind fun n _ => SatisfiesM.trivial.bind fun contents _ => ?_
  match contents, depth with
  | none, _ => exact SatisfiesM.pure ⟨List.Pairwise.nil,by simp⟩
  | some _, 0 => exact stops _ _
  | some c, depth + 1 =>
    have row : ∀ e ∈ c.items, SatisfiesM (fun e : String × α => P e.2) (do
        let name ← r.readKey e.1
        let x ← read depth e.2
        pure (name,x)) := by
      intro e _
      refine SatisfiesM.trivial.bind fun name _ => (each depth e.2).bind fun x given => ?_
      exact SatisfiesM.pure given
    refine (mapGives row).bind fun xs given => SatisfiesM.trivial.bind fun _ _ => ?_
    exact SatisfiesM.pure ⟨Entries.orderedOfList xs,fun e inside => given e (Entries.memberOfList inside)⟩

theorem keyedGives [DecidableEq κ] {P : α → Prop} {known : String → Option κ}
    {read : κ → α → ν → m α} (each : ∀ key x n, P x → SatisfiesM P (read key x n)) {start : α} (first : P start)
    (c : Contents m (ν × ν)) : SatisfiesM P (r.readKeyed known read start c) := by
  refine SatisfiesM.bind (p := fun s => P s.1) (List.satisfiesM_foldlM first ?_) ?_
  · intro s given e _
    refine SatisfiesM.trivial.bind fun name _ => ?_
    split
    · exact SatisfiesM.trivial.bind fun _ _ => SatisfiesM.pure given
    · next key _ =>
      split
      · exact stops _ _
      · exact (each key s.1 e.2 given).bind fun x kept => SatisfiesM.pure kept
  · intro s given
    exact SatisfiesM.trivial.bind fun _ _ => SatisfiesM.pure given

theorem recordGives [DecidableEq κ] {P : α → Prop} {read : Nat → κ → α → ν → m α}
    (each : ∀ k key x n, P x → SatisfiesM P (read k key x n)) (wanted : Wanted) (keys : List κ)
    (known : String → Option κ) {start : α} (first : P start) (depth : Nat) (n : ν) :
    SatisfiesM P (r.readRecord wanted keys known read start depth n) := by
  refine SatisfiesM.trivial.bind fun n _ => SatisfiesM.trivial.bind fun record _ => ?_
  match record, depth with
  | none, _ => exact SatisfiesM.pure first
  | some _, 0 => exact stops _ _
  | some (.keyed c), depth + 1 => exact keyedGives stops (each depth) first c
  | some (.listed items next close), depth + 1 => exact listedGives (each depth) next close keys first items

theorem linkGives {P : Document → Prop} {read : Nat → ν → m Document}
    (each : ∀ k n, SatisfiesM P (read k n)) (depth : Nat) (n : ν) :
    SatisfiesM (fun l => ∀ d ∈ l.schema, P d) (r.readLink read depth n) := by
  refine recordGives stops ?_ .link _ _ (by simp) depth n
  intro k key l n given
  cases key with
  | schema => exact (optionalGives (each k) n).bind fun _ found => SatisfiesM.pure found
  | _ => exact SatisfiesM.trivial.bind fun _ _ => SatisfiesM.pure given

theorem memberGives {read : Nat → ν → m Document} (each : ∀ k n, SatisfiesM Tabled (read k n))
    (depth : Nat) (key : Keyword) {d : Document} (tabled : Tabled d) (n : ν) :
    SatisfiesM Tabled (r.readMember read depth key d n) := by
  have sections := tableGives (r := r) stops (fun k n => optionalGives (r := r) (each k) n) depth n
  have parts := tabled
  obtain ⟨definitions,properties,inDefinitions,inProperties,inLinks,inItems⟩ := parts
  cases key with
  | definitions =>
    refine sections.bind fun ds found => SatisfiesM.pure ?_
    exact ⟨found.1,properties,found.2,inProperties,inLinks,inItems⟩
  | properties =>
    refine sections.bind fun ds found => SatisfiesM.pure ?_
    exact ⟨definitions,found.1,inDefinitions,found.2,inLinks,inItems⟩
  | items =>
    refine (optionalGives (each depth) n).bind fun items found => SatisfiesM.pure ?_
    exact ⟨definitions,properties,inDefinitions,inProperties,inLinks,found⟩
  | links =>
    refine (listGives stops (linkGives stops each) depth n).bind fun links found => SatisfiesM.pure ?_
    exact ⟨definitions,properties,inDefinitions,inProperties,found,inItems⟩
  | _ =>
    exact SatisfiesM.trivial.bind fun _ _ => SatisfiesM.pure (tabled.sameSections rfl rfl rfl rfl)

theorem documentGives (fuel depth : Nat) (n : ν) :
    SatisfiesM Tabled (r.readDocumentWithin fuel depth n) := by
  induction fuel generalizing depth n with
  | zero => exact stops _ _
  | succ fuel ih =>
    refine recordGives stops ?_ .document _ _ Tabled.empty depth n
    intro k key d n tabled
    exact memberGives stops ih k key tabled n

end Reader

end SchemaCheck
