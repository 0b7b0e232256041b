import Mathlib.Data.List.Basic
import SchemaCheck.Entries

/-! A table is determined by its look-ups. Order keeps each name once, so an entry is in the table
exactly when its name is looked up to it, and overwriting with distinct names commutes. -/
namespace SchemaCheck

namespace Entries

theorem getMember {xs : Entries α} (ordered : Ordered xs) {name : String} {x : α} :
    xs.get? name = some x ↔ (name,x) ∈ xs := by
  induction xs with
  | nil => simp [get?]
  | cons head rest ih =>
    obtain ⟨k,y⟩ := head
    obtain ⟨first,tail⟩ := List.pairwise_cons.mp ordered
    simp only [get?,List.mem_cons,Prod.mk.injEq]
    by_cases same : name = k
    · subst same
      have absent : (name,x) ∉ rest := fun inside => String.lt_irrefl _ (first (name,x) inside)
      simp [absent,eq_comm]
    · simp [same,ih tail]

theorem memberGet {xs : Entries α} {name : String} {x : α} (found : xs.get? name = some x) :
    (name,x) ∈ xs := by
  induction xs with
  | nil => contradiction
  | cons head rest ih =>
    obtain ⟨k,y⟩ := head
    simp only [get?] at found
    split at found
    · rename_i same
      cases found
      simp [same]
    · exact List.mem_cons_of_mem _ (ih found)

theorem namesMember {xs : Entries α} {name : String} :
    name ∈ xs.names ↔ (xs.get? name).isSome := by
  induction xs with
  | nil => simp [names,get?]
  | cons head rest ih =>
    simp only [names,get?,List.map_cons,List.mem_cons] at ih ⊢
    split <;> simp_all

theorem insertFresh {xs : Entries α} {name : String} (x : α) (fresh : xs.get? name = none) :
    (xs.insert name x).Perm ((name,x) :: xs) := by
  induction xs with
  | nil => rfl
  | cons head rest ih =>
    obtain ⟨k,y⟩ := head
    have different : name ≠ k := by
      rintro rfl
      simp [get?] at fresh
    have later : get? name rest = none := by simpa [get?,different] using fresh
    simp only [insert,if_neg different]
    split
    · rfl
    · exact ((ih later).cons _).trans (.swap ..)

theorem ascendingNodup (key : α → String) {xs : List α} (ascending : xs.Pairwise (key · < key ·)) :
    xs.Nodup := by
  apply List.nodup_iff_pairwise_ne.mpr
  apply List.Pairwise.imp _ ascending
  intro a b less equal
  subst equal
  exact String.lt_irrefl _ less

theorem namesOnce {xs : Entries α} (ordered : Ordered xs) : xs.names.Nodup :=
  ascendingNodup id (List.pairwise_map.mpr ordered)

theorem equalOfMembers (key : α → String) {xs ys : List α}
    (left : xs.Pairwise (key · < key ·)) (right : ys.Pairwise (key · < key ·))
    (same : ∀ e, e ∈ xs ↔ e ∈ ys) : xs = ys := by
  have perm := (List.perm_ext_iff_of_nodup (ascendingNodup key left) (ascendingNodup key right)).mpr same
  refine perm.eq_of_pairwise ?_ left right
  intro a b _ _ less greater
  exact absurd (String.lt_trans less greater) (String.lt_irrefl _)

end Entries

namespace Table

theorem getMember {t : Table α} {name : String} {x : α} :
    t.get? name = some x ↔ (name,x) ∈ t.entries := Entries.getMember t.ordered

theorem namesMember {t : Table α} {name : String} : name ∈ t.names ↔ t.contains name = true :=
  Entries.namesMember

theorem containsInsert (t : Table α) (name : String) (x : α) (k : String) :
    (t.insert name x).contains k = (decide (k = name) || t.contains k) := by
  simp only [contains,getInsert]
  by_cases h : k = name <;> simp [h]

theorem namesEqual {t : Table α} {u : Table β} (same : ∀ k, t.contains k = true ↔ u.contains k = true) :
    t.names = u.names := by
  refine Entries.equalOfMembers id (List.pairwise_map.mpr t.ordered)
    (List.pairwise_map.mpr u.ordered) ?_
  intro k
  exact namesMember.trans ((same k).trans namesMember.symm)

theorem equalOfLookups {t u : Table α} (same : ∀ k, t.get? k = u.get? k) : t = u := by
  have entries : t.entries = u.entries := by
    refine Entries.equalOfMembers Prod.fst t.ordered u.ordered ?_
    rintro ⟨k,x⟩
    rw [← getMember,← getMember,same k]
  cases t
  cases u
  cases entries
  rfl

theorem entriesByName (t : Table α) (f : String → α → Option β) :
    t.entries.filterMap (fun e => f e.1 e.2) = t.names.filterMap fun k => (t.get? k).bind (f k) := by
  rw [names,Entries.names,List.filterMap_map]
  apply List.filterMap_congr
  rintro ⟨k,x⟩ member
  simp [getMember.mpr member]

def overwrite (t : Table α) (xs : List (String × α)) : Table α :=
  xs.foldl (fun t x => t.insert x.1 x.2) t

theorem overwriteEntries (rows : List (String × α)) (t : Table α) :
    (t.overwrite rows).entries = rows.foldl (fun acc x => Entries.insert x.1 x.2 acc) t.entries := by
  induction rows generalizing t with
  | nil => rfl
  | cons row rest ih => exact ih (t.insert row.1 row.2)

theorem overwriteAppend (t : Table α) (xs ys : List (String × α)) :
    t.overwrite (xs ++ ys) = (t.overwrite xs).overwrite ys := List.foldl_append ..

theorem containsOverwrite (t : Table α) (xs : List (String × α)) (k : String) :
    (t.overwrite xs).contains k = true ↔ t.contains k = true ∨ k ∈ xs.map Prod.fst := by
  induction xs generalizing t with
  | nil => simp [overwrite]
  | cons x rest ih =>
    have step : t.overwrite (x :: rest) = (t.insert x.1 x.2).overwrite rest := rfl
    rw [step,ih,containsInsert]
    simp only [Bool.or_eq_true,decide_eq_true_eq,List.map_cons,List.mem_cons]
    rw [or_comm (a := k = x.1),or_assoc]

theorem overwriteUntouched {t : Table α} {xs : List (String × α)} {k : String}
    (absent : k ∉ xs.map Prod.fst) : (t.overwrite xs).get? k = t.get? k := by
  induction xs generalizing t with
  | nil => rfl
  | cons x rest ih =>
    simp only [List.map_cons,List.mem_cons,not_or] at absent
    have later : ((t.insert x.1 x.2).overwrite rest).get? k = (t.insert x.1 x.2).get? k :=
      ih absent.2
    exact later.trans (by simp [getInsert,absent.1])

theorem overwriteLast {t : Table α} {before after : List (String × α)} {k : String} {x : α}
    (last : k ∉ after.map Prod.fst) :
    (t.overwrite (before ++ (k,x) :: after)).get? k = some x := by
  have step : t.overwrite (before ++ (k,x) :: after) =
      ((t.overwrite before).insert k x).overwrite after := overwriteAppend t before ((k,x) :: after)
  rw [step,overwriteUntouched last,getInsert,if_pos rfl]

theorem overwriteAnyhow {t u : Table α} {xs : List (String × α)} {k : String}
    (member : k ∈ xs.map Prod.fst) : (t.overwrite xs).get? k = (u.overwrite xs).get? k := by
  induction xs generalizing t u with
  | nil => contradiction
  | cons x rest ih =>
    have step : ∀ v : Table α, v.overwrite (x :: rest) = (v.insert x.1 x.2).overwrite rest := fun _ => rfl
    rw [step,step]
    by_cases later : k ∈ rest.map Prod.fst
    · exact ih later
    · have same : k = x.1 := (List.mem_cons.mp member).resolve_right later
      rw [overwriteUntouched later,overwriteUntouched later,getInsert,getInsert,if_pos same,if_pos same]

theorem overwriteTwice (t : Table α) (xs : List (String × α)) :
    (t.overwrite xs).overwrite xs = t.overwrite xs := by
  apply equalOfLookups
  intro k
  by_cases member : k ∈ xs.map Prod.fst
  · exact overwriteAnyhow member
  · exact overwriteUntouched member

theorem overwriteOrigin {t : Table α} {xs : List (String × α)} {k : String} {x : α}
    (found : (t.overwrite xs).get? k = some x) : (k,x) ∈ xs ∨ t.get? k = some x := by
  induction xs generalizing t with
  | nil => exact Or.inr found
  | cons head rest ih =>
    rcases ih (t := t.insert head.1 head.2) found with later | before
    · exact Or.inl (List.mem_cons_of_mem _ later)
    · rw [getInsert] at before
      split at before
      · rename_i same
        cases before
        exact Or.inl (by simp [same])
      · exact Or.inr before

theorem overwriteDistinct {t : Table α} {xs : List (String × α)} (distinct : (xs.map Prod.fst).Nodup)
    {k : String} {x : α} :
    (t.overwrite xs).get? k = some x ↔ (k,x) ∈ xs ∨ (k ∉ xs.map Prod.fst ∧ t.get? k = some x) := by
  induction xs generalizing t with
  | nil => simp [overwrite]
  | cons head rest ih =>
    obtain ⟨name,y⟩ := head
    obtain ⟨fresh,tail⟩ := List.nodup_cons.mp distinct
    have step : t.overwrite ((name,y) :: rest) = (t.insert name y).overwrite rest := rfl
    rw [step,ih tail,getInsert]
    simp only [List.mem_cons,List.map_cons,Prod.mk.injEq,not_or]
    by_cases same : k = name
    · subst same
      have absent : (k,x) ∉ rest := fun inside => fresh (List.mem_map.mpr ⟨_,inside,rfl⟩)
      simp [absent,fresh,eq_comm]
    · simp [same]

theorem overwriteFresh {t : Table α} {xs : List (String × α)} (distinct : (xs.map Prod.fst).Nodup)
    (fresh : ∀ k ∈ xs.map Prod.fst, t.contains k = false) :
    (t.overwrite xs).entries.Perm (t.entries ++ xs) := by
  induction xs generalizing t with
  | nil => simp [overwrite]
  | cons head rest ih =>
    obtain ⟨name,x⟩ := head
    obtain ⟨once,tail⟩ := List.nodup_cons.mp distinct
    have absent : t.get? name = none := by simpa [contains] using fresh name (by simp)
    have later : ((t.insert name x).overwrite rest).entries.Perm ((t.insert name x).entries ++ rest) := by
      refine ih tail ?_
      intro k member
      have other : k ≠ name := fun same => once (same ▸ member)
      simp [containsInsert,other,fresh k (List.mem_cons_of_mem _ member)]
    have first : (t.insert name x).entries.Perm ((name,x) :: t.entries) := Entries.insertFresh x absent
    exact later.trans ((first.append_right rest).trans List.perm_middle.symm)

theorem overwritePerm {t : Table α} {xs ys : List (String × α)} (perm : xs.Perm ys)
    (distinct : (xs.map Prod.fst).Nodup) : t.overwrite xs = t.overwrite ys := by
  apply equalOfLookups
  intro k
  apply Option.ext
  intro x
  have names := perm.map Prod.fst
  rw [overwriteDistinct distinct,overwriteDistinct (names.nodup_iff.mp distinct),perm.mem_iff,
    names.mem_iff]

end Table
end SchemaCheck
