/-! Named items in strict order of their names: one insertion, one look-up, no name twice.
Names compare by code point, which is the order of their bytes. -/
namespace SchemaCheck

abbrev Entries (α : Type) := List (String × α)

namespace Entries

def Ordered (xs : Entries α) : Prop := xs.Pairwise (fun x y => x.1 < y.1)

instance (xs : Entries α) : Decidable (Ordered xs) := by unfold Ordered; infer_instance

def insert (name : String) (x : α) : Entries α → Entries α
  | [] => [(name, x)]
  | (k, y) :: rest =>
    if name < k then (name, x) :: (k, y) :: rest
    else if name = k then (name, x) :: rest
    else (k, y) :: insert name x rest

def get? (name : String) : Entries α → Option α
  | [] => none
  | (k, x) :: rest => if name = k then some x else get? name rest

def names (xs : Entries α) : List String := xs.map Prod.fst

/-- The items of a list of pairs in order of their names; of two with one name the later stays. -/
def ofList (xs : List (String × α)) : Entries α :=
  xs.foldl (fun acc x => insert x.1 x.2 acc) []

theorem memberInsert {name : String} {x : α} {xs : Entries α} {e : String × α}
    (h : e ∈ insert name x xs) : e = (name, x) ∨ e ∈ xs := by
  induction xs with
  | nil => simpa [insert] using h
  | cons y ys ih =>
    simp only [insert] at h
    split at h
    · simpa using h
    · split at h
      · rcases List.mem_cons.1 h with h | h <;> simp [h]
      · rcases List.mem_cons.1 h with h | h
        · simp [h]
        · rcases ih h with h | h <;> simp [h]

theorem Ordered.insert {xs : Entries α} (h : Ordered xs) (name : String) (x : α) :
    Ordered (Entries.insert name x xs) := by
  induction xs with
  | nil => simp [Entries.insert, Ordered]
  | cons y ys ih =>
    obtain ⟨head, tail⟩ := List.pairwise_cons.1 h
    simp only [Entries.insert]
    split
    · next lt =>
      refine List.pairwise_cons.2 ⟨?_, h⟩
      intro z hz
      rcases List.mem_cons.1 hz with rfl | hz
      · exact lt
      · exact String.lt_trans lt (head z hz)
    · next nlt =>
      split
      · next eq =>
        subst eq
        exact List.pairwise_cons.2 ⟨head, tail⟩
      · next ne =>
        refine List.pairwise_cons.2 ⟨?_, ih tail⟩
        intro z hz
        rcases memberInsert hz with rfl | hz
        · have le := String.not_lt.1 nlt
          by_cases lt : y.1 < name
          · exact lt
          · exact absurd (String.le_antisymm (String.not_lt.1 lt) le) ne
        · exact head z hz

theorem getInsert (xs : Entries α) (name : String) (x : α) (k : String) :
    (xs.insert name x).get? k = if k = name then some x else xs.get? k := by
  induction xs with
  | nil => simp [insert, get?]
  | cons y ys ih =>
    simp only [insert]
    split
    · next => simp [get?]
    · split
      · next eq => subst eq; by_cases h : k = y.1 <;> simp [get?, h]
      · next ne =>
        simp only [get?, ih]
        by_cases h : k = y.1
        · have : k ≠ name := fun e => ne (e ▸ h)
          simp [h, Ne.symm ne]
        · simp [h]

theorem orderedOfList (xs : List (String × α)) : Ordered (ofList xs) := by
  have step : ∀ (xs : List (String × α)) (acc : Entries α), Ordered acc →
      Ordered (xs.foldl (fun acc x => Entries.insert x.1 x.2 acc) acc) := by
    intro xs
    induction xs with
    | nil => intro acc h; exact h
    | cons x xs ih => intro acc h; exact ih _ (h.insert x.1 x.2)
  exact step xs [] List.Pairwise.nil

end Entries

structure Table (α : Type) where
  entries : Entries α := []
  ordered : entries.Ordered

namespace Table

def empty : Table α := ⟨[], List.Pairwise.nil⟩

instance : Inhabited (Table α) := ⟨empty⟩

def insert (t : Table α) (name : String) (x : α) : Table α :=
  ⟨t.entries.insert name x, t.ordered.insert name x⟩

def get? (t : Table α) (name : String) : Option α := t.entries.get? name

def contains (t : Table α) (name : String) : Bool := (t.get? name).isSome

def size (t : Table α) : Nat := t.entries.length

def names (t : Table α) : List String := t.entries.names

@[simp] theorem getEmpty (k : String) : (empty : Table α).get? k = none := rfl

theorem getInsert (t : Table α) (name : String) (x : α) (k : String) :
    (t.insert name x).get? k = if k = name then some x else t.get? k :=
  Entries.getInsert t.entries name x k

end Table
end SchemaCheck
