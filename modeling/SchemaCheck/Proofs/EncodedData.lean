import SchemaCheck.Json.Read
import SchemaCheck.Proofs.KeptData
import SchemaCheck.Proofs.TypedReading

/-! Data written and read back. What a collection holds comes back if each of its items does; a record comes
back member by member in the order of the names, which is not the order in which its members are written. -/
namespace SchemaCheck

namespace Entries

theorem ofListPerm {xs : List (String × α)} (once : (xs.map Prod.fst).Nodup) : (ofList xs).Perm xs := by
  have fresh : ∀ k ∈ xs.map Prod.fst, (Table.empty : Table α).contains k = false := fun _ _ => rfl
  have perm := Table.overwriteFresh once fresh
  rw [Table.overwriteEntries] at perm
  exact perm

theorem ofListOrdered {xs : Entries α} (ordered : Ordered xs) : ofList xs = xs :=
  equalOfMembers Prod.fst (orderedOfList xs) ordered fun _ => (ofListPerm (namesOnce ordered)).mem_iff

end Entries

namespace Value

/-- Data as it can be held: numbers are finite, and the members of an object in order of their names. -/
inductive Proper : Value → Prop where
  | null : Proper .null
  | bool (b : Bool) : Proper (.bool b)
  | int (n : Int) : Proper (.int n)
  | float {x : Binary64} (finite : x.isFinite = true) : Proper (.float x)
  | string (s : String) : Proper (.string s)
  | array {items : List Value} (each : ∀ v ∈ items, Proper v) : Proper (.array items)
  | object {members : List (String × Value)} (ordered : Entries.Ordered members)
      (each : ∀ e ∈ members, Proper e.2) : Proper (.object members)

theorem properTexts (ss : List String) : Proper (.array (ss.map .string)) := by
  refine .array fun v member => ?_
  obtain ⟨s,_,rfl⟩ := List.mem_map.mp member
  exact .string s

theorem itemNesting {v : Value} {items : List Value} (member : v ∈ items) :
    v.nesting ≤ nestingOfItems items := by
  induction items with
  | nil => contradiction
  | cons head rest ih =>
    rw [nestingOfItems]
    rcases List.mem_cons.mp member with rfl | later
    · exact Nat.le_max_left ..
    · exact (ih later).trans (Nat.le_max_right ..)

theorem memberNesting {e : String × Value} {members : List (String × Value)} (member : e ∈ members) :
    e.2.nesting ≤ nestingOfMembers members := by
  induction members with
  | nil => contradiction
  | cons head rest ih =>
    rw [nestingOfMembers]
    rcases List.mem_cons.mp member with rfl | later
    · exact Nat.le_max_left ..
    · exact (ih later).trans (Nat.le_max_right ..)

end Value

namespace Json

theorem itemsMap (vs : List Value) : ofItems vs = vs.map Tree.ofValue := by
  induction vs with
  | nil => rfl
  | cons v rest ih => rw [ofItems,ih,List.map_cons]

theorem membersMap (ms : List (String × Value)) :
    ofMembers ms = ms.map fun e => (.string (.ok e.1),Tree.ofValue e.2) := by
  induction ms with
  | nil => rfl
  | cons e rest ih => rw [ofMembers,ih,List.map_cons]

theorem eachBack {ε β : Type} {read : β → Except ε α} {write : α → β} {xs : List α}
    (each : ∀ x ∈ xs, read (write x) = .ok x) : (xs.map write).mapM read = .ok xs := by
  induction xs with
  | nil => rfl
  | cons x rest ih =>
    rw [List.map_cons,List.mapM_cons,each x List.mem_cons_self,
      ih fun y member => each y (List.mem_cons_of_mem _ member)]
    rfl

/-! ## Leaves -/

theorem textEncoded (s : String) : reader.readText (Tree.ofValue (.string s)) = .ok s := rfl

theorem numberEncoded (x : Binary64) : reader.readNumber (Tree.ofValue (.float x)) = .ok x := rfl

theorem lengthEncoded {n : Int} (fits : n < twoPow 63) : reader.readLength (Tree.ofValue (.int n)) = .ok n :=
  if_pos fits

theorem givenEncoded {read : Tree → Except Fault α} {v : Value} {x : α} (given : v ≠ .null)
    (back : read (Tree.ofValue v) = .ok x) : reader.optional read (Tree.ofValue v) = .ok (some x) := by
  have present : (Tree.ofValue v).isNull = false := by
    cases v <;> first | rfl | exact absurd rfl given
  simp only [Reader.optional,reader,present,back,bind,Except.bind]
  rfl

theorem optionalEncoded {read : Tree → Except Fault α} {write : α → Value} {x : Option α}
    (given : ∀ y ∈ x, write y ≠ .null) (each : ∀ y ∈ x, read (Tree.ofValue (write y)) = .ok y) :
    reader.optional read (Tree.ofValue ((x.map write).getD .null)) = .ok x := by
  cases x with
  | none => rfl
  | some y => exact givenEncoded (given y rfl) (each y rfl)

/-! ## Collections -/

section
variable {depth : Nat}

theorem listOpened (read : Nat → Tree → Except Fault α) (items : List Tree) :
    reader.readList read (depth + 1) (.array items none) =
      items.mapM (read depth) >>= fun xs => Except.ok () >>= fun _ => .ok xs := rfl

theorem tableOpened (read : Nat → Tree → Except Fault α) (members : List (Tree × Tree)) :
    reader.readTable read (depth + 1) (.object members none) =
      (members.mapM fun e => do
        let name ← reader.readKey e.1
        let x ← read depth e.2
        pure (name,x)) >>= fun xs => Except.ok () >>= fun _ => .ok (Entries.ofList xs) := rfl

theorem listEncoded {read : Nat → Tree → Except Fault α} {write : α → Value} {xs : List α}
    (deep : (Value.array (xs.map write)).nesting ≤ depth)
    (each : ∀ x ∈ xs, ∀ k < depth, (write x).nesting ≤ k → read k (Tree.ofValue (write x)) = .ok x) :
    reader.readList read depth (Tree.ofValue (.array (xs.map write))) = .ok xs := by
  cases depth with
  | zero => contradiction
  | succ depth =>
    rw [Tree.ofValue,itemsMap,List.map_map,listOpened]
    have items : (xs.map (Tree.ofValue ∘ write)).mapM (read depth) = .ok xs := by
      refine eachBack fun x member => each x member depth (Nat.lt_succ_self depth) ?_
      exact (Value.itemNesting (List.mem_map_of_mem member)).trans (Nat.le_of_succ_le_succ deep)
    rw [items]
    rfl

theorem tableEncoded {read : Nat → Tree → Except Fault α} {write : α → Value} {xs : Entries α}
    (ordered : xs.Ordered) (deep : (Value.object (xs.map fun e => (e.1,write e.2))).nesting ≤ depth)
    (each : ∀ e ∈ xs, ∀ k < depth, (write e.2).nesting ≤ k → read k (Tree.ofValue (write e.2)) = .ok e.2) :
    reader.readTable read depth (Tree.ofValue (.object (xs.map fun e => (e.1,write e.2)))) = .ok xs := by
  cases depth with
  | zero => contradiction
  | succ depth =>
    rw [Tree.ofValue,membersMap,List.map_map,tableOpened,eachBack]
    · show Except.ok (Entries.ofList xs) = _
      rw [Entries.ofListOrdered ordered]
    · intro e member
      have nested := (Value.memberNesting (List.mem_map_of_mem member)).trans (Nat.le_of_succ_le_succ deep)
      have back := each e member depth (Nat.lt_succ_self depth) nested
      show (read depth (Tree.ofValue (write e.2)) >>= fun x => .ok (e.1,x)) = _
      rw [back]
      rfl

theorem arrayOpened (items : List Tree) :
    reader.readValue Tree.text (depth + 1) (.array items none) =
      items.mapM (reader.readValue Tree.text depth) >>= fun xs => Except.ok () >>= fun _ => .ok (.array xs) := by
  rw [Reader.valueEqual]
  rfl

theorem objectOpened (members : List (Tree × Tree)) :
    reader.readValue Tree.text (depth + 1) (.object members none) =
      members.mapM (reader.readEntry Tree.text depth) >>= fun xs =>
        Except.ok () >>= fun _ => .ok (.object (Entries.ofList xs)) := by
  rw [Reader.valueEqual]
  rfl

theorem scalarKept {t : Tree} {v : Value} (scalar : t.shape = .ok (.scalar v)) :
    reader.readValue Tree.text depth t = .ok v := by
  have given : reader.readValue Tree.text depth t = t.shape >>= reader.readShape Tree.text depth := by
    rw [Reader.valueEqual]
    rfl
  rw [given,scalar]
  cases depth <;> rfl

theorem valueEncoded {v : Value} (proper : v.Proper) (deep : v.nesting ≤ depth) :
    reader.readValue Tree.text depth (Tree.ofValue v) = .ok v := by
  induction proper generalizing depth with
  | null | bool | int | string => exact scalarKept rfl
  | float finite => exact scalarKept (by rw [Tree.ofValue,Tree.shape,Value.ofNumber,if_pos finite])
  | @array items _ ih =>
    cases depth with
    | zero => contradiction
    | succ depth =>
      have nested : ∀ v ∈ items, v.nesting ≤ depth := fun v member =>
        (Value.itemNesting member).trans (Nat.le_of_succ_le_succ deep)
      rw [Tree.ofValue,itemsMap,arrayOpened,eachBack fun v member => ih v member (nested v member)]
      rfl
  | @object members ordered _ ih =>
    cases depth with
    | zero => contradiction
    | succ depth =>
      have nested : ∀ e ∈ members, e.2.nesting ≤ depth := fun e member =>
        (Value.memberNesting member).trans (Nat.le_of_succ_le_succ deep)
      rw [Tree.ofValue,membersMap,objectOpened,eachBack]
      · show Except.ok (Value.object (Entries.ofList members)) = _
        rw [Entries.ofListOrdered ordered]
      · intro e member
        have back := ih e member (nested e member)
        show (reader.readValue Tree.text depth (Tree.ofValue e.2) >>= fun x => .ok (e.1,x)) = _
        rw [back]
        rfl

end
/-! ## Records -/

section
variable {κ : Type} {text : κ → String} {value? : κ → Option Value}

def rows (text : κ → String) (value? : κ → Option Value) (keys : List κ) : List (String × Value) :=
  keys.filterMap fun k => (value? k).map (text k,·)

theorem rowExact {keys : List κ} (all : ∀ k, k ∈ keys) {name : String} {v : Value} :
    (name,v) ∈ rows text value? keys ↔ ∃ k, text k = name ∧ value? k = some v := by
  rw [rows,List.mem_filterMap]
  constructor
  · rintro ⟨k,_,row⟩
    obtain ⟨_,value,same⟩ := Option.map_eq_some_iff.mp row
    cases same
    exact ⟨k,rfl,value⟩
  · rintro ⟨k,rfl,value⟩
    exact ⟨k,all k,by rw [value]; rfl⟩

variable {known : String → Option κ} (parsed : ∀ k, known (text k) = some k)
include parsed

theorem sameText {j k : κ} (same : text j = text k) : j = k := by
  have read := parsed j
  rw [same,parsed k] at read
  exact (Option.some.inj read).symm

theorem rowsOnce {keys : List κ} (distinct : keys.Nodup) : ((rows text value? keys).map Prod.fst).Nodup := by
  refine List.pairwise_map.mpr (List.pairwise_filterMap.mpr (distinct.imp ?_))
  intro j k different a first b second same
  obtain ⟨_,_,rfl⟩ := Option.map_eq_some_iff.mp first
  obtain ⟨_,_,rfl⟩ := Option.map_eq_some_iff.mp second
  exact different (sameText parsed same)

variable [DecidableEq κ] {read : κ → α → Tree → Except Fault α} {keep : List κ → α}

theorem membersEncoded {es : List (String × Value)} (once : (es.map Prod.fst).Nodup)
    (each : ∀ e ∈ es, ∃ k, text k = e.1 ∧
      ∀ seen, read k (keep seen) (Tree.ofValue e.2) = .ok (keep (k :: seen)))
    {seen : List κ} (fresh : ∀ k ∈ seen, text k ∉ es.map Prod.fst) :
    ∃ met, (es.map fun e => (Tree.string (.ok e.1),Tree.ofValue e.2)).foldlM (reader.memberStep known read)
        (keep seen,seen) = .ok (keep met,met) ∧
      (∀ k ∈ seen, k ∈ met) ∧ ∀ k, text k ∈ es.map Prod.fst → k ∈ met := by
  induction es generalizing seen with
  | nil => exact ⟨seen,rfl,fun _ member => member,by simp⟩
  | cons e rest ih =>
    obtain ⟨k,name,back⟩ := each e List.mem_cons_self
    rw [List.map_cons,List.nodup_cons] at once
    simp only [List.map_cons,List.mem_cons,not_or] at fresh
    have unseen : k ∉ seen := fun member => (fresh k member).1 name
    have step : reader.memberStep known read (keep seen,seen) (Tree.string (.ok e.1),Tree.ofValue e.2) =
        .ok (keep (k :: seen),k :: seen) := by
      have key : reader.readKey (.string (.ok e.1)) = pure (text k) := name ▸ rfl
      simp only [Reader.memberStep,key,pure_bind,parsed k,if_neg unseen,back seen]
      rfl
    have later : ∀ j ∈ k :: seen, text j ∉ rest.map Prod.fst := by
      intro j member
      rcases List.mem_cons.mp member with rfl | before
      · exact name ▸ once.1
      · exact (fresh j before).2
    obtain ⟨met,run,kept,named⟩ := ih once.2 (fun e member => each e (List.mem_cons_of_mem _ member)) later
    refine ⟨met,?_,fun j before => kept j (List.mem_cons_of_mem _ before),fun j member => ?_⟩
    · rw [List.map_cons,List.foldlM_cons,step]
      exact run
    · rcases List.mem_cons.mp member with same | inside
      · exact kept j (sameText parsed (same.trans name.symm) ▸ List.mem_cons_self)
      · exact named j inside

end

theorem recordOpened {κ : Type} [DecidableEq κ] (wanted : Wanted) (keys : List κ) (known : String → Option κ)
    (read : Nat → κ → α → Tree → Except Fault α) (start : α) (depth : Nat) (members : List (Tree × Tree)) :
    reader.readRecord wanted keys known read start (depth + 1) (.object members none) =
      members.foldlM (reader.memberStep known (read depth)) (start,[]) >>= fun s =>
        Except.ok () >>= fun _ => .ok s.1 := rfl

theorem recordEncoded {κ : Type} [DecidableEq κ] (wanted : Wanted) {text : κ → String} {known : String → Option κ}
    (parsed : ∀ k, known (text k) = some k) {keys : List κ} (all : ∀ k, k ∈ keys) (distinct : keys.Nodup)
    {read : Nat → κ → α → Tree → Except Fault α} {keep : List κ → α} {value? : κ → Option Value} {x : α}
    {depth : Nat} (deep : (Value.object (Entries.ofList (rows text value? keys))).nesting ≤ depth)
    (each : ∀ k v, value? k = some v → ∀ j < depth, v.nesting ≤ j → ∀ seen,
      read j k (keep seen) (Tree.ofValue v) = .ok (keep (k :: seen)))
    (whole : ∀ met, (∀ k ∉ met, value? k = none) → keep met = x) :
    reader.readRecord wanted keys known read (keep []) depth
      (Tree.ofValue (.object (Entries.ofList (rows text value? keys)))) = .ok x := by
  cases depth with
  | zero => contradiction
  | succ depth =>
    have once : ((rows text value? keys).map Prod.fst).Nodup := rowsOnce parsed distinct
    have perm := Entries.ofListPerm once
    have members : ∀ e ∈ Entries.ofList (rows text value? keys), ∃ k, text k = e.1 ∧
        ∀ seen, read depth k (keep seen) (Tree.ofValue e.2) = .ok (keep (k :: seen)) := by
      intro e member
      obtain ⟨k,name,value⟩ := (rowExact all).mp (perm.mem_iff.mp member)
      have nested := (Value.memberNesting member).trans (Nat.le_of_succ_le_succ deep)
      exact ⟨k,name,each k e.2 value depth (Nat.lt_succ_self depth) nested⟩
    obtain ⟨met,run,_,named⟩ := membersEncoded parsed ((perm.map Prod.fst).nodup_iff.mpr once) members
      fun k (none : k ∈ []) => absurd none List.not_mem_nil
    have complete : keep met = x := by
      refine whole met fun k unmet => ?_
      cases value : value? k with
      | none => rfl
      | some v =>
        have row : (text k,v) ∈ Entries.ofList (rows text value? keys) :=
          perm.mem_iff.mpr ((rowExact all).mpr ⟨k,rfl,value⟩)
        exact absurd (named k (List.mem_map_of_mem row)) unmet
    rw [Tree.ofValue,membersMap,recordOpened,run,← complete]
    rfl

end Json
end SchemaCheck
