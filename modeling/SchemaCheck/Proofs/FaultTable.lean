import SchemaCheck.Proofs.Loading

/-! Faults of files by path. Spellings with the same components are one key, and under a key the table has
the faults of the last call that reported any. -/
namespace SchemaCheck

namespace Path

def SameKey (p q : String) : Prop := components p = components q

instance (p q : String) : Decidable (SameKey p q) := by unfold SameKey; infer_instance

theorem Component.orderEqual {a b : Component} : a.order b = .eq ↔ a = b := by
  rw [order,Ordering.then_eq_eq,Std.LawfulEqCmp.compare_eq_iff_eq,Std.LawfulEqCmp.compare_eq_iff_eq]
  cases a <;> cases b <;> simp [rank,text]

theorem orderFromEqual {as bs : List Component} : orderFrom as bs = .eq ↔ as = bs := by
  induction as generalizing bs with
  | nil => cases bs <;> simp [orderFrom]
  | cons a as ih =>
    cases bs with
    | nil => simp [orderFrom]
    | cons b bs => simp only [orderFrom,Ordering.then_eq_eq,Component.orderEqual,ih,List.cons.injEq]

theorem orderEqual {p q : String} : order p q = .eq ↔ SameKey p q := orderFromEqual

end Path

namespace FileFaults
open SchemaCheck.Path

theorem getInsert (files : FileFaults) (path : String) (faults : List Fault) (q : String) :
    (files.insert path faults).get? q = if SameKey q path then some faults else files.get? q := by
  induction files with
  | nil => simp [insert,get?,orderEqual]
  | cons head rest ih =>
    obtain ⟨p,fs⟩ := head
    simp only [insert]
    cases place : Path.order path p with
    | lt => simp [get?,orderEqual]
    | eq =>
      have key : SameKey path p := orderEqual.mp place
      have same : SameKey q p ↔ SameKey q path := ⟨fun h => h.trans key.symm,fun h => h.trans key⟩
      simp only [get?,orderEqual,same]
      split <;> rfl
    | gt =>
      have other : ¬ SameKey path p := fun key => by rw [orderEqual.mpr key] at place; contradiction
      simp only [get?,orderEqual,ih]
      by_cases here : SameKey q p
      · have apart : ¬ SameKey q path := fun key => other (key.symm.trans here)
        simp [here,apart]
      · simp [here]

theorem getRecord (files : FileFaults) (row : String × List Fault) (q : String) :
    (files.record row).get? q =
      if SameKey q row.1 ∧ row.2 ≠ [] then some row.2 else files.get? q := by
  unfold record
  by_cases clean : row.2 = []
  · simp [clean]
  · have failed : row.2.isEmpty = false := by simpa using clean
    simp [failed,getInsert,clean]

/- Of the calls in a list, `faults` are what the last one on the key of `path` reported that reported
anything. -/
inductive Last (path : String) (faults : List Fault) : List (String × List Fault) → Prop where
  | here {p : String} {rest : List (String × List Fault)} (key : SameKey path p) (failed : faults ≠ [])
      (clean : ∀ row ∈ rest, SameKey path row.1 → row.2 = []) : Last path faults ((p,faults) :: rest)
  | later {row : String × List Fault} {rest : List (String × List Fault)}
      (last : Last path faults rest) : Last path faults (row :: rest)

theorem getRecorded (rows : List (String × List Fault)) (files : FileFaults) (path : String)
    (faults : List Fault) :
    (rows.foldl record files).get? path = some faults ↔
      Last path faults rows ∨
      (∀ row ∈ rows, SameKey path row.1 → row.2 = []) ∧ files.get? path = some faults := by
  induction rows generalizing files with
  | nil =>
    have none : ¬ Last path faults [] := nofun
    simp [none]
  | cons row rest ih =>
    rw [List.foldl_cons,ih,getRecord]
    constructor
    · intro kept
      rcases kept with last | ⟨clean,found⟩
      · exact Or.inl (.later last)
      · split at found
        · rename_i failing
          cases found
          exact Or.inl (.here failing.1 failing.2 clean)
        · rename_i passing
          refine Or.inr ⟨List.forall_mem_cons.mpr ⟨fun key => ?_,clean⟩,found⟩
          exact not_not.mp fun failed => passing ⟨key,failed⟩
    · intro kept
      rcases kept with last | ⟨clean,found⟩
      · cases last with
        | here key failed clean => exact Or.inr ⟨clean,if_pos ⟨key,failed⟩⟩
        | later last => exact Or.inl last
      · obtain ⟨own,clean⟩ := List.forall_mem_cons.mp clean
        exact Or.inr ⟨clean,(if_neg fun failing => failing.2 (own failing.1)).trans found⟩

end FileFaults

namespace Loader

def reports (l : Loader) (t : FileTree) (sources : List String) (r : Registry) :
    List (String × List Fault) := (t.ingestAll (l.handed t sources) r).2

theorem loadedFaults (l : Loader) (t : FileTree) (sources : List String) (r : Registry) :
    (l.load t sources r).2.fileFaults = (l.reports t sources r).foldl FileFaults.record [] := by
  rw [loadAfter]
  rfl

theorem loadFaults (l : Loader) (t : FileTree) (sources : List String) (r : Registry) (path : String)
    (faults : List Fault) :
    (l.load t sources r).2.fileFaults.get? path = some faults ↔
      FileFaults.Last path faults (l.reports t sources r) := by
  rw [loadedFaults,FileFaults.getRecorded]
  exact or_iff_left fun empty => by simp [FileFaults.get?] at empty

end Loader
end SchemaCheck
