import SchemaCheck.Proofs.FaultTable

/-! The rows of the table of faults. Their paths are in strict order, so that each key has one row, with what
the last call on it that reported anything reported. -/
namespace SchemaCheck

namespace Path

instance : Std.TransCmp Component.order :=
  inferInstanceAs (Std.TransCmp (compareLex (compareOn Component.rank) (compareOn Component.text)))

theorem orderFromLex (as bs : List Component) : orderFrom as bs = List.compareLex Component.order as bs := by
  induction as generalizing bs with
  | nil => cases bs <;> rfl
  | cons a as ih =>
    cases bs with
    | nil => rfl
    | cons b bs =>
      rw [orderFrom,ih,List.compareLex]
      cases a.order b <;> rfl

instance : Std.TransCmp order where
  eq_swap {p q} := by
    rw [order,order,orderFromLex,orderFromLex]
    exact Std.OrientedCmp.eq_swap
  isLE_trans {p q s} := by
    rw [order,order,order,orderFromLex,orderFromLex,orderFromLex]
    exact Std.TransCmp.isLE_trans

end Path

namespace FileFaults
open SchemaCheck.Path

def Ascending (files : FileFaults) : Prop := files.Pairwise fun x y => Path.order x.1 y.1 = .lt

theorem insertPaths {files : FileFaults} {path : String} {faults : List Fault} {row : String × List Fault}
    (member : row ∈ files.insert path faults) : row.1 = path ∨ ∃ before ∈ files, row.1 = before.1 := by
  induction files with
  | nil =>
    cases List.mem_singleton.mp member
    exact Or.inl rfl
  | cons head rest ih =>
    obtain ⟨p,fs⟩ := head
    simp only [insert] at member
    split at member <;> rcases List.mem_cons.mp member with rfl | later
    · exact Or.inl rfl
    · exact Or.inr ⟨row,later,rfl⟩
    · exact Or.inr ⟨(p,fs),List.mem_cons_self,rfl⟩
    · exact Or.inr ⟨row,List.mem_cons_of_mem _ later,rfl⟩
    · exact Or.inr ⟨(p,fs),List.mem_cons_self,rfl⟩
    · refine (ih later).imp_right ?_
      rintro ⟨before,inside,same⟩
      exact ⟨before,List.mem_cons_of_mem _ inside,same⟩

theorem Ascending.insert {files : FileFaults} (ascending : Ascending files) (path : String)
    (faults : List Fault) : Ascending (files.insert path faults) := by
  induction files with
  | nil => exact List.pairwise_singleton _ _
  | cons head rest ih =>
    obtain ⟨p,fs⟩ := head
    obtain ⟨first,tail⟩ := List.pairwise_cons.mp ascending
    simp only [FileFaults.insert]
    cases place : Path.order path p with
    | lt =>
      refine List.pairwise_cons.mpr ⟨List.forall_mem_cons.mpr ⟨place,fun row later => ?_⟩,ascending⟩
      exact Std.TransCmp.lt_trans place (first row later)
    | eq => exact List.pairwise_cons.mpr ⟨first,tail⟩
    | gt =>
      refine List.pairwise_cons.mpr ⟨fun row member => ?_,ih tail⟩
      rcases insertPaths member with same | ⟨before,inside,same⟩
      · exact same ▸ Std.OrientedCmp.gt_iff_lt.mp place
      · exact same ▸ first before inside

theorem getMember {files : FileFaults} (ascending : Ascending files) {path : String} {faults : List Fault} :
    files.get? path = some faults ↔ ∃ spelled, SameKey path spelled ∧ (spelled,faults) ∈ files := by
  induction files with
  | nil => simp [get?]
  | cons head rest ih =>
    obtain ⟨p,fs⟩ := head
    obtain ⟨first,tail⟩ := List.pairwise_cons.mp ascending
    simp only [get?,orderEqual]
    by_cases key : SameKey path p
    · -- No later row has the key of the first.
      have alone : ∀ spelled, SameKey path spelled → (spelled,faults) ∉ rest := by
        intro spelled same later
        have less := first _ later
        rw [orderEqual.mpr (key.symm.trans same)] at less
        contradiction
      rw [if_pos key,Option.some.injEq]
      constructor
      · rintro rfl
        exact ⟨p,key,List.mem_cons_self⟩
      · rintro ⟨spelled,same,member⟩
        rcases List.mem_cons.mp member with here | later
        · exact (Prod.mk.inj here).2.symm
        · exact absurd later (alone spelled same)
    · rw [if_neg key,ih tail]
      refine exists_congr fun spelled => and_congr_right fun same => ?_
      refine (List.mem_cons.trans (or_iff_right ?_)).symm
      intro here
      exact key ((Prod.mk.inj here).1 ▸ same)

end FileFaults

namespace Loader

end Loader
end SchemaCheck
