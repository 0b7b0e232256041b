import SchemaCheck.Proofs.Documents

/-! References between the nodes of documents without duplicates: what `validate` finds in the tables
against what the nodes themselves say. -/
namespace SchemaCheck.Registry
open Document

theorem targetEqual {reference t : String} :
    target? reference = some t ↔ reference = localPrefix ++ t := by
  have shape : reference = localPrefix ++ t ↔ reference.toList = '#' :: '/' :: t.toList := by
    rw [← String.toList_inj,String.toList_append]
    rfl
  rw [shape]
  unfold target?
  split
  · rename_i rest h
    rw [h]
    simp only [Option.some.injEq,List.cons.injEq,true_and]
    constructor
    · rintro rfl
      exact String.toList_ofList.symm
    · rintro rfl
      exact String.ofList_toList
  · rename_i other
    simp only [reduceCtorEq,false_iff]
    exact other t.toList

theorem referenceFaultNone {r : Registry} {id reference : String} :
    r.referenceFault? id reference = none ↔
      (reference ≠ "" → ∃ t, reference = localPrefix ++ t ∧ r.contains t = true) := by
  unfold referenceFault?
  split
  · rename_i empty
    simp [String.isEmpty_iff.mp empty]
  · rename_i given
    have given : reference ≠ "" := fun empty => given (String.isEmpty_iff.mpr empty)
    simp only [ne_eq,given,not_false_eq_true,forall_const,← targetEqual]
    cases target? reference with
    | none => simp
    | some t => cases r.contains t <;> simp_all

theorem referencesDistinct {ds : List Document} (distinct : (nodeIds (admittedNodes ds)).Nodup)
    {id reference : String} :
    (id,reference) ∈ (addDocuments ds {}).1.references.entries ↔
      ∃ n ∈ admittedNodes ds, n.1 = id ∧ n.2.reference = reference := by
  have rows : ((referenceRows (admittedNodes ds)).map Prod.fst).Nodup :=
    (referenceRowNames _).symm ▸ distinct
  rw [← Table.getMember,(runTables ds {}).2,(storedTables _ _).2.1,Table.overwriteDistinct rows]
  simp [referenceRows]

theorem validateEmpty {ds : List Document} (distinct : (nodeIds (admittedNodes ds)).Nodup) :
    (addDocuments ds {}).1.validate = [] ↔
      ∀ n ∈ admittedNodes ds, n.2.reference ≠ "" →
        ∃ m ∈ admittedNodes ds, n.2.reference = localPrefix ++ m.1 := by
  have named : ∀ reference : String,
      (∃ t, reference = localPrefix ++ t ∧ (addDocuments ds {}).1.contains t = true) ↔
        ∃ m ∈ admittedNodes ds, reference = localPrefix ++ m.1 := by
    intro reference
    simp only [runContains,nodeIds,List.mem_map]
    constructor
    · rintro ⟨t,same,m,member,rfl⟩
      exact ⟨m,member,same⟩
    · rintro ⟨m,member,same⟩
      exact ⟨m.1,same,m,member,rfl⟩
  simp only [validate,List.filterMap_eq_nil_iff]
  constructor
  · intro h n member given
    have entry := (referencesDistinct distinct).mpr ⟨n,member,rfl,rfl⟩
    exact (named _).mp (referenceFaultNone.mp (h _ entry) given)
  · rintro h ⟨id,reference⟩ entry
    obtain ⟨n,member,_,rfl⟩ := (referencesDistinct distinct).mp entry
    exact referenceFaultNone.mpr fun given => (named _).mpr (h n member given)

end SchemaCheck.Registry
