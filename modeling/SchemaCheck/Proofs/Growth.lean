import SchemaCheck.Proofs.Loading

/-! Registries that grow. Nothing that is stored is ever forgotten, and what the same document is reported
for can only become more. -/
namespace SchemaCheck

namespace Registry
open Document

def Grows (r s : Registry) : Prop := ∀ k, r.contains k = true → s.contains k = true

theorem Grows.trans {r s u : Registry} (first : Grows r s) (second : Grows s u) : Grows r u :=
  fun k stored => second k (first k stored)

theorem Grows.storeNodes {r s : Registry} (grows : Grows r s) (ns : List Node) :
    Grows (r.storeNodes ns) (s.storeNodes ns) := by
  intro k stored
  rw [storedContains] at stored ⊢
  exact stored.imp_left (grows k)

theorem addedGrows (d : Document) (r : Registry) : Grows r (addDocument d r).1 := by
  intro k stored
  rw [(addedTables d r).contains,storedContains]
  exact Or.inl stored

theorem faultsOfPartsGrow {ps : List Node} {r s : Registry} (grows : Grows r s)
    (each : ∀ p ∈ ps, ∀ {r s}, Grows r s → (faultsOf p.1 p.2 r).Sublist (faultsOf p.1 p.2 s)) :
    (faultsOfParts ps r).Sublist (faultsOfParts ps s) := by
  induction ps generalizing r s with
  | nil => exact .refl _
  | cons p rest ih =>
    have later := ih (grows.storeNodes (nodes p.1 p.2)) fun q member => each q (by simp [member])
    exact (each p (by simp) grows).append later

theorem faultsGrow (id : String) (d : Document) {r s : Registry} (grows : Grows r s) :
    (faultsOf id d r).Sublist (faultsOf id d s) := by
  induction id, d using partsInduction generalizing r s with
  | step id d ih =>
    have duplicate : (if r.contains id then [Fault.duplicated id] else []).Sublist
        (if s.contains id then [.duplicated id] else []) := by
      by_cases stored : r.contains id = true
      · simp [stored,grows id stored]
      · simp [stored]
    rw [faultsOfEqual,faultsOfEqual]
    exact (duplicate.append (faultsOfPartsGrow grows ih)).append (.refl _)

theorem reportGrows (d : Document) {r s : Registry} (grows : Grows r s) :
    (addDocument d r).2.Sublist (addDocument d s).2 := by
  cases rejected : rejection? d with
  | some f => rw [addRejected rejected,addRejected rejected]
  | none =>
    rw [addAdmitted rejected,addAdmitted rejected]
    exact faultsGrow _ d grows

end Registry

namespace FileTree
open Registry

theorem ingestedGrows (t : FileTree) (path : String) (r : Registry) : Grows r (t.ingest path r).1 := by
  unfold ingest
  split
  · exact fun _ stored => stored
  · exact addedGrows _ r

theorem ingestReportGrows {t : FileTree} {p q : String} (same : t.readDocument p = t.readDocument q)
    {r s : Registry} (grows : Grows r s) : (t.ingest p r).2.Sublist (t.ingest q s).2 := by
  unfold ingest
  rw [same]
  split
  · exact .refl _
  · exact reportGrows _ grows

theorem ingestedRow {t : FileTree} {paths : List String} {r : Registry} {row : String × List Fault}
    (member : row ∈ (t.ingestAll paths r).2) : ∃ s, Grows r s ∧ row.2 = (t.ingest row.1 s).2 := by
  induction paths generalizing r with
  | nil => simp [ingestAll] at member
  | cons path rest ih =>
    rcases List.mem_cons.mp member with rfl | later
    · exact ⟨r,fun _ stored => stored,rfl⟩
    · obtain ⟨s,grows,reported⟩ := ih later
      exact ⟨s,(t.ingestedGrows path r).trans grows,reported⟩

theorem laterReports (t : FileTree) (paths : List String) (r : Registry) :
    (t.ingestAll paths r).2.Pairwise fun x y =>
      t.readDocument x.1 = t.readDocument y.1 → x.2.Sublist y.2 := by
  induction paths generalizing r with
  | nil => exact .nil
  | cons path rest ih =>
    refine List.pairwise_cons.mpr ⟨fun row member same => ?_,ih _⟩
    obtain ⟨s,grows,reported⟩ := ingestedRow member
    rw [reported]
    exact ingestReportGrows same ((t.ingestedGrows path r).trans grows)

end FileTree
end SchemaCheck
