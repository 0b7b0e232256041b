import Mathlib.Algebra.GroupWithZero.Nat
import SchemaCheck.Proofs.CleanRun
import SchemaCheck.Proofs.LoadOrder
import SchemaCheck.Proofs.Steps

/-! Duplicates where names have no slash. The nodes of one document are then told apart, and documents that
end in different segments stand apart, so a duplicate arises only between two admitted documents with
one segment at the end. -/
namespace SchemaCheck.Registry
open Document

theorem segmentShared {d e : Document} {k : String} (inD : k ∈ nodeIds d.ownNodes)
    (inE : k ∈ nodeIds e.ownNodes) : lastSegment d.id = lastSegment e.id :=
  topUnique (lastSegmentFlat d.id) (lastSegmentFlat e.id) (nodeIdWithin inD) (nodeIdWithin inE)

theorem segmentNode (d : Document) : lastSegment d.id ∈ nodeIds d.ownNodes := ownId _ d

theorem admittedDistinct {ds : List Document} (plain : ∀ d ∈ ds, ∀ n ∈ d.ownNodes, n.2.PlainNames) :
    (nodeIds (admittedNodes ds)).Nodup ↔
      ds.Pairwise fun d e => d.Admissible → e.Admissible → lastSegment d.id ≠ lastSegment e.id := by
  have each : ∀ d ∈ ds.filter fun d => (rejection? d).isNone, (nodeIds d.ownNodes).Nodup := by
    intro d member
    exact nodesDistinct (plain d (List.mem_of_mem_filter member))
  have apart : ∀ d e : Document, List.Disjoint (nodeIds d.ownNodes) (nodeIds e.ownNodes) ↔
      lastSegment d.id ≠ lastSegment e.id := by
    intro d e
    constructor
    · intro disjoint same
      exact disjoint (segmentNode d) (same ▸ segmentNode e)
    · intro different k inD inE
      exact different (segmentShared inD inE)
  have nodes : nodeIds (admittedNodes ds) =
      (ds.filter fun d => (rejection? d).isNone).flatMap fun d => nodeIds d.ownNodes := List.map_flatMap ..
  rw [nodes,List.nodup_flatMap,and_iff_right each,List.pairwise_filter]
  simp only [Function.onFun,apart,Option.isNone_iff_eq_none,admissible]

theorem duplicateReported {reports : List (List Fault)} :
    (∃ faults ∈ reports, ∃ k, .duplicated k ∈ faults) ↔
      ¬ ∀ k, reports.flatten.count (.duplicated k) = 0 := by
  rw [← noDuplicateReport]
  constructor
  · intro reported none
    obtain ⟨faults,member,k,inside⟩ := reported
    exact none k (List.mem_flatten.mpr ⟨faults,member,inside⟩)
  · intro reported
    obtain ⟨k,duplicate⟩ := not_forall_not.mp reported
    obtain ⟨faults,member,inside⟩ := List.mem_flatten.mp duplicate
    exact ⟨faults,member,k,inside⟩

theorem pairFound {R : Document → Document → Prop} {ds : List Document} :
    ¬ ds.Pairwise R ↔
      ∃ (i j : Nat) (d e : Document), i < j ∧ ds[i]? = some d ∧ ds[j]? = some e ∧ ¬ R d e := by
  rw [List.pairwise_iff_getElem]
  constructor
  · intro fails
    simp only [not_forall] at fails
    obtain ⟨i,j,boundI,boundJ,less,broken⟩ := fails
    exact ⟨i,j,ds[i],ds[j],less,List.getElem?_eq_getElem boundI,List.getElem?_eq_getElem boundJ,broken⟩
  · intro found all
    obtain ⟨i,j,d,e,less,foundI,foundJ,broken⟩ := found
    obtain ⟨boundI,rfl⟩ := List.getElem?_eq_some_iff.mp foundI
    obtain ⟨boundJ,rfl⟩ := List.getElem?_eq_some_iff.mp foundJ
    exact broken (all i j boundI boundJ less)

theorem distinctSize {ds : List Document} (distinct : (nodeIds (admittedNodes ds)).Nodup) :
    (addDocuments ds {}).1.size = (admittedNodes ds).length := by
  have rows : ((schemaRows (admittedNodes ds)).map Prod.fst).Nodup := (schemaRowNames _).symm ▸ distinct
  have entries := Table.overwriteFresh (t := Table.empty) rows fun _ _ => rfl
  rw [size,(runTables ds {}).1,(storedTables _ _).1,Table.size]
  simpa [Table.empty,schemaRows] using entries.length_eq

/-- Of documents whose names have no slash, some call reports a duplicate exactly if two of the admitted ones,
by their places in the list, end in one segment; if none does, the registry has as many schemas as
these documents have nodes. -/
theorem duplicatesOnlyOfSegments {ds : List Document}
    (plain : ∀ d ∈ ds, ∀ n ∈ d.ownNodes, n.2.PlainNames) :
    ((∃ faults ∈ (addDocuments ds {}).2, ∃ k, .duplicated k ∈ faults) ↔
      ∃ (i j : Nat) (d e : Document), i < j ∧ ds[i]? = some d ∧ ds[j]? = some e ∧
        d.Admissible ∧ e.Admissible ∧ lastSegment d.id = lastSegment e.id) ∧
    ((¬ ∃ faults ∈ (addDocuments ds {}).2, ∃ k, .duplicated k ∈ faults) →
      (addDocuments ds {}).1.size =
        ((ds.filter fun d => d.Admissible).map fun d => d.ownNodes.length).sum) := by
  rw [duplicateReported,runDistinct]
  constructor
  · rw [admittedDistinct plain,pairFound]
    simp only [Classical.not_imp,not_not]
  · intro distinct
    have kept : (ds.filter fun d => (rejection? d).isNone) = ds.filter fun d => d.Admissible := by
      refine List.filter_congr fun d _ => Bool.eq_iff_iff.mpr ?_
      rw [Option.isNone_iff_eq_none,admissible,decide_eq_true_iff]
    rw [distinctSize (not_not.mp distinct),admittedNodes,kept,List.length_flatMap]
    rfl

def keywordDocument (id : String) : Document :=
  { id, dialect := draft04, declaration := some (.name "object")
    definitions := [("",some (.referring "#/user")),("items",some { items := some {} })]
    properties := [("0",some {}),("links",none)], links := [{ schema := some {} }], items := some {} }

theorem keywordsCollide :
    (∀ d ∈ [keywordDocument "v1/user",keywordDocument "group"], ∀ n ∈ d.ownNodes, n.2.PlainNames) ∧
    (addDocuments [keywordDocument "v1/user",keywordDocument "group"] {}).1.size = 14 ∧
    (∀ d ∈ [keywordDocument "v1/user",keywordDocument "v2/user"], ∀ n ∈ d.ownNodes, n.2.PlainNames) ∧
    ∃ faults ∈ (addDocuments [keywordDocument "v1/user",keywordDocument "v2/user"] {}).2,
      ∃ k, .duplicated k ∈ faults := by
  have others : ∀ d ∈ [keywordDocument "v1/user",keywordDocument "group"], ∀ n ∈ d.ownNodes,
      n.2.PlainNames := by decide +kernel
  have versions : ∀ d ∈ [keywordDocument "v1/user",keywordDocument "v2/user"], ∀ n ∈ d.ownNodes,
      n.2.PlainNames := by decide +kernel
  have none := (runDistinct [keywordDocument "v1/user",keywordDocument "group"]).mpr (by decide +kernel)
  have size := (duplicatesOnlyOfSegments others).2 (fun some => duplicateReported.mp some none)
  refine ⟨others,size.trans (by decide +kernel),versions,?_⟩
  exact (duplicatesOnlyOfSegments versions).1.mpr
    ⟨0,1,_,_,Nat.zero_lt_one,rfl,rfl,by decide +kernel,by decide +kernel,by decide +kernel⟩

end SchemaCheck.Registry
