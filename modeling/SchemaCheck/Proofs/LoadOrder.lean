import SchemaCheck.Proofs.Documents

/-! The order of loading. Whatever the order in which documents are added, the same identifiers are
stored, each is reported as a duplicate equally often, and each document has the same other faults;
without duplicates the registries agree in all but the order of their roots. -/
namespace SchemaCheck.Registry
open Document

theorem distinctTables {ds es : List Document} (perm : ds.Perm es)
    (distinct : (nodeIds (admittedNodes ds)).Nodup) :
    SameTables (addDocuments ds {}).1 (addDocuments es {}).1 := by
  have nodes := admittedPerm perm
  have left := runTables ds {}
  have right := runTables es {}
  have schemas : (Table.empty.overwrite (schemaRows (admittedNodes ds))) =
      Table.empty.overwrite (schemaRows (admittedNodes es)) :=
    Table.overwritePerm (nodes.map _) ((schemaRowNames _).symm ▸ distinct)
  have references : (Table.empty.overwrite (referenceRows (admittedNodes ds))) =
      Table.empty.overwrite (referenceRows (admittedNodes es)) :=
    Table.overwritePerm (nodes.map _) ((referenceRowNames _).symm ▸ distinct)
  constructor
  · rw [left.1,right.1,(storedTables _ _).1,(storedTables _ _).1]
    exact schemas
  · rw [left.2,right.2,(storedTables _ _).2.1,(storedTables _ _).2.1]
    exact references

theorem sameValidation {r s : Registry} (same : SameTables r s) : r.validate = s.validate := by
  have check : r.referenceFault? = s.referenceFault? := by
    funext id reference
    simp only [referenceFault?,same.contains]
  simp only [validate,check,same.2]

theorem reportAt {ds : List Document} {i : Nat} {d : Document} (found : ds[i]? = some d) :
    ∃ faults, (addDocuments ds {}).2[i]? = some faults ∧ Fault.others faults = documentFaults d := by
  have mapped := congrArg (·[i]?) (runOthers ds {})
  simp only [List.getElem?_map,found,Option.map_some,Option.map_eq_some_iff] at mapped
  exact mapped

theorem noDuplicateReport {faults : List Fault} :
    (∀ k, .duplicated k ∉ faults) ↔ ∀ k, faults.count (.duplicated k) = 0 :=
  forall_congr' fun _ => List.count_eq_zero.symm

/-- An identifier is reported once less than it has nodes in the admitted documents, if it has any. -/
theorem loadingIgnoresOrder {ds es : List Document} (perm : ds.Perm es) :
    (addDocuments ds {}).1.ids = (addDocuments es {}).1.ids ∧
    (∀ k, (addDocuments ds {}).2.flatten.count (.duplicated k) =
        (nodeIds (admittedNodes ds)).count k - 1 ∧
      (addDocuments es {}).2.flatten.count (.duplicated k) =
        (nodeIds (admittedNodes ds)).count k - 1) ∧
    (∀ (i j : Nat) (d : Document), ds[i]? = some d → es[j]? = some d →
      ∃ f g, (addDocuments ds {}).2[i]? = some f ∧ (addDocuments es {}).2[j]? = some g ∧
        Fault.others f = Fault.others g) ∧
    ((∀ k, .duplicated k ∉ (addDocuments ds {}).2.flatten) →
      (∀ k, .duplicated k ∉ (addDocuments es {}).2.flatten) ∧
      (addDocuments ds {}).1.schemas = (addDocuments es {}).1.schemas ∧
      (addDocuments ds {}).1.references = (addDocuments es {}).1.references ∧
      (addDocuments ds {}).1.validate = (addDocuments es {}).1.validate) := by
  have ids : (nodeIds (admittedNodes ds)).Perm (nodeIds (admittedNodes es)) :=
    (admittedPerm perm).map _
  refine ⟨?_,?_,?_,?_⟩
  · apply Table.namesEqual
    intro k
    exact (runContains ds k).trans (ids.mem_iff.trans (runContains es k).symm)
  · intro k
    refine ⟨runDuplicates ds k,?_⟩
    rw [ids.count_eq]
    exact runDuplicates es k
  · intro i j d left right
    obtain ⟨f,hf,own⟩ := reportAt left
    obtain ⟨g,hg,same⟩ := reportAt right
    exact ⟨f,g,hf,hg,own.trans same.symm⟩
  · intro none
    have distinct := (runDistinct ds).mp (noDuplicateReport.mp none)
    have tables := distinctTables perm distinct
    refine ⟨?_,tables.1,tables.2,sameValidation tables⟩
    exact noDuplicateReport.mpr ((runDistinct es).mpr (ids.nodup_iff.mp distinct))

def objectDocument (id : String) : Document :=
  { id, dialect := draft04, declaration := some (.name "object") }

theorem reorderedObjects :
    [objectDocument "v1/user",objectDocument "v2/user"].Perm
      [objectDocument "v2/user",objectDocument "v1/user"] ∧
    (addDocuments [objectDocument "v2/user",objectDocument "v1/user"] {}).2.flatten.count
      (.duplicated "user") = 1 ∧
    [objectDocument "user",objectDocument "group"].Perm [objectDocument "group",objectDocument "user"] ∧
    (∀ k, .duplicated k ∉ (addDocuments [objectDocument "user",objectDocument "group"] {}).2.flatten) ∧
    (addDocuments [objectDocument "user",objectDocument "group"] {}).1.schemas =
      (addDocuments [objectDocument "group",objectDocument "user"] {}).1.schemas := by
  have versions : [objectDocument "v1/user",objectDocument "v2/user"].Perm
      [objectDocument "v2/user",objectDocument "v1/user"] := .swap ..
  have names : [objectDocument "user",objectDocument "group"].Perm
      [objectDocument "group",objectDocument "user"] := .swap ..
  have once := ((loadingIgnoresOrder versions).2.1 "user").2
  have none : ∀ k, .duplicated k ∉
      (addDocuments [objectDocument "user",objectDocument "group"] {}).2.flatten :=
    noDuplicateReport.mpr ((runDistinct _).mpr (by decide +kernel))
  exact ⟨versions,once.trans (by decide +kernel),names,none,((loadingIgnoresOrder names).2.2.2 none).2.1⟩

end SchemaCheck.Registry
