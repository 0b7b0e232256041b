import SchemaCheck.Proofs.Permanence

/-! Documents added a second time. The registry is left as it was, even where the documents overwrite each
other; what comes new is a report of every node as a duplicate. -/
namespace SchemaCheck.Registry
open Document

theorem addedRun (ds : List Document) (r : Registry) :
    (addDocuments ds r).1 = (run (ds.map .add) r).1 := by
  induction ds generalizing r with
  | nil => rfl
  | cons d rest ih => exact ih (addDocument d r).1

theorem storedTwice (r : Registry) (ns : List Node) :
    SameTables ((r.storeNodes ns).storeNodes ns) (r.storeNodes ns) := by
  obtain ⟨schemas,references,_⟩ := storedTables r ns
  obtain ⟨schemasAgain,referencesAgain,_⟩ := storedTables (r.storeNodes ns) ns
  constructor
  · rw [schemasAgain,schemas,Table.overwriteTwice]
  · rw [referencesAgain,references,Table.overwriteTwice]

theorem reloadedTables (ds : List Document) (r : Registry) :
    SameTables (addDocuments ds (addDocuments ds r).1).1 (addDocuments ds r).1 := by
  have first := runTables ds r
  have second := (runTables ds (addDocuments ds r).1).trans (first.storeNodes (admittedNodes ds))
  exact (second.trans (storedTwice r (admittedNodes ds))).trans ⟨first.1.symm,first.2.symm⟩

theorem rootAdded {ds : List Document} {d : Document} (member : d ∈ ds) (admitted : rejection? d = none)
    (r : Registry) : lastSegment d.id ∈ (addDocuments ds r).1.roots := by
  induction ds generalizing r with
  | nil => contradiction
  | cons head rest ih =>
    rcases List.mem_cons.mp member with rfl | later
    · have own : lastSegment d.id ∈ (addDocument d r).1.roots := by
        rw [addAdmitted admitted]
        exact documentRootMember.mpr (Or.inr rfl)
      have kept := runRootsExtend (rest.map .add) (addDocument d r).1
      rw [← addedRun] at kept
      exact kept.subset own
    · exact ih later (addDocument head r).1

theorem rootsKnown {ds : List Document} {r : Registry}
    (known : ∀ d ∈ ds, rejection? d = none → lastSegment d.id ∈ r.roots) :
    (addDocuments ds r).1.roots = r.roots := by
  induction ds generalizing r with
  | nil => rfl
  | cons d rest ih =>
    obtain ⟨own,later⟩ := List.forall_mem_cons.mp known
    have here : (addDocument d r).1.roots = r.roots := by
      cases rejected : rejection? d with
      | some f => rw [addRejected rejected]
      | none => rw [addAdmitted rejected,documentRoots,if_pos (own rejected)]
    exact (ih (here.symm ▸ later)).trans here

theorem sameRegistry {r s : Registry} (tables : SameTables r s) (roots : r.roots = s.roots) : r = s := by
  obtain ⟨schemas,references⟩ := tables
  cases r
  cases s
  simp_all

theorem reloaded (ds : List Document) (r : Registry) :
    (addDocuments ds (addDocuments ds r).1).1 = (addDocuments ds r).1 :=
  sameRegistry (reloadedTables ds r) (rootsKnown fun _ member admitted => rootAdded member admitted r)

theorem reportedAt {ds : List Document} {i : Nat} {d : Document} (found : ds[i]? = some d)
    (r : Registry) :
    (addDocuments ds r).2[i]? = some (addDocument d (addDocuments (ds.take i) r).1).2 := by
  induction ds generalizing r i with
  | nil => simp at found
  | cons head rest ih =>
    cases i with
    | zero =>
      cases found
      rfl
    | succ i => exact ih found (addDocument head r).1

theorem knownReported {d : Document} {r : Registry}
    (known : ∀ k ∈ nodeIds (admittedNodes [d]), r.contains k = true) (k : String) :
    (addDocument d r).2.count (.duplicated k) = (nodeIds (admittedNodes [d])).count k := by
  have settled : (r.storeNodes (admittedNodes [d])).contains k = r.contains k := by
    rw [Bool.eq_iff_iff,storedContains]
    exact or_iff_left_of_imp (known k)
  have balance := addedBalanced k d r
  unfold Balanced at balance
  rw [settled] at balance
  exact Nat.add_right_cancel balance

theorem admittedMember {ds : List Document} {d : Document} {k : String} (member : d ∈ ds)
    (node : k ∈ nodeIds (admittedNodes [d])) : k ∈ nodeIds (admittedNodes ds) := by
  obtain ⟨before,after,rfl⟩ := List.append_of_mem member
  simp_all [admittedNodes,nodeIds]

/-- Adding the documents of a list again changes nothing in a registry. A document that is admitted is then
reported for each of its nodes once, beside the other faults that it had, and one that is not
admitted for the same fault as before. -/
theorem reloadingChangesNothing (ds : List Document) (r : Registry) :
    (addDocuments ds (addDocuments ds r).1).1 = (addDocuments ds r).1 ∧
    ∀ (i : Nat) (d : Document), ds[i]? = some d →
      ∃ first second, (addDocuments ds r).2[i]? = some first ∧
        (addDocuments ds (addDocuments ds r).1).2[i]? = some second ∧
        (∀ f, rejection? d = some f → first = [f] ∧ second = [f]) ∧
        (rejection? d = none → Fault.others second = Fault.others first ∧
          ∀ k, second.count (.duplicated k) = (nodeIds (nodes (lastSegment d.id) d)).count k) := by
  refine ⟨reloaded ds r,fun i d found => ⟨_,_,reportedAt found r,reportedAt found _,?_,?_⟩⟩
  · intro f rejected
    simp only [addRejected rejected,and_self]
  · intro admitted
    refine ⟨by rw [addedOthers,addedOthers],fun k => ?_⟩
    rw [← admittedOne admitted]
    refine knownReported (fun k node => ?_) k
    -- The first pass stores all nodes, and nothing in the second takes them back.
    have stored : (addDocuments ds r).1.contains k = true := by
      rw [(runTables ds r).contains,storedContains]
      exact Or.inr (admittedMember (List.mem_of_getElem? found) node)
    rw [addedRun (ds.take i)]
    exact runGrows _ _ k stored

def listDocument (id item : String) : Document :=
  { id, dialect := draft04, declaration := some (.name "array"), items := some (.referring item) }

def versions : List Document := [{},listDocument "v1/user" "#/a",listDocument "v2/user" "#/b"]

theorem versionsReloaded :
    (versions[0]? = some ({} : Document) ∧ rejection? {} = some .missingId ∧
      (addDocuments versions (addDocuments versions {}).1).2[0]? = some [.missingId]) ∧
    versions[1]? = some (listDocument "v1/user" "#/a") ∧ rejection? (listDocument "v1/user" "#/a") = none ∧
    (addDocuments versions {}).2[1]? = some [] ∧
    ∃ second, (addDocuments versions (addDocuments versions {}).1).2[1]? = some second ∧
      second.count (.duplicated "user/items") = 1 := by
  have rejected : rejection? {} = some .missingId := by decide
  have admitted : rejection? (listDocument "v1/user" "#/a") = none := by decide +kernel
  have fresh : (addDocuments versions {}).2[1]? = some [] := by decide +kernel
  obtain ⟨_,each⟩ := reloadingChangesNothing versions {}
  obtain ⟨_,_,_,same,refusals,_⟩ := each 0 {} rfl
  obtain ⟨_,second,_,reported,_,reports⟩ := each 1 (listDocument "v1/user" "#/a") rfl
  refine ⟨⟨rfl,rejected,?_⟩,rfl,admitted,fresh,second,reported,?_⟩
  · rw [same,(refusals _ rejected).2]
  · exact ((reports admitted).2 "user/items").trans (by decide +kernel)

end SchemaCheck.Registry
