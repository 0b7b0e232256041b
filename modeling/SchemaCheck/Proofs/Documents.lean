import SchemaCheck.Proofs.Calls

/-! Documents added one after the other. What is stored, which identifiers are reported as duplicates
and what else is reported are functions of the nodes of the documents that are admitted. -/
namespace SchemaCheck.Registry
open Document

def admittedNodes (ds : List Document) : List Node :=
  (ds.filter fun d => (rejection? d).isNone).flatMap fun d => nodes (lastSegment d.id) d

def documentFaults (d : Document) : List Fault :=
  match rejection? d with
  | some f => [f]
  | none => ownFaultsOf (nodes (lastSegment d.id) d)

def addDocuments : List Document → Registry → Registry × List (List Fault)
  | [], r => (r,[])
  | d :: rest, r =>
    let (r,faults) := addDocument d r
    let (r,later) := addDocuments rest r
    (r,faults :: later)

theorem rejectionKind {d : Document} {f : Fault} (rejected : rejection? d = some f) :
    ∀ g ∈ [f], g.kind ≠ .duplicated := by
  intro g member duplicated
  cases List.mem_singleton.mp member
  unfold rejection? at rejected
  repeat' split at rejected
  all_goals cases rejected
  all_goals simp only [Fault.kind,Fault.incorrectText,reduceCtorEq] at duplicated

theorem admittedCons (d : Document) (rest : List Document) :
    admittedNodes (d :: rest) = admittedNodes [d] ++ admittedNodes rest := by
  cases rejected : rejection? d <;> simp [admittedNodes,rejected]

theorem admittedNone {d : Document} {f : Fault} (rejected : rejection? d = some f) :
    admittedNodes [d] = [] := by
  simp [admittedNodes,rejected]

theorem admittedOne {d : Document} (admitted : rejection? d = none) :
    admittedNodes [d] = nodes (lastSegment d.id) d := by
  simp [admittedNodes,admitted]

theorem admittedPerm {ds es : List Document} (perm : ds.Perm es) :
    (admittedNodes ds).Perm (admittedNodes es) := (perm.filter _).flatMap_right _

def SameTables (r s : Registry) : Prop := r.schemas = s.schemas ∧ r.references = s.references

theorem SameTables.trans {r s t : Registry} (first : SameTables r s) (second : SameTables s t) :
    SameTables r t := ⟨first.1.trans second.1,first.2.trans second.2⟩

theorem SameTables.storeNodes {r s : Registry} (same : SameTables r s) (ns : List Node) :
    SameTables (r.storeNodes ns) (s.storeNodes ns) := by
  unfold SameTables
  rw [(storedTables r ns).1,(storedTables s ns).1,(storedTables r ns).2.1,(storedTables s ns).2.1,
    same.1,same.2]
  exact ⟨rfl,rfl⟩

theorem SameTables.contains {r s : Registry} (same : SameTables r s) : r.contains = s.contains := by
  funext k
  rw [Registry.contains,same.1,Registry.contains]

theorem SameTables.balanced {r s : Registry} (same : SameTables r s) {k : String} {ns : List Node}
    {faults : List Fault} (balance : Balanced k r ns faults) : Balanced k s ns faults := by
  unfold Balanced at *
  rw [← same.contains,← (same.storeNodes ns).contains]
  exact balance

theorem addedTables (d : Document) (r : Registry) :
    SameTables (addDocument d r).1 (r.storeNodes (admittedNodes [d])) := by
  cases rejected : rejection? d with
  | some f => rw [addRejected rejected,admittedNone rejected]; exact ⟨rfl,rfl⟩
  | none => rw [addAdmitted rejected,admittedOne rejected]; exact addRootTables _ _

theorem addedBalanced (k : String) (d : Document) (r : Registry) :
    Balanced k r (admittedNodes [d]) (addDocument d r).2 := by
  cases rejected : rejection? d with
  | some f =>
    have none : [f].count (.duplicated k) = 0 := Fault.countOthers (rejectionKind rejected) k
    rw [addRejected rejected,admittedNone rejected]
    simp [Balanced,none,storeNodes,nodeIds]
  | none => rw [addAdmitted rejected,admittedOne rejected]; exact balanced k _ d r

theorem addedOthers (d : Document) (r : Registry) :
    Fault.others (addDocument d r).2 = documentFaults d := by
  unfold documentFaults
  cases rejected : rejection? d with
  | some f =>
    rw [addRejected rejected]
    exact Fault.othersEqual (rejectionKind rejected)
  | none => rw [addAdmitted rejected]; exact otherFaults _ d r

theorem runTables (ds : List Document) (r : Registry) :
    SameTables (addDocuments ds r).1 (r.storeNodes (admittedNodes ds)) := by
  induction ds generalizing r with
  | nil => exact ⟨rfl,rfl⟩
  | cons d rest ih =>
    have later := ih (addDocument d r).1
    have here := (addedTables d r).storeNodes (admittedNodes rest)
    rw [admittedCons,storeNodesAppend]
    exact later.trans here

theorem runBalanced (k : String) (ds : List Document) (r : Registry) :
    Balanced k r (admittedNodes ds) (addDocuments ds r).2.flatten := by
  induction ds generalizing r with
  | nil => simp [Balanced,admittedNodes,addDocuments,storeNodes,nodeIds]
  | cons d rest ih =>
    have later := (addedTables d r).balanced (ih (addDocument d r).1)
    rw [admittedCons]
    exact balancedAppend (addedBalanced k d r) later

theorem runOthers (ds : List Document) (r : Registry) :
    (addDocuments ds r).2.map Fault.others = ds.map documentFaults := by
  induction ds generalizing r with
  | nil => rfl
  | cons d rest ih => simp only [addDocuments,List.map_cons,addedOthers,ih]

theorem runContains (ds : List Document) (k : String) :
    (addDocuments ds {}).1.contains k = true ↔ k ∈ nodeIds (admittedNodes ds) := by
  rw [(runTables ds {}).contains,storedContains]
  exact or_iff_right (by simp [contains,Table.contains])

theorem runDuplicates (ds : List Document) (k : String) :
    (addDocuments ds {}).2.flatten.count (.duplicated k) =
      (nodeIds (admittedNodes ds)).count k - 1 := by
  have balance := runBalanced k ds {}
  have empty : ({} : Registry).contains k = false := rfl
  unfold Balanced at balance
  rw [storedContainsToNat,empty] at balance
  simp only [Bool.false_eq_true,false_or,Bool.toNat_false,Nat.add_zero] at balance
  split at balance
  · omega
  · rename_i absent
    have none := List.count_eq_zero.mpr absent
    omega

theorem runDistinct (ds : List Document) :
    (∀ k, (addDocuments ds {}).2.flatten.count (.duplicated k) = 0) ↔
      (nodeIds (admittedNodes ds)).Nodup := by
  rw [List.nodup_iff_count]
  constructor
  · intro none k
    have := runDuplicates ds k
    have := none k
    omega
  · intro once k
    have := runDuplicates ds k
    have := once k
    omega

end SchemaCheck.Registry
