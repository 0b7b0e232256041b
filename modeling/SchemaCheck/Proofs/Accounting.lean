import SchemaCheck.Proofs.FaultList

/-! An account of duplicates. Every node of a registration either makes its identifier new to the
registry or is reported as a duplicate, so that reports and new identifiers add up to the nodes; all
other faults are those of the nodes one by one, whatever the registry holds. -/
namespace SchemaCheck

namespace Fault

def others (faults : List Fault) : List Fault := faults.filter (·.kind ≠ .duplicated)

theorem othersAppend (fs gs : List Fault) : others (fs ++ gs) = others fs ++ others gs :=
  List.filter_append ..

theorem othersEqual {fs : List Fault} (none : ∀ f ∈ fs, f.kind ≠ .duplicated) : others fs = fs := by
  apply List.filter_eq_self.mpr
  intro f member
  exact decide_eq_true (none f member)

theorem countOthers {fs : List Fault} (none : ∀ f ∈ fs, f.kind ≠ .duplicated) (k : String) :
    fs.count (.duplicated k) = 0 := by
  apply List.count_eq_zero.mpr
  intro member
  exact none _ member rfl

theorem emptyIff {fs : List Fault} :
    fs = [] ↔ (∀ k, fs.count (.duplicated k) = 0) ∧ others fs = [] := by
  constructor
  · rintro rfl
    exact ⟨fun _ => rfl,rfl⟩
  · rintro ⟨counts,rest⟩
    apply List.eq_nil_iff_forall_not_mem.mpr
    intro f member
    have duplicated : f.kind = .duplicated := by
      refine Decidable.byContradiction fun other => ?_
      have kept : f ∈ others fs := List.mem_filter.mpr ⟨member,decide_eq_true other⟩
      simp [rest] at kept
    cases f <;> simp only [Fault.kind,reduceCtorEq] at duplicated
    exact List.count_eq_zero.mp (counts _) member

end Fault

namespace Document

theorem ownFaultsKind {id : String} {d : Document} {f : Fault} (member : f ∈ ownFaults id d) :
    f.kind ≠ .duplicated := by
  cases ownFault member <;> simp [Fault.kind,Fault.incorrectText]

def ownFaultsOf (ns : List Node) : List Fault := ns.flatMap fun n => ownFaults n.1 n.2

end Document

namespace Registry
open Document

theorem otherFaultsOfParts {ps : List Node} (r : Registry)
    (each : ∀ p ∈ ps, ∀ r, Fault.others (faultsOf p.1 p.2 r) = ownFaultsOf (nodes p.1 p.2)) :
    Fault.others (faultsOfParts ps r) = ownFaultsOf (nodesOfParts ps) := by
  induction ps generalizing r with
  | nil => rfl
  | cons p rest ih =>
    have here := each p (by simp) r
    have later := ih (r.storeNodes (nodes p.1 p.2)) fun q member => each q (by simp [member])
    simp only [faultsOfParts,Fault.othersAppend,here,later,nodesOfParts,ownFaultsOf,List.flatMap_cons,
      List.flatMap_append]

theorem otherFaults (id : String) (d : Document) (r : Registry) :
    Fault.others (faultsOf id d r) = ownFaultsOf (nodes id d) := by
  induction id, d using partsInduction generalizing r with
  | step id d ih =>
    have duplicates : Fault.others (if r.contains id then [.duplicated id] else []) = [] := by
      split <;> rfl
    rw [faultsOfEqual,nodesEqual,Fault.othersAppend,Fault.othersAppend,duplicates,otherFaultsOfParts r ih,
      Fault.othersEqual fun f => ownFaultsKind]
    simp [ownFaultsOf]

def Balanced (k : String) (r : Registry) (ns : List Node) (faults : List Fault) : Prop :=
  faults.count (.duplicated k) + ((r.storeNodes ns).contains k).toNat =
    (nodeIds ns).count k + (r.contains k).toNat

theorem balancedAppend {k : String} {r : Registry} {ms ns : List Node} {fs gs : List Fault}
    (first : Balanced k r ms fs) (second : Balanced k (r.storeNodes ms) ns gs) :
    Balanced k r (ms ++ ns) (fs ++ gs) := by
  unfold Balanced at *
  rw [storeNodesAppend,nodeIdsAppend,List.count_append,List.count_append]
  omega

theorem balancedParts {k : String} {ps : List Node} (r : Registry)
    (each : ∀ p ∈ ps, ∀ r, Balanced k r (nodes p.1 p.2) (faultsOf p.1 p.2 r)) :
    Balanced k r (nodesOfParts ps) (faultsOfParts ps r) := by
  induction ps generalizing r with
  | nil => simp [Balanced,nodesOfParts,faultsOfParts,storeNodes,nodeIds]
  | cons p rest ih =>
    have later := ih (r.storeNodes (nodes p.1 p.2)) fun q member => each q (by simp [member])
    exact balancedAppend (each p (by simp) r) later

theorem storedContainsToNat (r : Registry) (ns : List Node) (k : String) :
    ((r.storeNodes ns).contains k).toNat = if r.contains k = true ∨ k ∈ nodeIds ns then 1 else 0 := by
  have h := storedContains r ns k
  cases stored : (r.storeNodes ns).contains k <;> simp_all [nodeIds]

theorem balanced (k id : String) (d : Document) (r : Registry) :
    Balanced k r (nodes id d) (faultsOf id d r) := by
  induction id, d using partsInduction generalizing r with
  | step id d ih =>
    have inner : Balanced k r (nodesOfParts (parts id d)) (faultsOfParts (parts id d) r) :=
      balancedParts r ih
    have own : id ∉ nodeIds (nodesOfParts (parts id d)) := ownIdFresh id d
    have none : (ownFaults id d).count (.duplicated k) = 0 := Fault.countOthers (fun _ => ownFaultsKind) k
    have last : nodeIds [(id,d)] = [id] := rfl
    unfold Balanced at *
    rw [storedContainsToNat] at *
    rw [faultsOfEqual,nodesEqual,nodeIdsAppend,last]
    -- At its own identifier a node adds its report or its new name; at any other only its parts count.
    simp only [List.count_append,none,List.mem_append,List.mem_singleton]
    by_cases same : k = id
    · subst same
      cases stored : r.contains k <;> simp_all
      omega
    · have report : (if r.contains id = true then [Fault.duplicated id] else []).count
          (.duplicated k) = 0 := by
        split <;> simp [Ne.symm same]
      simp only [report,same,or_false,List.count_singleton,beq_iff_eq,Ne.symm same,if_false]
      omega

end Registry
end SchemaCheck
