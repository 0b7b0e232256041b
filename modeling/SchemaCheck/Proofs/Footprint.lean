import SchemaCheck.Proofs.Collisions
import SchemaCheck.Proofs.Validation

/-! The footprint of a registration: the identifiers at and below the one it is made under. What it stores
and what it reports stays inside, and what it reports depends only on what is stored inside, so
documents that end in different segments do not meet. -/
namespace SchemaCheck

namespace Table

theorem overwriteApart {t : Table α} {xs ys : List (String × α)}
    (apart : ∀ k ∈ xs.map Prod.fst, k ∉ ys.map Prod.fst) :
    (t.overwrite xs).overwrite ys = (t.overwrite ys).overwrite xs := by
  apply equalOfLookups
  intro k
  by_cases first : k ∈ xs.map Prod.fst
  · rw [overwriteUntouched (apart k first)]
    exact overwriteAnyhow first
  · rw [overwriteUntouched first]
    by_cases second : k ∈ ys.map Prod.fst
    · exact overwriteAnyhow second
    · rw [overwriteUntouched second,overwriteUntouched second,overwriteUntouched first]

end Table

theorem Document.ownFaultSubject {id : String} {f : Fault} (own : OwnFault id f) : f.subject? = some id := by
  cases own <;> rfl

namespace Registry
open Document

theorem faultsWithin {id : String} {d : Document} {r : Registry} {f : Fault} (member : f ∈ faultsOf id d r) :
    ∃ k, f.subject? = some k ∧ AtOrBelow id k := by
  obtain ⟨n,node,origin⟩ := faultOrigin member
  refine ⟨n.1,?_,nodeWithin node⟩
  rcases origin with rfl | own
  · rfl
  · exact ownFaultSubject own

theorem storedSame {r s : Registry} {k : String} (same : r.contains k = s.contains k) (ns : List Node) :
    (r.storeNodes ns).contains k = (s.storeNodes ns).contains k := by
  rw [Bool.eq_iff_iff,storedContains,storedContains,same]

theorem faultsOfPartsLocal {ps : List Node} {r s : Registry}
    (same : ∀ p ∈ ps, ∀ k ∈ nodeIds (nodes p.1 p.2), r.contains k = s.contains k)
    (each : ∀ p ∈ ps, ∀ {r s : Registry}, (∀ k ∈ nodeIds (nodes p.1 p.2), r.contains k = s.contains k) →
      faultsOf p.1 p.2 r = faultsOf p.1 p.2 s) :
    faultsOfParts ps r = faultsOfParts ps s := by
  induction ps generalizing r s with
  | nil => rfl
  | cons p rest ih =>
    have later := ih (fun q member k inside => storedSame (same q (by simp [member]) k inside) (nodes p.1 p.2))
      fun q member => each q (by simp [member])
    rw [faultsOfParts,faultsOfParts,each p (by simp) (same p (by simp)),later]

theorem faultsLocal {id : String} {d : Document} {r s : Registry}
    (same : ∀ k ∈ nodeIds (nodes id d), r.contains k = s.contains k) : faultsOf id d r = faultsOf id d s := by
  induction id, d using partsInduction generalizing r s with
  | step id d ih =>
    have parts : faultsOfParts (parts id d) r = faultsOfParts (parts id d) s := by
      refine faultsOfPartsLocal (fun p part k inside => same k ?_) ih
      obtain ⟨n,node,rfl⟩ := List.mem_map.mp inside
      exact List.mem_map.mpr ⟨n,nodeCases.mpr (Or.inl ⟨p,part,node⟩),rfl⟩
    rw [faultsOfEqual,faultsOfEqual,same id (ownId id d),parts]

/- What a call with the document can change or name, whatever was stored before. -/
def Touches (d : Document) (k : String) : Prop :=
  ∃ r, (addDocument d r).1.get? k ≠ r.get? k ∨ (addDocument d r).1.reference? k ≠ r.reference? k ∨
    ∃ f ∈ (addDocument d r).2, f.subject? = some k

theorem documentLocal {id k : String} (apart : ¬ AtOrBelow id k) (d : Document) (r : Registry) :
    (storeDocument id d r).get? k = r.get? k ∧ (storeDocument id d r).reference? k = r.reference? k :=
  documentUntouched fun member => apart (nodeIdWithin member)

theorem touchedWithin {d : Document} {k : String} (sound : d.Admissible) (touched : Touches d k) :
    AtOrBelow (lastSegment d.id) k := by
  obtain ⟨r,change⟩ := touched
  rw [addAdmitted (admissible.mpr sound)] at change
  by_contra apart
  obtain ⟨schema,reference⟩ := documentLocal apart d r
  rcases change with stored | referred | ⟨f,member,named⟩
  · exact stored schema
  · exact referred reference
  · obtain ⟨j,subject,within⟩ := faultsWithin member
    exact apart (Option.some.inj (subject.symm.trans named) ▸ within)

theorem documentsCommute {d e : Document} (apart : ∀ k ∈ nodeIds d.ownNodes, k ∉ nodeIds e.ownNodes)
    (r : Registry) :
    SameTables (storeDocument (lastSegment e.id) e (storeDocument (lastSegment d.id) d r))
      (storeDocument (lastSegment d.id) d (storeDocument (lastSegment e.id) e r)) ∧
    faultsOf (lastSegment d.id) d r = faultsOf (lastSegment d.id) d (storeDocument (lastSegment e.id) e r) := by
  refine ⟨⟨?_,?_⟩,faultsLocal fun k member => ?_⟩
  · simp only [documentTables]
    refine Table.overwriteApart ?_
    rw [schemaRowNames,schemaRowNames]
    exact apart
  · simp only [documentTables]
    refine Table.overwriteApart ?_
    rw [referenceRowNames,referenceRowNames]
    exact apart
  · rw [Bool.eq_iff_iff,documentContains]
    exact (or_iff_left (apart k member)).symm

/-- A registration changes and names only identifiers at or below its own. Hence documents that end in
different segments touch nothing in common, and they can be added in either order: the tables come to
be the same, and each of them is reported for the same. -/
theorem registrationLocal :
    (∀ (id : String) (d : Document) (r : Registry), id ≠ "" →
      ∃ r' result, registration? id (some d) r = .ok (r',result) ∧
        (∀ k, ¬ AtOrBelow id k → r'.get? k = r.get? k ∧ r'.reference? k = r.reference? k) ∧
        ∀ f ∈ result.faults.getD [], ∃ k, f.subject? = some k ∧ AtOrBelow id k) ∧
    ∀ (d e : Document) (r : Registry), d.Admissible → e.Admissible → lastSegment d.id ≠ lastSegment e.id →
      (∀ k, Touches d k → ¬ Touches e k) ∧
      SameTables (addDocument e (addDocument d r).1).1 (addDocument d (addDocument e r).1).1 ∧
      (addDocument d r).2 = (addDocument d (addDocument e r).1).2 ∧
      (addDocument e (addDocument d r).1).2 = (addDocument e r).2 := by
  constructor
  · intro id d r present
    refine ⟨_,_,registrationCall present d r,fun k apart => documentLocal apart d r,?_⟩
    rw [Fault.foundDefault]
    exact fun f => faultsWithin
  · intro d e r soundD soundE different
    have apart : ∀ k ∈ nodeIds d.ownNodes, k ∉ nodeIds e.ownNodes :=
      fun k inD inE => different (segmentShared inD inE)
    obtain ⟨tables,reportD⟩ := documentsCommute apart r
    obtain ⟨_,reportE⟩ := documentsCommute (fun k inE inD => apart k inD inE) r
    refine ⟨fun k touchD touchE => different ?_,?_⟩
    · exact topUnique (lastSegmentFlat d.id) (lastSegmentFlat e.id) (touchedWithin soundD touchD)
        (touchedWithin soundE touchE)
    · simp only [addAdmitted (admissible.mpr soundD),addAdmitted (admissible.mpr soundE)]
      exact ⟨tables,reportD,reportE.symm⟩

def outward (id : String) : Document :=
  { id, dialect := draft04, declaration := some (.name "object")
    properties := [("../../group",some {}),("/group",some (.referring "#/group"))] }

theorem outwardInside :
    ("user" ≠ "" ∧ ¬ AtOrBelow "user" "group" ∧
      ∃ r result, registration? "user" (some (outward "v1/user")) {} = .ok (r,result) ∧
        r.get? "group" = none) ∧
    (outward "v1/user").Admissible ∧ (outward "group").Admissible ∧
    lastSegment (outward "v1/user").id ≠ lastSegment (outward "group").id ∧
    (addDocument (outward "group") (addDocument (outward "v1/user") {}).1).2 =
      (addDocument (outward "group") {}).2 := by
  have present : "user" ≠ "" := by decide
  have apart : ¬ AtOrBelow "user" "group" := fun within =>
    absurd (topUnique (b := "group") (by decide) (by decide) within (Or.inl rfl)) (by decide)
  have first : (outward "v1/user").Admissible := by decide +kernel
  have second : (outward "group").Admissible := by decide +kernel
  have different : lastSegment (outward "v1/user").id ≠ lastSegment (outward "group").id := by decide +kernel
  obtain ⟨alone,together⟩ := registrationLocal
  obtain ⟨r,result,call,kept,_⟩ := alone "user" (outward "v1/user") {} present
  obtain ⟨_,_,_,reported⟩ := together (outward "v1/user") (outward "group") {} first second different
  exact ⟨⟨present,apart,r,result,call,(kept "group" apart).1.trans rfl⟩,first,second,different,reported⟩

end Registry
end SchemaCheck
