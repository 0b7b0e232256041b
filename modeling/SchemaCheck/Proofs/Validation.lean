import SchemaCheck.Proofs.References
import SchemaCheck.Proofs.Representation

/-! Validation goes through the table of references; over a registry that calls lead to, this comes to a
check of the stored schemas, identifier by identifier in ascending order. -/
namespace SchemaCheck

def Fault.subject? : Fault → Option String
  | extraSlash id | duplicated id => some id
  | property id _ _ | propertyIncorrect id _ _ | invalidRef id _ => some id
  | unsupportedFile _ | missingId => none

namespace Registry

/- What a reference in the schema stored under `id` comes to, given what is stored beside it. -/
inductive Verdict (r : Registry) (id : String) : String → Option Fault → Prop where
  | absent : Verdict r id "" none
  | foreign {reference : String} (given : reference ≠ "") (other : ∀ t, reference ≠ localPrefix ++ t) :
      Verdict r id reference (some (.propertyIncorrect id "$ref" (Text.quoted reference)))
  | dangling {t : String} (missing : r.contains t = false) :
      Verdict r id (localPrefix ++ t) (some (.invalidRef id (localPrefix ++ t)))
  | resolved {t : String} (stored : r.contains t = true) : Verdict r id (localPrefix ++ t) none

theorem verdictGiven (r : Registry) (id reference : String) :
    Verdict r id reference (r.referenceFault? id reference) := by
  unfold referenceFault?
  split
  · rename_i empty
    rw [String.isEmpty_iff.mp empty]
    exact .absent
  · rename_i given
    split
    · rename_i none
      refine .foreign (fun empty => given (String.isEmpty_iff.mpr empty)) ?_
      intro t same
      rw [targetEqual.mpr same] at none
      contradiction
    · rename_i t found
      rw [targetEqual.mp found]
      split
      · exact .resolved (by assumption)
      · exact .dangling (by simp_all)

theorem verdictSubject {r : Registry} {id reference : String} {f : Fault}
    (verdict : Verdict r id reference (some f)) : f.subject? = some id := by
  cases verdict <;> rfl

def storedFault? (r : Registry) (id : String) : Option Fault :=
  (r.get? id).bind fun s => r.referenceFault? id s.reference

theorem alignedReferences {r : Registry} (aligned : Aligned r) :
    r.references.entries = r.schemas.entries.map fun e => (e.1,e.2.reference) := by
  refine Entries.equalOfMembers Prod.fst r.references.ordered (List.pairwise_map.mpr r.schemas.ordered) ?_
  rintro ⟨k,reference⟩
  rw [← Table.getMember]
  constructor
  · intro found
    have member : k ∈ r.ids := by
      rw [← aligned.keys]
      exact Table.namesMember.mpr (by simp [Table.contains,found])
    obtain ⟨s,stored⟩ := idsStored.mp member
    have same := (aligned.own k s stored).2.symm.trans found
    exact List.mem_map.mpr ⟨(k,s),Table.getMember.mp stored,by simpa using same⟩
  · intro row
    obtain ⟨⟨id,s⟩,member,same⟩ := List.mem_map.mp row
    cases same
    exact (aligned.own id s (Table.getMember.mpr member)).2

theorem alignedValidate {r : Registry} (aligned : Aligned r) :
    r.validate = r.ids.filterMap r.storedFault? := by
  rw [validate,alignedReferences aligned,List.filterMap_map]
  exact r.schemas.entriesByName fun id s => r.referenceFault? id s.reference

theorem storedFaultSubject {r : Registry} {id : String} {f : Fault} (found : r.storedFault? id = some f) :
    f.subject? = some id := by
  obtain ⟨s,_,fault⟩ := Option.bind_eq_some_iff.mp found
  exact verdictSubject (fault ▸ verdictGiven r id s.reference)

theorem idsAscending (r : Registry) : r.ids.Pairwise (· < ·) := List.pairwise_map.mpr r.schemas.ordered

theorem idsOnce (r : Registry) : r.ids.Nodup := Entries.ascendingNodup id (idsAscending r)

theorem subjectsOnce (r : Registry) : ((r.ids.filterMap r.storedFault?).map Fault.subject?).Nodup := by
  rw [List.Nodup,List.pairwise_map,List.pairwise_filterMap]
  refine (idsOnce r).imp ?_
  intro a b different f first g second same
  rw [storedFaultSubject first,storedFaultSubject second,Option.some.injEq] at same
  exact different same

theorem validateNothing {r : Registry} (aligned : Aligned r) :
    r.validate = [] ↔ ∀ k s, r.get? k = some s → s.reference ≠ "" →
      ∃ t ∈ r.ids, s.reference = localPrefix ++ t := by
  have each : ∀ (k : String) (s : Schema), r.referenceFault? k s.reference = none ↔
      (s.reference ≠ "" → ∃ t ∈ r.ids, s.reference = localPrefix ++ t) := by
    intro k s
    simp only [referenceFaultNone,idsContains,and_comm]
  rw [alignedValidate aligned,List.filterMap_eq_nil_iff]
  constructor
  · intro none k s stored
    have fault := none k (idsStored.mpr ⟨s,stored⟩)
    rw [storedFault?,stored] at fault
    exact (each k s).mp fault
  · intro all k member
    obtain ⟨s,stored⟩ := idsStored.mp member
    rw [storedFault?,stored]
    exact (each k s).mpr (all k s stored)

/-- Validation reports, in ascending order of the identifiers, what the reference of each stored schema
comes to; so at most one fault about each, and none exactly if all references lead to stored schemas. -/
theorem validationExact {cs : List Call} {r : Registry} {log : Log} (ran : run cs {} = (r,log)) :
    r.ids.Pairwise (· < ·) ∧
    (∃ verdict : String → Option Fault,
      (∀ k ∈ r.ids, ∃ s, r.get? k = some s ∧ Verdict r k s.reference (verdict k)) ∧
      r.validate = r.ids.filterMap verdict) ∧
    (r.validate.map Fault.subject?).Nodup ∧
    (r.validate = [] ↔ ∀ k s, r.get? k = some s → s.reference ≠ "" →
      ∃ t ∈ r.ids, s.reference = localPrefix ++ t) := by
  have registry : (run cs {}).1 = r := by rw [ran]
  have aligned : Aligned r := registry ▸ runAligned cs
  refine ⟨idsAscending r,⟨r.storedFault?,?_,alignedValidate aligned⟩,?_,validateNothing aligned⟩
  · intro k member
    obtain ⟨s,stored⟩ := idsStored.mp member
    refine ⟨s,stored,?_⟩
    rw [storedFault?,stored]
    exact verdictGiven r k s.reference
  · rw [alignedValidate aligned]
    exact subjectsOnce r

def nestedCalls : List Call :=
  [.register "user/definitions/late" (some { items := some (.referring "user") }),
    .register "" (some (.referring "#/user")),
    .add { id := "api/user", dialect := draft04, declaration := some (.name "object")
           properties := [("friend",some (.referring "#/user")),("home",some (.referring "#/user/home"))] }]

theorem nestedFaults : ∃ r log, run nestedCalls {} = (r,log) ∧
    r.validate = [.propertyIncorrect "user/definitions/late/items" "$ref" "\"user\"",
      .invalidRef "user/properties/home" "#/user/home"] ∧
    ¬ ∀ k s, r.get? k = some s → s.reference ≠ "" → ∃ t ∈ r.ids, s.reference = localPrefix ++ t := by
  have faults : (run nestedCalls {}).1.validate =
      [.propertyIncorrect "user/definitions/late/items" "$ref" "\"user\"",
        .invalidRef "user/properties/home" "#/user/home"] := by decide +kernel
  have ran : run nestedCalls {} = ((run nestedCalls {}).1,(run nestedCalls {}).2) := rfl
  have passes := (validationExact ran).2.2.2
  refine ⟨_,_,ran,faults,?_⟩
  rw [← passes,faults]
  exact List.cons_ne_nil _ _

end Registry
end SchemaCheck
