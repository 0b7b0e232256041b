import SchemaCheck.Proofs.Representation

/-! Calls without faults leave well-formed schemas only, at the top of the registry and inside: an empty
report means that every node of the document keeps its rules, and a node that does is normalized to a
well-formed schema. -/
namespace SchemaCheck

structure Schema.WellFormed (s : Schema) : Prop where
  exclusive : (s.reference ≠ "" ∧ s.types = []) ∨ (s.reference = "" ∧ s.types ≠ [])
  known : ∀ name ∈ s.types, name ∈ knownTypes
  items : s.hasType "array" = true → s.items ≠ none

inductive Resolved : Option Binary64 → Option Binary64 → Binary64 → Prop where
  | unset : Resolved none none .zero
  | legacy (b : Binary64) : Resolved (some b) none b
  | canonical (b : Binary64) : Resolved none (some b) b

theorem boundResolved {legacy canonical : Option Binary64} (one : legacy = none ∨ canonical = none) :
    Resolved legacy canonical (boundOf legacy canonical) := by
  rcases one with rfl | rfl
  · cases canonical with
    | none => exact .unset
    | some b => exact .canonical b
  · cases legacy with
    | none => exact .unset
    | some b => exact .legacy b

namespace Document

theorem normalizeOptionalNone {id : String} {d : Option Document} :
    normalizeOptional id d = none ↔ d = none := by
  cases d <;> simp [normalizeOptional]

theorem normalizeWellFormed {d : Document} (rules : d.WellFormed) (id : String) :
    (d.normalize id).WellFormed := by
  obtain ⟨_,exclusive,known,items,_,_⟩ := rules
  cases d
  refine ⟨exclusive,known,?_⟩
  intro array
  have listed := items (by simpa [Schema.hasType,normalize,schemaWith] using array)
  simpa [normalize,schemaWith,normalizeOptionalNone] using listed

theorem normalizeBounds {d : Document} (rules : d.WellFormed) (id : String) :
    Resolved d.min d.minValue (d.normalize id).minValue ∧
    Resolved d.max d.maxValue (d.normalize id).maxValue := by
  cases d
  exact ⟨boundResolved rules.lower,boundResolved rules.upper⟩

end Document

namespace Registry
open Document

theorem cleanNodes {id : String} {d : Document} {r : Registry} (clean : faultsOf id d r = [])
    {n : Node} (member : n ∈ nodes id d) : n.2.WellFormed := by
  have none : ownFaultsOf (nodes id d) = [] := by
    rw [← otherFaults id d r,clean]
    rfl
  exact ownFaultsEmpty.mp (List.flatMap_eq_nil_iff.mp none n member)

/- Every schema in the registry, stored or inside a stored one, was made of a node that keeps the rules, in a
document that one of the calls registers. -/
def BuiltClean (cs : List Call) (r : Registry) : Prop :=
  ∀ k s, r.get? k = some s → ∀ t ∈ s.preorder, ∃ c ∈ cs, ∃ id d, c.registered? = some (id,d) ∧
    ∃ n ∈ nodes id d, t = normalized n ∧ n.2.WellFormed

theorem documentBuiltClean {cs : List Call} {c : Call} {id : String} {d : Document} {r : Registry}
    (built : BuiltClean cs r) (called : c ∈ cs) (given : c.registered? = some (id,d))
    (clean : faultsOf id d r = []) : BuiltClean cs (storeDocument id d r) := by
  intro k s found t inside
  rcases documentLookup found with ⟨n,stored,_,rfl⟩ | before
  · obtain ⟨m,within,rfl⟩ := preorderMember inside
    have member := nodesClosed stored within
    exact ⟨c,called,id,d,given,m,member,rfl,cleanNodes clean member⟩
  · exact built k s before t inside

theorem runBuiltClean {cs : List Call}
    (clean : ∀ c faults, (c,.ok faults) ∈ (run cs {}).2 → c.registered? ≠ none → faults = []) :
    BuiltClean cs (run cs {}).1 := by
  refine runInduction cs {} (by simp [BuiltClean,get?]) ?_
  intro c id d before called given _ logged built
  exact documentBuiltClean built called given (clean c _ logged (by simp [given]))

/-- Where no call that registered something reported a fault, every schema of the registry, and every one
inside it, is well formed and was made of a node that gives each bound once at most. -/
theorem cleanRunWellFormed {cs : List Call} {r : Registry} {log : Log} (ran : run cs {} = (r,log))
    (clean : ∀ c faults, (c,.ok faults) ∈ log → c.registered? ≠ none → faults = []) :
    ∀ k s, r.get? k = some s → ∀ t ∈ s.preorder, t.WellFormed ∧
      ∃ c ∈ cs, ∃ id d e, c.registered? = some (id,d) ∧ (t.id,e) ∈ nodes id d ∧
        t = e.normalize t.id ∧ Resolved e.min e.minValue t.minValue ∧
        Resolved e.max e.maxValue t.maxValue := by
  have registry : (run cs {}).1 = r := by rw [ran]
  have built : BuiltClean cs r := registry ▸ runBuiltClean (by rwa [ran])
  intro k s stored t inside
  obtain ⟨c,called,id,d,given,⟨i,e⟩,member,rfl,rules⟩ := built k s stored t inside
  have name : (normalized (i,e)).id = i := normalizeId i e
  obtain ⟨lower,upper⟩ := normalizeBounds rules i
  rw [name]
  exact ⟨normalizeWellFormed rules i,c,called,id,d,e,given,member,rfl,lower,upper⟩

def taggedDocument : Document :=
  { id := "api/user", dialect := draft04, declaration := some (.names ["array","object"])
    items := some { declaration := some (.name "integer"), min := some (.ofNat 7) }
    properties := [("owner",some (.referring "#/group"))] }

def taggedCalls : List Call := [.add {},.register "tag" none,.add taggedDocument]

theorem taggedClean : ∃ r log, run taggedCalls {} = (r,log) ∧
    (∀ c faults, (c,.ok faults) ∈ log → c.registered? ≠ none → faults = []) ∧
    ∃ s, r.get? "user/items" = some s ∧ s.WellFormed := by
  have reports : (run taggedCalls {}).2.map (fun e => (e.1.registered?.isSome,e.2)) =
      [(false,.ok [.missingId]),(false,.ok []),(true,.ok [])] := by decide +kernel
  have clean : ∀ c faults, (c,.ok faults) ∈ (run taggedCalls {}).2 → c.registered? ≠ none → faults = [] := by
    intro c faults logged given
    have row : (c.registered?.isSome,.ok faults) ∈
        (run taggedCalls {}).2.map (fun e => (e.1.registered?.isSome,e.2)) := List.mem_map.mpr ⟨_,logged,rfl⟩
    rw [reports] at row
    have registers : c.registered?.isSome = true := Option.isSome_iff_ne_none.mpr given
    simpa [registers] using row
  have stored : ((run taggedCalls {}).1.get? "user/items").isSome = true := by decide +kernel
  obtain ⟨s,found⟩ := Option.isSome_iff_exists.mp stored
  have own : s ∈ s.preorder := by simp [Schema.preorderEqual]
  have ran : run taggedCalls {} = ((run taggedCalls {}).1,(run taggedCalls {}).2) := rfl
  exact ⟨_,_,ran,clean,s,found,(cleanRunWellFormed ran clean _ s found s own).1⟩

end Registry
end SchemaCheck
