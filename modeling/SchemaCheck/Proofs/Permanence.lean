import SchemaCheck.Proofs.Growth
import SchemaCheck.Proofs.Visited

/-! What calls never take back. Identifiers and roots only become more along a run, so that a reference
which leads to a stored schema does so from then on; a call without duplicates leaves every schema that
was stored as it was. -/
namespace SchemaCheck.Registry
open Document

theorem documentGrows (id : String) (d : Document) (r : Registry) : Grows r (storeDocument id d r) :=
  fun k stored => (documentContains id d r k).mpr (Or.inl stored)

theorem runGrows (cs : List Call) (r : Registry) : Grows r (run cs r).1 :=
  runInduction cs r (fun _ stored => stored) fun _ id d before _ _ _ _ grows =>
    grows.trans (documentGrows id d before)

theorem documentRootsExtend (id : String) (d : Document) (r : Registry) :
    r.roots <+: (storeDocument id d r).roots := by
  rw [documentRoots]
  split
  · exact List.prefix_refl _
  · exact List.prefix_append ..

theorem runRootsExtend (cs : List Call) (r : Registry) : r.roots <+: (run cs r).1.roots :=
  runInduction (motive := fun later => r.roots <+: later.roots) cs r (List.prefix_refl _)
    fun _ id d before _ _ _ _ begun => begun.trans (documentRootsExtend id d before)

theorem validateMember {r : Registry} {f : Fault} :
    f ∈ r.validate ↔
      ∃ k reference, r.reference? k = some reference ∧ r.referenceFault? k reference = some f := by
  simp only [validate,List.mem_filterMap,Prod.exists,reference?,Table.getMember]

theorem referenceFaultSubject {r : Registry} {k reference : String} {f : Fault}
    (found : r.referenceFault? k reference = some f) : f.subject? = some k :=
  verdictSubject (found ▸ verdictGiven r k reference)

theorem referenceFaultEarlier {r s : Registry} (grows : Grows r s) {k reference : String} {f : Fault}
    (later : s.referenceFault? k reference = some f) : r.referenceFault? k reference = some f := by
  unfold referenceFault? at later ⊢
  split at later
  · contradiction
  · rename_i given
    rw [if_neg given]
    split at later
    · exact later
    · rename_i t _
      split at later
      · contradiction
      · rename_i missing
        rw [if_neg fun stored => missing (grows t stored)]
        exact later

theorem documentKeeps {id : String} {d : Document} {r : Registry}
    (unique : ∀ f ∈ faultsOf id d r, f.kind ≠ .duplicated) {k : String} (stored : r.contains k = true) :
    (storeDocument id d r).reference? k = r.reference? k := by
  have apart : k ∉ nodeIds (nodes id d) := by
    intro member
    rw [(freshNodes unique).2 k member] at stored
    contradiction
  exact (documentUntouched apart).2

theorem performKeeps {c : Call} {r : Registry}
    (unique : ∀ faults, (perform c r).2 = .ok faults → ∀ f ∈ faults, f.kind ≠ .duplicated) :
    Grows r (perform c r).1 ∧
      ∀ k, r.contains k = true → (perform c r).1.reference? k = r.reference? k := by
  cases given : c.registered? with
  | none =>
    rw [performNothing given]
    exact ⟨fun _ stored => stored,fun _ _ => rfl⟩
  | some n =>
    obtain ⟨_,performed⟩ := performDocument given r
    rw [performed] at unique ⊢
    exact ⟨documentGrows n.1 n.2 r,fun k stored => documentKeeps (unique _ rfl) stored⟩

/-- From any registry on, a run keeps all identifiers and has the roots so far as its first roots. An
identifier whose reference validation does not report is not reported later either, as long as its
reference stays the same; and a call without duplicates brings no dangling reference to an identifier
that was stored before it. -/
theorem resolvedStays (cs : List Call) (r : Registry) :
    (∀ k ∈ r.ids, k ∈ (run cs r).1.ids) ∧
    r.roots <+: (run cs r).1.roots ∧
    (∀ k reference, r.reference? k = some reference → (∀ f ∈ r.validate, f.subject? ≠ some k) →
      (run cs r).1.reference? k = some reference →
      ∀ f ∈ (run cs r).1.validate, f.subject? ≠ some k) ∧
    ∀ c, (∀ faults, (perform c r).2 = .ok faults → ∀ f ∈ faults, f.kind ≠ .duplicated) →
      ∀ k ∈ r.ids, ∀ reference, .invalidRef k reference ∈ (perform c r).1.validate →
        .invalidRef k reference ∈ r.validate := by
  have grows := runGrows cs r
  refine ⟨fun k stored => idsContains.mpr (grows k (idsContains.mp stored)),runRootsExtend cs r,?_,?_⟩
  · intro k reference before resolved later f reported about
    obtain ⟨k',reference',stored,fault⟩ := validateMember.mp reported
    obtain rfl : k' = k := Option.some.inj ((referenceFaultSubject fault).symm.trans about)
    obtain rfl : reference' = reference := Option.some.inj (stored.symm.trans later)
    exact resolved f (validateMember.mpr ⟨k',reference',before,referenceFaultEarlier grows fault⟩) about
  · intro c unique k stored reference reported
    obtain ⟨grown,kept⟩ := performKeeps unique
    obtain ⟨k',reference',found,fault⟩ := validateMember.mp reported
    obtain rfl : k' = k := Option.some.inj (referenceFaultSubject fault).symm
    rw [kept k' (idsContains.mp stored)] at found
    exact validateMember.mpr ⟨k',reference',found,referenceFaultEarlier grown fault⟩

def selfCalls : List Call :=
  [.register "user" (some (.referring "#/user")),.register "home" (some (.referring "#/late"))]

theorem replacedStays :
    let r := (run selfCalls {}).1
    let later := (run [.register "user" (some { reference := "#/user", items := some {} })] r).1
    let c : Call := .register "group" (some {})
    (r.reference? "user" = some "#/user" ∧ (∀ f ∈ r.validate, f.subject? ≠ some "user") ∧
      later.reference? "user" = some "#/user" ∧ ∀ f ∈ later.validate, f.subject? ≠ some "user") ∧
    (∀ faults, (perform c r).2 = .ok faults → ∀ f ∈ faults, f.kind ≠ .duplicated) ∧
    "home" ∈ r.ids ∧ .invalidRef "home" "#/late" ∈ (perform c r).1.validate ∧
    .invalidRef "home" "#/late" ∈ r.validate := by
  intro r later c
  obtain ⟨_,_,stays,only⟩ :=
    resolvedStays [.register "user" (some { reference := "#/user", items := some {} })] r
  have before : r.reference? "user" = some "#/user" := by decide +kernel
  have resolved : ∀ f ∈ r.validate, f.subject? ≠ some "user" := by decide +kernel
  have after : later.reference? "user" = some "#/user" := by decide +kernel
  have reports : (perform c r).2 = .ok [.property "group" "$ref" .nil,.property "group" "type" .nil] := by
    decide +kernel
  have unique : ∀ faults, (perform c r).2 = .ok faults → ∀ f ∈ faults, f.kind ≠ .duplicated := by
    intro faults same
    rw [reports] at same
    cases same
    decide
  have stored : "home" ∈ r.ids := by decide +kernel
  have dangling : .invalidRef "home" "#/late" ∈ (perform c r).1.validate := by decide +kernel
  exact ⟨⟨before,resolved,after,stays "user" "#/user" before resolved after⟩,unique,stored,dangling,
    only c unique "home" stored "#/late" dangling⟩

end SchemaCheck.Registry
