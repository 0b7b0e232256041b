import SchemaCheck.Proofs.Validation

/-! The walk over the roots and the two tables are views of the same schemas as long as no identifier
is reported as a duplicate: the trees of the roots then share the stored schemas out among them. -/
namespace SchemaCheck.Registry
open Document

/-- What a walk visits that never turns back, in its order. -/
def visited (r : Registry) : List Schema := Schema.preorderOfAll r.rootSchemas

theorem freshNodes {id : String} {d : Document} {r : Registry}
    (unique : ∀ f ∈ faultsOf id d r, f.kind ≠ .duplicated) :
    (nodeIds (nodes id d)).Nodup ∧ ∀ k ∈ nodeIds (nodes id d), r.contains k = false := by
  have atMost : ∀ k, (nodeIds (nodes id d)).count k + (r.contains k).toNat ≤ 1 := by
    intro k
    have balance := balanced k id d r
    unfold Balanced at balance
    rw [Fault.countOthers unique k,Nat.zero_add] at balance
    exact balance ▸ Bool.toNat_le _
  constructor
  · refine List.nodup_iff_count.mpr fun k => ?_
    have := atMost k
    omega
  · intro k member
    have once := atMost k
    have present := List.count_pos_iff.mpr member
    cases stored : r.contains k with
    | false => rfl
    | true => simp only [stored,Bool.toNat_true] at once; omega

structure Partitioned (r : Registry) : Prop where
  rootsStored : ∀ k ∈ r.roots, r.contains k = true
  shared : r.visited.Perm (r.schemas.entries.map Prod.snd)

theorem emptyPartitioned : Partitioned {} := ⟨by simp,.refl _⟩

theorem documentRootSchemas {id : String} {d : Document} {r : Registry}
    (distinct : (nodeIds (nodes id d)).Nodup) (fresh : ∀ k ∈ nodeIds (nodes id d), r.contains k = false)
    (rootsStored : ∀ k ∈ r.roots, r.contains k = true) :
    (storeDocument id d r).rootSchemas = r.rootSchemas ++ [d.normalize id] := by
  have apart : ∀ k ∈ r.roots, k ∉ nodeIds (nodes id d) := by
    intro k root member
    have taken := rootsStored k root
    rw [fresh k member] at taken
    contradiction
  have new : id ∉ r.roots := fun root => apart id root (ownId id d)
  have table : (storeDocument id d r).get? = (r.schemas.overwrite (schemaRows (nodes id d))).get? := by
    funext k
    rw [get?,(documentTables id d r).1]
  rw [rootSchemas,documentRoots,if_neg new,table,List.filterMap_append]
  congr 1
  · apply List.filterMap_congr
    intro k root
    exact Table.overwriteUntouched ((schemaRowNames _).symm ▸ apart k root)
  · have found : (r.schemas.overwrite (schemaRows (nodes id d))).get? id = some (d.normalize id) := by
      refine (Table.overwriteDistinct ((schemaRowNames _).symm ▸ distinct)).mpr (Or.inl ?_)
      exact List.mem_map.mpr ⟨_,ownNode id d,rfl⟩
    simp [found]

theorem documentPartitioned {r : Registry} (partitioned : Partitioned r) {id : String} {d : Document}
    (unique : ∀ f ∈ faultsOf id d r, f.kind ≠ .duplicated) : Partitioned (storeDocument id d r) := by
  obtain ⟨distinct,fresh⟩ := freshNodes unique
  constructor
  · intro k root
    rw [documentContains]
    rcases documentRootMember.mp root with before | rfl
    · exact Or.inl (partitioned.rootsStored k before)
    · exact Or.inr (ownId k d)
  · have entries : (storeDocument id d r).schemas.entries.Perm
        (r.schemas.entries ++ schemaRows (nodes id d)) := by
      rw [(documentTables id d r).1]
      refine Table.overwriteFresh ((schemaRowNames _).symm ▸ distinct) ?_
      rw [schemaRowNames]
      exact fresh
    have rows : (schemaRows (nodes id d)).map Prod.snd = (nodes id d).map normalized := by
      rw [schemaRows,List.map_map]
      rfl
    have trees : (storeDocument id d r).visited = r.visited ++ (d.normalize id).preorder := by
      rw [visited,documentRootSchemas distinct fresh partitioned.rootsStored]
      simp [visited,Schema.preorderOfAll]
    refine .trans ?_ (entries.map Prod.snd).symm
    rw [trees,List.map_append,rows]
    exact partitioned.shared.append (preorderNormalize id d).symm

theorem runPartitioned {cs : List Call}
    (unique : ∀ c faults, (c,.ok faults) ∈ (run cs {}).2 → ∀ f ∈ faults, f.kind ≠ .duplicated) :
    Partitioned (run cs {}).1 :=
  runInduction cs {} emptyPartitioned fun c id d before _ _ _ logged partitioned =>
    documentPartitioned partitioned (unique c (faultsOf id d before) logged)

theorem visitedReferences {r : Registry} (aligned : Aligned r) (partitioned : Partitioned r) :
    (r.visited.map fun s => (s.id,s.reference)).Perm r.references.entries := by
  have own : r.schemas.entries.map (fun e => (e.2.id,e.2.reference)) = r.references.entries := by
    rw [alignedReferences aligned]
    apply List.map_congr_left
    rintro ⟨k,s⟩ member
    rw [(aligned.own k s (Table.getMember.mpr member)).1]
  have shared := partitioned.shared.map fun s => (s.id,s.reference)
  rw [List.map_map] at shared
  exact own ▸ shared

theorem visitedIds {r : Registry} (aligned : Aligned r) (partitioned : Partitioned r) :
    (r.visited.map Schema.id).Perm r.ids := by
  have names := (visitedReferences aligned partitioned).map Prod.fst
  rw [List.map_map] at names
  exact aligned.keys ▸ names

theorem visitedLookup {r : Registry} (aligned : Aligned r) (partitioned : Partitioned r) {s : Schema}
    (member : s ∈ r.visited) : r.get? s.id = some s := by
  obtain ⟨⟨k,_⟩,entry,rfl⟩ := List.mem_map.mp (partitioned.shared.mem_iff.mp member)
  have stored : r.get? k = some _ := Table.getMember.mpr entry
  rwa [← (aligned.own k _ stored).1] at stored

theorem visitedFaults {r : Registry} (aligned : Aligned r) (partitioned : Partitioned r) :
    (r.visited.filterMap fun s => r.referenceFault? s.id s.reference).Perm r.validate := by
  have checked := (visitedReferences aligned partitioned).filterMap fun e => r.referenceFault? e.1 e.2
  rwa [List.filterMap_map] at checked

/-- Without duplicates a walk that never turns back visits every stored identifier once and no other, each
schema as it is stored; the references it sees are those that validation checks, and so are their faults. -/
theorem walkVisitsStored {cs : List Call} {r : Registry} {log : Log} (ran : run cs {} = (r,log))
    (unique : ∀ c faults, (c,.ok faults) ∈ log → ∀ f ∈ faults, f.kind ≠ .duplicated) :
    ∃ visited : List Schema,
      (∀ (σ ε : Type) (note : σ → Schema → σ) (state : σ),
        r.walk (Schema.noting note : Visitor σ ε) state = (visited.foldl note state,.ok ())) ∧
      (∀ k, (visited.map Schema.id).count k = if k ∈ r.ids then 1 else 0) ∧
      (∀ s ∈ visited, r.get? s.id = some s) ∧
      (visited.map fun s => (s.id,s.reference)).Perm r.references.entries ∧
      (visited.filterMap fun s => r.referenceFault? s.id s.reference).Perm r.validate := by
  have registry : (run cs {}).1 = r := by rw [ran]
  have aligned : Aligned r := registry ▸ runAligned cs
  have partitioned : Partitioned r := registry ▸ runPartitioned (by rwa [ran])
  refine ⟨r.visited,?_,?_,?_,visitedReferences aligned partitioned,visitedFaults aligned partitioned⟩
  · intro σ ε note state
    exact Schema.walkAllNoting note r.rootSchemas state
  · intro k
    rw [(visitedIds aligned partitioned).count_eq k,(idsOnce r).count]
  · intro s member
    exact visitedLookup aligned partitioned member

theorem nestedWalk : ∃ r log, run nestedCalls {} = (r,log) ∧
    (∀ c faults, (c,.ok faults) ∈ log → ∀ f ∈ faults, f.kind ≠ .duplicated) ∧
    ∃ visited : List Schema, (visited.map Schema.id).count "user/definitions/late/items" = 1 ∧
      (visited.filterMap fun s => r.referenceFault? s.id s.reference).Perm r.validate := by
  have reports : (run nestedCalls {}).2.map Prod.snd =
      [.ok [.property "user/definitions/late" "$ref" .nil,.property "user/definitions/late" "type" .nil],
        .error .emptyIdentifier,.ok []] := by decide +kernel
  have unique : ∀ c faults, (c,.ok faults) ∈ (run nestedCalls {}).2 → ∀ f ∈ faults,
      f.kind ≠ .duplicated := by
    intro c faults logged f member
    have row : .ok faults ∈ (run nestedCalls {}).2.map Prod.snd := List.mem_map.mpr ⟨_,logged,rfl⟩
    rw [reports] at row
    simp only [List.mem_cons,Except.ok.injEq,reduceCtorEq,List.not_mem_nil,or_false,false_or] at row
    rcases row with rfl | rfl
    · revert f
      decide
    · simp at member
  have stored : "user/definitions/late/items" ∈ (run nestedCalls {}).1.ids := by decide +kernel
  have ran : run nestedCalls {} = ((run nestedCalls {}).1,(run nestedCalls {}).2) := rfl
  obtain ⟨visited,_,once,_,_,faults⟩ := walkVisitsStored ran unique
  exact ⟨_,_,ran,unique,visited,(once _).trans (if_pos stored),faults⟩

end SchemaCheck.Registry
