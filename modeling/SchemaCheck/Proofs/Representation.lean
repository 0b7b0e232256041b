import SchemaCheck.Proofs.Calls
import SchemaCheck.Proofs.Preorder

/-! What holds of every registry that calls lead to, with duplicates and faults or without: the two tables
agree, everything inside a stored schema is identified by its place and stored under that identifier,
and every identifier is a root or derived from a stored one. A schema inside another may have been
replaced in the table since; its identifier stays. -/
namespace SchemaCheck.Registry
open Document

theorem idsContains {r : Registry} {k : String} : k ∈ r.ids ↔ r.contains k = true := Table.namesMember

theorem idsStored {r : Registry} {k : String} : k ∈ r.ids ↔ ∃ s, r.get? k = some s :=
  idsContains.trans Option.isSome_iff_exists

structure Aligned (r : Registry) : Prop where
  keys : r.references.names = r.ids
  own : ∀ k s, r.get? k = some s → s.id = k ∧ r.reference? k = some s.reference

theorem emptyAligned : Aligned {} := ⟨rfl,fun k s found => by simp [get?] at found⟩

theorem storeAligned {r : Registry} (aligned : Aligned r) (s : Schema) : Aligned (r.store s) := by
  constructor
  · apply Table.namesEqual
    intro k
    have before : r.references.contains k = true ↔ r.schemas.contains k = true := by
      rw [← Table.namesMember,aligned.keys]
      exact idsContains
    simp only [store,Table.containsInsert,Bool.or_eq_true,before]
  · intro k t found
    rw [get?,store,Table.getInsert] at found
    rw [reference?,store,Table.getInsert]
    split at found
    · rename_i same
      cases found
      exact ⟨same.symm,if_pos same⟩
    · rename_i other
      rw [if_neg other]
      exact aligned.own k t found

theorem nodesAligned {r : Registry} (aligned : Aligned r) (ns : List Node) :
    Aligned (r.storeNodes ns) := by
  induction ns generalizing r with
  | nil => exact aligned
  | cons n rest ih => exact ih (storeAligned aligned _)

theorem rootAligned {r : Registry} (aligned : Aligned r) (id : String) : Aligned (r.addRoot id) := by
  unfold addRoot
  split
  · exact aligned
  · exact ⟨aligned.keys,aligned.own⟩

theorem documentAligned {r : Registry} (aligned : Aligned r) (id : String) (d : Document) :
    Aligned (storeDocument id d r) := rootAligned (nodesAligned aligned _) id

theorem runAligned (cs : List Call) : Aligned (run cs {}).1 :=
  runInduction cs {} emptyAligned fun _ id d _ _ _ _ _ aligned => documentAligned aligned id d

structure Represented (r : Registry) : Prop extends Aligned r where
  named : ∀ k ∈ r.ids, k ≠ ""
  rootsOnce : r.roots.Nodup
  rootsStored : ∀ k ∈ r.roots, k ∈ r.ids
  held : ∀ k s, r.get? k = some s → ∀ t ∈ s.preorder, ∀ i c, t.Holds i c → c.id = i ∧ i ∈ r.ids
  reached : ∀ k ∈ r.ids, k ∈ r.roots ∨ ∃ owner ∈ r.ids, Derived owner k

theorem emptyRepresented : Represented {} where
  toAligned := emptyAligned
  named := by simp [ids,Table.names,Table.empty,Entries.names]
  rootsOnce := List.nodup_nil
  rootsStored := by simp
  held := by simp [get?]
  reached := by simp [ids,Table.names,Table.empty,Entries.names]

theorem documentIds {id k : String} {d : Document} {r : Registry} :
    k ∈ (storeDocument id d r).ids ↔ k ∈ r.ids ∨ ∃ n ∈ nodes id d, n.1 = k := by
  rw [idsContains,documentContains,idsContains,nodeIds,List.mem_map]

theorem documentRootMember {id k : String} {d : Document} {r : Registry} :
    k ∈ (storeDocument id d r).roots ↔ k ∈ r.roots ∨ k = id := by
  rw [documentRoots]
  split <;> simp_all

theorem nodeNamed {id : String} {d : Document} {n : Node} (present : id ≠ "") (member : n ∈ nodes id d) :
    n.1 ≠ "" := by
  rcases nodeWithin member with same | ⟨rest,below⟩
  · exact same ▸ present
  · intro empty
    have length := congrArg String.length (below.symm.trans empty)
    simp [String.length_append] at length

theorem nodeHolds {id i : String} {d : Document} {n : Node} {t c : Schema} (member : n ∈ nodes id d)
    (inside : t ∈ (n.2.normalize n.1).preorder) (holds : t.Holds i c) :
    c.id = i ∧ ∃ m ∈ nodes id d, m.1 = i := by
  obtain ⟨owner,found,rfl⟩ := preorderMember inside
  obtain ⟨e,part,rfl⟩ := normalizeHolds holds
  exact ⟨normalizeId i e,(i,e),partNode (nodesClosed member found) part,rfl⟩

theorem documentRepresented {r : Registry} (represented : Represented r) {id : String}
    (present : id ≠ "") (d : Document) : Represented (storeDocument id d r) where
  toAligned := documentAligned represented.toAligned id d
  named k member := by
    rcases documentIds.mp member with before | ⟨n,stored,rfl⟩
    · exact represented.named k before
    · exact nodeNamed present stored
  rootsOnce := by
    rw [documentRoots]
    split
    · exact represented.rootsOnce
    · rename_i fresh
      simpa [List.nodup_append] using ⟨represented.rootsOnce,fun k member same => fresh (same ▸ member)⟩
  rootsStored k member := by
    rcases documentRootMember.mp member with before | rfl
    · exact documentIds.mpr (Or.inl (represented.rootsStored k before))
    · exact documentIds.mpr (Or.inr ⟨_,ownNode k d,rfl⟩)
  held k s found t inside i c holds := by
    rcases documentLookup found with ⟨n,stored,_,rfl⟩ | before
    · obtain ⟨named,node⟩ := nodeHolds stored inside holds
      exact ⟨named,documentIds.mpr (Or.inr node)⟩
    · obtain ⟨named,kept⟩ := represented.held k s before t inside i c holds
      exact ⟨named,documentIds.mpr (Or.inl kept)⟩
  reached k member := by
    rcases documentIds.mp member with before | ⟨n,stored,rfl⟩
    · rcases represented.reached k before with root | ⟨owner,kept,derived⟩
      · exact Or.inl (documentRootMember.mpr (Or.inl root))
      · exact Or.inr ⟨owner,documentIds.mpr (Or.inl kept),derived⟩
    · rcases nodeOwner stored with rfl | ⟨owner,outer,part⟩
      · exact Or.inl (documentRootMember.mpr (Or.inr rfl))
      · exact Or.inr ⟨owner.1,documentIds.mpr (Or.inr ⟨owner,outer,rfl⟩),partDerived part⟩

theorem runRepresented (cs : List Call) : Represented (run cs {}).1 :=
  runInduction cs {} emptyRepresented fun _ _ d _ _ _ present _ represented =>
    documentRepresented represented present d

end SchemaCheck.Registry
