import Mathlib.Data.List.Pairwise
import SchemaCheck.Proofs.Collisions
import SchemaCheck.Proofs.Preorder

/-! Identifiers as places in a tree. Where no name has a slash and nothing was stored twice, a stored schema
holds exactly what is stored at its identifier or at one that continues it after a slash. -/
namespace SchemaCheck

theorem AtOrBelow.trans {a b c : String} (first : AtOrBelow a b) (second : AtOrBelow b c) :
    AtOrBelow a c := by
  rcases first with rfl | first
  · exact second
  · rcases second with rfl | second
    · exact Or.inr first
    · exact Or.inr (first.trans second)

namespace Document

theorem ownerNotInside {id : String} {d : Document} {p n : Node} (part : p ∈ parts id d)
    (inside : n ∈ nodes p.1 p.2) : ¬ AtOrBelow n.1 id := by
  intro above
  have below : Below id p.1 := partBelow part
  rcases AtOrBelow.trans (nodeWithin inside) above with same | back
  · exact below.different same.symm
  · exact (below.trans back).different rfl

theorem partUnique {id k : String} {d : Document} (plain : d.PlainNames) {p q : Node}
    (first : p ∈ parts id d) (second : q ∈ parts id d) (inP : AtOrBelow p.1 k) (inQ : AtOrBelow q.1 k) :
    p = q := by
  have symmetric : Std.Symm fun p q : Node => ∀ k, AtOrBelow p.1 k → ¬ AtOrBelow q.1 k :=
    ⟨fun _ _ apart k inQ inP => apart k inP inQ⟩
  by_contra different
  exact (partsApart plain id).forall first second different k inP inQ

theorem innerNode {id : String} {d : Document} {n m : Node} (plain : ∀ n ∈ nodes id d, n.2.PlainNames)
    (outer : n ∈ nodes id d) (inner : m ∈ nodes id d) (inside : AtOrBelow n.1 m.1) : m ∈ nodes n.1 n.2 := by
  induction id, d using partsInduction with
  | step id d ih =>
    rcases nodeCases.mp outer with ⟨p,part,found⟩ | rfl
    · rcases nodeCases.mp inner with ⟨q,other,beside⟩ | rfl
      · have inP : AtOrBelow p.1 m.1 := AtOrBelow.trans (nodeWithin found) inside
        obtain rfl := partUnique (plain _ (ownNode id d)) part other inP (nodeWithin beside)
        exact ih p part (fun n member => plain n (nodesClosed (partNode (ownNode id d) part) member)) found
          beside
      · exact absurd inside (ownerNotInside part found)
    · exact inner

end Document

namespace Registry
open Document

theorem admittedNode {ds : List Document} {n : Node} :
    n ∈ admittedNodes ds ↔ ∃ d ∈ ds, rejection? d = none ∧ n ∈ d.ownNodes := by
  simp only [admittedNodes,List.mem_flatMap,List.mem_filter,Option.isNone_iff_eq_none,and_assoc]
  rfl

theorem admittedLookup {ds : List Document} (distinct : (nodeIds (admittedNodes ds)).Nodup) {n : Node}
    (member : n ∈ admittedNodes ds) : (addDocuments ds {}).1.get? n.1 = some (n.2.normalize n.1) := by
  rw [get?,(runTables ds {}).1,(storedTables _ _).1]
  refine (Table.overwriteDistinct ((schemaRowNames _).symm ▸ distinct)).mpr (Or.inl ?_)
  exact List.mem_map.mpr ⟨n,member,rfl⟩

theorem documentUnique {ds : List Document} (distinct : (nodeIds (admittedNodes ds)).Nodup)
    {d e : Document} {k : String} (first : d ∈ ds) (second : e ∈ ds) (goodD : rejection? d = none)
    (goodE : rejection? e = none) (inD : AtOrBelow (lastSegment d.id) k) (inE : AtOrBelow (lastSegment e.id) k) :
    d = e := by
  have same : lastSegment d.id = lastSegment e.id :=
    topUnique (lastSegmentFlat d.id) (lastSegmentFlat e.id) inD inE
  have ids : nodeIds (admittedNodes ds) =
      (ds.filter fun d => (rejection? d).isNone).flatMap fun d => nodeIds d.ownNodes := List.map_flatMap ..
  rw [ids,List.nodup_flatMap] at distinct
  have symmetric : Std.Symm (Function.onFun List.Disjoint fun d : Document => nodeIds d.ownNodes) :=
    ⟨fun _ _ disjoint _ inE inD => disjoint inD inE⟩
  have kept : ∀ {d : Document}, d ∈ ds → rejection? d = none →
      d ∈ ds.filter fun d => (rejection? d).isNone :=
    fun member good => List.mem_filter.mpr ⟨member,by simp [good]⟩
  by_contra different
  exact distinct.2.forall (kept first goodD) (kept second goodE) different (segmentNode d)
    (same ▸ segmentNode e)

theorem insideExact {ds : List Document} (plain : ∀ d ∈ ds, ∀ n ∈ d.ownNodes, n.2.PlainNames)
    (distinct : (nodeIds (admittedNodes ds)).Nodup) {d : Document} {n m : Node} (member : d ∈ ds)
    (admitted : rejection? d = none) (outer : n ∈ d.ownNodes) :
    m ∈ nodes n.1 n.2 ↔ m ∈ admittedNodes ds ∧ AtOrBelow n.1 m.1 := by
  rw [admittedNode]
  constructor
  · intro inner
    exact ⟨⟨d,member,admitted,nodesClosed outer inner⟩,nodeWithin inner⟩
  · rintro ⟨⟨e,listed,good,inner⟩,inside⟩
    have top : AtOrBelow (lastSegment d.id) m.1 := AtOrBelow.trans (nodeWithin outer) inside
    obtain rfl := documentUnique distinct member listed admitted good top (nodeWithin inner)
    exact innerNode (plain d member) outer inner inside

/-- Where no name has a slash and no duplicate is reported, a walk from a stored schema that never turns back
visits the identifiers that are its own or continue it after a slash, each once, and no others; and each
schema it visits is the one that is stored. -/
theorem subtreesByIdentifier {ds : List Document} (plain : ∀ d ∈ ds, ∀ n ∈ d.ownNodes, n.2.PlainNames)
    (unique : ∀ faults ∈ (addDocuments ds {}).2, ∀ k, .duplicated k ∉ faults) {k : String}
    (stored : k ∈ (addDocuments ds {}).1.ids) :
    ∃ s, (addDocuments ds {}).1.get? k = some s ∧ ∃ visited : List Schema,
      (∀ (σ ε : Type) (note : σ → Schema → σ) (state : σ),
        s.walk (Schema.noting note : Visitor σ ε) state = (visited.foldl note state,.ok ())) ∧
      (visited.map Schema.id).Nodup ∧
      (∀ i, i ∈ visited.map Schema.id ↔
        i ∈ (addDocuments ds {}).1.ids ∧ (i = k ∨ ∃ rest, i = k ++ "/" ++ rest)) ∧
      ∀ t ∈ visited, (addDocuments ds {}).1.get? t.id = some t := by
  have none : ∀ k, .duplicated k ∉ (addDocuments ds {}).2.flatten := by
    intro k member
    obtain ⟨faults,report,inside⟩ := List.mem_flatten.mp member
    exact unique faults report k inside
  have distinct : (nodeIds (admittedNodes ds)).Nodup := (runDistinct ds).mp (noDuplicateReport.mp none)
  have known : ∀ i, i ∈ (addDocuments ds {}).1.ids ↔ i ∈ nodeIds (admittedNodes ds) :=
    fun i => Table.namesMember.trans (runContains ds i)
  obtain ⟨n,node,rfl⟩ := List.mem_map.mp ((known k).mp stored)
  obtain ⟨d,member,admitted,outer⟩ := admittedNode.mp node
  have inside := fun m => insideExact plain distinct (m := m) member admitted outer
  have tree := preorderNormalize n.1 n.2
  have ids : (nodeIds (nodes n.1 n.2)).Perm ((n.2.normalize n.1).preorder.map Schema.id) := by
    have named := tree.map Schema.id
    rw [List.map_map] at named
    have same : Schema.id ∘ normalized = Prod.fst := funext fun m => normalizeId m.1 m.2
    rwa [same] at named
  refine ⟨_,admittedLookup distinct node,(n.2.normalize n.1).preorder,?_,?_,?_,?_⟩
  · intro σ ε note state
    exact Schema.walkNoting note _ state
  · exact ids.nodup_iff.mp (nodesDistinct fun m inner => plain d member m (nodesClosed outer inner))
  · intro i
    rw [← ids.mem_iff,known]
    constructor
    · intro found
      obtain ⟨m,inner,rfl⟩ := List.mem_map.mp found
      obtain ⟨listed,below⟩ := (inside m).mp inner
      exact ⟨List.mem_map.mpr ⟨m,listed,rfl⟩,below⟩
    · rintro ⟨listed,below⟩
      obtain ⟨m,node,rfl⟩ := List.mem_map.mp listed
      exact List.mem_map.mpr ⟨m,(inside m).mpr ⟨node,below⟩,rfl⟩
  · intro t visited
    obtain ⟨m,inner,rfl⟩ := preorderMember visited
    rw [normalized,normalizeId]
    exact admittedLookup distinct ((inside m).mp inner).1

theorem keywordSubtree :
    (∀ d ∈ [keywordDocument "v1/user",keywordDocument "group"], ∀ n ∈ d.ownNodes, n.2.PlainNames) ∧
    (∀ faults ∈ (addDocuments [keywordDocument "v1/user",keywordDocument "group"] {}).2,
      ∀ k, .duplicated k ∉ faults) ∧
    "user/definitions/items" ∈ (addDocuments [keywordDocument "v1/user",keywordDocument "group"] {}).1.ids ∧
    ∃ s, (addDocuments [keywordDocument "v1/user",keywordDocument "group"] {}).1.get?
        "user/definitions/items" = some s ∧
      ∃ visited : List Schema, "user/definitions/items/items" ∈ visited.map Schema.id ∧
        "user/items" ∉ visited.map Schema.id := by
  have plain : ∀ d ∈ [keywordDocument "v1/user",keywordDocument "group"], ∀ n ∈ d.ownNodes,
      n.2.PlainNames := by decide +kernel
  have none := (runDistinct [keywordDocument "v1/user",keywordDocument "group"]).mpr (by decide +kernel)
  have unique : ∀ faults ∈ (addDocuments [keywordDocument "v1/user",keywordDocument "group"] {}).2,
      ∀ k, .duplicated k ∉ faults := fun faults report k inside =>
    noDuplicateReport.mpr none k (List.mem_flatten.mpr ⟨faults,report,inside⟩)
  have stored : "user/definitions/items" ∈
      (addDocuments [keywordDocument "v1/user",keywordDocument "group"] {}).1.ids := by decide +kernel
  have inner : "user/definitions/items/items" ∈
      (addDocuments [keywordDocument "v1/user",keywordDocument "group"] {}).1.ids := by decide +kernel
  obtain ⟨s,found,visited,_,_,below,_⟩ := subtreesByIdentifier plain unique stored
  refine ⟨plain,unique,stored,s,found,visited,(below _).mpr ⟨inner,Or.inr ⟨"items",by decide⟩⟩,?_⟩
  intro visits
  rcases ((below _).mp visits).2 with same | ⟨rest,same⟩
  · revert same
    decide
  · have longer := congrArg String.length same
    have short : "user/items".length < ("user/definitions/items" ++ "/").length := by decide
    rw [String.length_append] at longer
    omega

end Registry
end SchemaCheck
