import SchemaCheck.Document.Nodes

/-! A document as a tree of parts. The four sections of a node are read as one list of the documents
directly inside, with their identifiers, in the order in which they are registered; the nodes are then
those of the parts and the node itself. What is inside a node is identified below it. -/
namespace SchemaCheck

def Below (owner id : String) : Prop := ∃ rest, id = owner ++ "/" ++ rest

namespace Below

theorem different {owner id : String} (below : Below owner id) : id ≠ owner := by
  obtain ⟨rest,h⟩ := below
  intro same
  -- An identifier below another one is longer.
  have length := congrArg String.length (h.symm.trans same)
  have slash : "/".length = 1 := by decide
  simp only [String.length_append,slash] at length
  omega

theorem trans {a b c : String} (first : Below a b) (second : Below b c) : Below a c := by
  obtain ⟨s,rfl⟩ := first
  obtain ⟨t,rfl⟩ := second
  exact ⟨s ++ "/" ++ t,by simp [String.append_assoc]⟩

theorem inSection (owner keyword name : String) : Below owner (owner ++ ("/" ++ keyword) ++ name) :=
  ⟨keyword ++ name,by simp only [String.append_assoc]⟩

end Below

inductive Derived (owner : String) : String → Prop where
  | definition (name : String) : Derived owner (definitionId owner name)
  | property (name : String) : Derived owner (propertyId owner name)
  | items : Derived owner (itemsId owner)
  | link (index : Nat) : Derived owner (linkId owner index)

theorem Derived.below {owner id : String} (derived : Derived owner id) : Below owner id := by
  cases derived with
  | definition name => exact Below.inSection owner "definitions/" name
  | property name => exact Below.inSection owner "properties/" name
  | items => exact ⟨"items",by simp [itemsId,String.append_assoc]⟩
  | link index => exact Below.inSection owner "links/" (toString index)

namespace Document

abbrev Node := String × Document

def partOfOptional (id : String) (d : Option Document) : List Node := d.toList.map (id,·)

def partsOfEntries (idOf : String → String) (ds : List (String × Option Document)) : List Node :=
  ds.flatMap fun (name,d) => partOfOptional (idOf name) d

def partsOfLinks (idOf : Nat → String) : Nat → List (Link Document) → List Node
  | _, [] => []
  | index, l :: rest => partOfOptional (idOf index) l.schema ++ partsOfLinks idOf (index + 1) rest

def parts (id : String) (d : Document) : List Node :=
  partsOfEntries (definitionId id) d.definitions ++ partsOfEntries (propertyId id) d.properties ++
  partsOfLinks (linkId id) 0 d.links ++ partOfOptional (itemsId id) d.items

def nodesOfParts (ps : List Node) : List Node := ps.flatMap fun p => nodes p.1 p.2

theorem nodesOfOptionalParts (id : String) (d : Option Document) :
    nodesOfOptional id d = nodesOfParts (partOfOptional id d) := by
  cases d <;> simp [nodesOfOptional,nodesOfParts,partOfOptional]

theorem nodesOfEntriesParts (idOf : String → String) (ds : List (String × Option Document)) :
    nodesOfEntries idOf ds = nodesOfParts (partsOfEntries idOf ds) := by
  induction ds with
  | nil => rfl
  | cons head rest ih =>
    obtain ⟨name,d⟩ := head
    cases d <;> simp_all [nodesOfEntries,nodesOfParts,partsOfEntries,partOfOptional]

theorem nodesOfLinksParts (idOf : Nat → String) (index : Nat) (ls : List (Link Document)) :
    nodesOfLinks idOf index ls = nodesOfParts (partsOfLinks idOf index ls) := by
  induction ls generalizing index with
  | nil => rfl
  | cons l rest ih =>
    simp only [nodesOfLinks,partsOfLinks,ih,nodesOfOptionalParts,nodesOfParts,List.flatMap_append]

theorem nodesEqual (id : String) (d : Document) :
    nodes id d = nodesOfParts (parts id d) ++ [(id,d)] := by
  cases d
  simp only [nodes,parts,nodesOfEntriesParts,nodesOfLinksParts,nodesOfOptionalParts,nodesOfParts,
    List.flatMap_append]

theorem partOfOptionalMember {id : String} {d : Option Document} {p : Node}
    (member : p ∈ partOfOptional id d) : p.1 = id ∧ d = some p.2 := by
  cases d <;> simp_all [partOfOptional]

theorem partsOfEntriesMember {idOf : String → String} {ds : List (String × Option Document)} {p : Node}
    (member : p ∈ partsOfEntries idOf ds) : ∃ name, p.1 = idOf name ∧ (name,some p.2) ∈ ds := by
  obtain ⟨⟨name,d⟩,inside,found⟩ := List.mem_flatMap.mp member
  obtain ⟨same,rfl⟩ := partOfOptionalMember found
  exact ⟨name,same,inside⟩

theorem partsOfLinksMember {idOf : Nat → String} {index : Nat} {ls : List (Link Document)} {p : Node}
    (member : p ∈ partsOfLinks idOf index ls) :
    ∃ n, p.1 = idOf n ∧ ∃ l ∈ ls, l.schema = some p.2 := by
  induction ls generalizing index with
  | nil => simp [partsOfLinks] at member
  | cons l rest ih =>
    rcases List.mem_append.mp member with first | later
    · obtain ⟨same,schema⟩ := partOfOptionalMember first
      exact ⟨index,same,l,by simp,schema⟩
    · obtain ⟨n,same,l',inside,schema⟩ := ih later
      exact ⟨n,same,l',by simp [inside],schema⟩

theorem partDerived {id : String} {d : Document} {p : Node} (member : p ∈ parts id d) :
    Derived id p.1 := by
  simp only [parts,List.mem_append] at member
  rcases member with ((inDefinitions | inProperties) | inLinks) | inItems
  · obtain ⟨name,same,_⟩ := partsOfEntriesMember inDefinitions
    exact same ▸ .definition name
  · obtain ⟨name,same,_⟩ := partsOfEntriesMember inProperties
    exact same ▸ .property name
  · obtain ⟨n,same,_⟩ := partsOfLinksMember inLinks
    exact same ▸ .link n
  · obtain ⟨same,_⟩ := partOfOptionalMember inItems
    exact same ▸ .items

theorem partBelow {id : String} {d : Document} {p : Node} (member : p ∈ parts id d) :
    Below id p.1 := (partDerived member).below

theorem partSmaller {id : String} {d : Document} {p : Node} (member : p ∈ parts id d) :
    sizeOf p.2 < sizeOf d := by
  cases d
  simp only [parts,List.mem_append] at member
  simp only [Document.mk.sizeOf_spec]
  rcases member with ((inDefinitions | inProperties) | inLinks) | inItems
  · obtain ⟨name,_,inside⟩ := partsOfEntriesMember inDefinitions
    have := List.sizeOf_lt_of_mem inside
    simp only [Prod.mk.sizeOf_spec,Option.some.sizeOf_spec] at this
    omega
  · obtain ⟨name,_,inside⟩ := partsOfEntriesMember inProperties
    have := List.sizeOf_lt_of_mem inside
    simp only [Prod.mk.sizeOf_spec,Option.some.sizeOf_spec] at this
    omega
  · obtain ⟨n,_,l,inside,schema⟩ := partsOfLinksMember inLinks
    have := List.sizeOf_lt_of_mem inside
    cases l
    cases schema
    simp only [Link.mk.sizeOf_spec,Option.some.sizeOf_spec] at this
    omega
  · obtain ⟨_,items⟩ := partOfOptionalMember inItems
    cases items
    simp only [Option.some.sizeOf_spec]
    omega

theorem partsInduction {motive : String → Document → Prop}
    (step : ∀ id d, (∀ p ∈ parts id d, motive p.1 p.2) → motive id d)
    (id : String) (d : Document) : motive id d :=
  step id d fun p _ => partsInduction step p.1 p.2
termination_by sizeOf d
decreasing_by exact partSmaller (by assumption)

theorem ownNode (id : String) (d : Document) : (id,d) ∈ nodes id d := by
  rw [nodesEqual]
  simp

theorem nodeCases {id : String} {d : Document} {n : Node} :
    n ∈ nodes id d ↔ (∃ p ∈ parts id d, n ∈ nodes p.1 p.2) ∨ n = (id,d) := by
  rw [nodesEqual]
  simp [nodesOfParts]

theorem nodesClosed {id : String} {d : Document} {n m : Node} (outer : n ∈ nodes id d)
    (inner : m ∈ nodes n.1 n.2) : m ∈ nodes id d := by
  induction id, d using partsInduction with
  | step id d ih =>
    rcases nodeCases.mp outer with ⟨p,part,inside⟩ | rfl
    · exact nodeCases.mpr (Or.inl ⟨p,part,ih p part inside⟩)
    · exact inner

theorem partNode {id : String} {d : Document} {n p : Node} (outer : n ∈ nodes id d)
    (part : p ∈ parts n.1 n.2) : p ∈ nodes id d :=
  nodesClosed outer (nodeCases.mpr (Or.inl ⟨p,part,ownNode p.1 p.2⟩))

theorem nodeOwner {id : String} {d : Document} {n : Node} (member : n ∈ nodes id d) :
    n = (id,d) ∨ ∃ owner ∈ nodes id d, n ∈ parts owner.1 owner.2 := by
  induction id, d using partsInduction with
  | step id d ih =>
    rcases nodeCases.mp member with ⟨p,part,inside⟩ | itself
    · refine Or.inr ?_
      rcases ih p part inside with rfl | ⟨owner,found,own⟩
      · exact ⟨(id,d),ownNode id d,part⟩
      · exact ⟨owner,nodesClosed (partNode (ownNode id d) part) found,own⟩
    · exact Or.inl itself

theorem nodeWithin {id : String} {d : Document} {n : Node} (member : n ∈ nodes id d) :
    n.1 = id ∨ Below id n.1 := by
  induction id, d using partsInduction with
  | step id d ih =>
    rcases nodeCases.mp member with ⟨p,part,found⟩ | rfl
    · rcases ih p part found with same | below
      · exact Or.inr (same ▸ partBelow part)
      · exact Or.inr ((partBelow part).trans below)
    · exact Or.inl rfl

theorem ownIdFresh (id : String) (d : Document) : id ∉ (nodesOfParts (parts id d)).map Prod.fst := by
  intro taken
  obtain ⟨n,member,same⟩ := List.mem_map.mp taken
  obtain ⟨p,part,found⟩ := List.mem_flatMap.mp member
  rcases nodeWithin found with own | below
  · exact (partBelow part).different (own ▸ same)
  · exact ((partBelow part).trans below).different same

end Document
end SchemaCheck
