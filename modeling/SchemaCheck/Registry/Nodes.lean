import SchemaCheck.Document.Nodes
import SchemaCheck.Registry
/-! What a registration leaves: every node of the document stored in normalized form, in the order of
`Document.nodes`, whatever was stored before. -/
namespace SchemaCheck.Registry
open Document

def storeNode (r : Registry) (n : String × Document) : Registry := r.store (n.2.normalize n.1)

def storeNodes (r : Registry) (ns : List (String × Document)) : Registry := ns.foldl storeNode r

theorem storeNodesAppend (r : Registry) (ms ns : List (String × Document)) :
    r.storeNodes (ms ++ ns) = (r.storeNodes ms).storeNodes ns := List.foldl_append ..

mutual

theorem registerEqual (id : String) : ∀ (d : Document) (r : Registry),
    (register id d r).1 = r.storeNodes (nodes id d) ∧ (register id d r).2.1 = d.normalize id
  | { definitions, properties, items, links, .. }, r => by
    have h₁ := registerEntriesEqual (definitionId id) definitions r
    have h₂ := registerEntriesEqual (propertyId id) properties
      (registerEntries (definitionId id) definitions r).1
    have h₃ := registerLinksEqual (linkId id) 0 links
      (registerEntries (propertyId id) properties
        (registerEntries (definitionId id) definitions r).1).1
    have h₄ := registerOptionalEqual (itemsId id) items
      (registerLinks (linkId id) 0 links (registerEntries (propertyId id) properties
        (registerEntries (definitionId id) definitions r).1).1).1
    rw [h₁.1] at h₂ h₃ h₄
    rw [h₂.1] at h₃ h₄
    rw [h₃.1] at h₄
    simp only [register, nodes, storeNodesAppend, Document.normalize, h₁.1, h₁.2, h₂.1, h₂.2, h₃.1,
      h₃.2, h₄.1, h₄.2, and_true]
    simp only [storeNodes, List.foldl_cons, List.foldl_nil, storeNode, Document.normalize]

theorem registerOptionalEqual (id : String) : ∀ (d : Option Document) (r : Registry),
    (registerOptional id d r).1 = r.storeNodes (nodesOfOptional id d) ∧
      (registerOptional id d r).2.1 = normalizeOptional id d
  | none, r => ⟨rfl, rfl⟩
  | some d, r => by
    have h := registerEqual id d r
    exact ⟨h.1, congrArg some h.2⟩

theorem registerEntriesEqual (idOf : String → String) :
    ∀ (ds : List (String × Option Document)) (r : Registry),
      (registerEntries idOf ds r).1 = r.storeNodes (nodesOfEntries idOf ds) ∧
        (registerEntries idOf ds r).2.1 = normalizeEntries idOf ds
  | [], r => ⟨rfl, rfl⟩
  | (_, none) :: rest, r => registerEntriesEqual idOf rest r
  | (name, some d) :: rest, r => by
    have h := registerEqual (idOf name) d r
    have k := registerEntriesEqual idOf rest (register (idOf name) d r).1
    rw [h.1] at k
    simp only [registerEntries, nodesOfEntries, storeNodesAppend, normalizeEntries, h.1, h.2, k.1,
      k.2, and_self]

theorem registerLinksEqual (idOf : Nat → String) (index : Nat) :
    ∀ (ls : List (Link Document)) (r : Registry),
      (registerLinks idOf index ls r).1 = r.storeNodes (nodesOfLinks idOf index ls) ∧
        (registerLinks idOf index ls r).2.1 = normalizeLinks idOf index ls
  | [], r => ⟨rfl, rfl⟩
  | { schema, .. } :: rest, r => by
    have h := registerOptionalEqual (idOf index) schema r
    have k := registerLinksEqual idOf (index + 1) rest (registerOptional (idOf index) schema r).1
    rw [h.1] at k
    simp only [registerLinks, nodesOfLinks, storeNodesAppend, normalizeLinks, h.1, h.2, k.1, k.2,
      and_self]

end
end SchemaCheck.Registry
