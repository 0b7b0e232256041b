import SchemaCheck.Proofs.Parts
import SchemaCheck.Proofs.Table
import SchemaCheck.Registry.Nodes

/-! What a registration does to the registry: both tables are overwritten node by node, with a value
that depends on the node and its identifier alone. -/
namespace SchemaCheck

namespace Document

theorem normalizeId (id : String) (d : Document) : (d.normalize id).id = id := by
  cases d; rfl

theorem normalizeReference (id : String) (d : Document) :
    (d.normalize id).reference = d.reference := by
  cases d; rfl

def schemaRows (ns : List Node) : List (String × Schema) := ns.map fun n => (n.1,n.2.normalize n.1)

def referenceRows (ns : List Node) : List (String × String) := ns.map fun n => (n.1,n.2.reference)

theorem schemaRowNames (ns : List Node) : (schemaRows ns).map Prod.fst = ns.map Prod.fst := by
  simp [schemaRows]

theorem referenceRowNames (ns : List Node) : (referenceRows ns).map Prod.fst = ns.map Prod.fst := by
  simp [referenceRows]

end Document

namespace Registry
open Document

theorem storedTables (r : Registry) (ns : List Node) :
    (r.storeNodes ns).schemas = r.schemas.overwrite (schemaRows ns) ∧
    (r.storeNodes ns).references = r.references.overwrite (referenceRows ns) ∧
    (r.storeNodes ns).roots = r.roots := by
  induction ns generalizing r with
  | nil => exact ⟨rfl,rfl,rfl⟩
  | cons n rest ih =>
    obtain ⟨schemas,references,roots⟩ := ih (r.storeNode n)
    refine ⟨schemas.trans ?_,references.trans ?_,roots⟩
    · simp [storeNode,store,normalizeId,schemaRows,Table.overwrite]
    · simp [storeNode,store,normalizeId,normalizeReference,referenceRows,Table.overwrite]

theorem storedContains (r : Registry) (ns : List Node) (k : String) :
    (r.storeNodes ns).contains k = true ↔ r.contains k = true ∨ k ∈ ns.map Prod.fst := by
  rw [contains,(storedTables r ns).1,Table.containsOverwrite,schemaRowNames]
  rfl

theorem addRootTables (r : Registry) (id : String) :
    (r.addRoot id).schemas = r.schemas ∧ (r.addRoot id).references = r.references := by
  unfold addRoot
  split <;> exact ⟨rfl,rfl⟩

theorem addRootRoots (r : Registry) (id : String) :
    (r.addRoot id).roots = if id ∈ r.roots then r.roots else r.roots ++ [id] := by
  unfold addRoot
  split <;> rfl

theorem registeredRoot (id : String) (d : Document) (r : Registry) :
    registerRoot id d r =
      ((r.storeNodes (nodes id d)).addRoot id,d.normalize id,(register id d r).2.2) := by
  have h := registerEqual id d r
  simp only [registerRoot,h.1,h.2]

theorem registrationCall {id : String} (present : id ≠ "") (d : Document) (r : Registry) :
    registration? id (some d) r = .ok ((r.storeNodes (nodes id d)).addRoot id,
      { schema := some (d.normalize id), faults := Fault.found? (register id d r).2.2 }) := by
  have nonempty : id.isEmpty = false := by simpa using present
  simp only [registration?,register?,nonempty,Bool.false_eq_true,if_false,registeredRoot,Except.map]

/-- A registration answers with the normalization of the document, a function of document and identifier
only, and overwrites both tables with the nodes in their order. Of nodes with one identifier the last
is stored, and other identifiers keep what they had. -/
theorem registrationStoresNodes {id : String} (present : id ≠ "") (d : Document) (r : Registry) :
    ∃ r' result, registration? id (some d) r = .ok (r',result) ∧
      result.schema = some (d.normalize id) ∧
      r'.schemas = r.schemas.overwrite ((nodes id d).map fun n => (n.1,n.2.normalize n.1)) ∧
      r'.references = r.references.overwrite ((nodes id d).map fun n => (n.1,n.2.reference)) ∧
      r'.roots = (if id ∈ r.roots then r.roots else r.roots ++ [id]) ∧
      (∀ before n after, nodes id d = before ++ n :: after → n.1 ∉ after.map Prod.fst →
        r'.get? n.1 = some (n.2.normalize n.1) ∧ r'.reference? n.1 = some n.2.reference) ∧
      (∀ k ∉ (nodes id d).map Prod.fst, r'.get? k = r.get? k ∧ r'.reference? k = r.reference? k) := by
  obtain ⟨schemas,references,roots⟩ := storedTables r (nodes id d)
  obtain ⟨rootSchemas,rootReferences⟩ := addRootTables (r.storeNodes (nodes id d)) id
  refine ⟨_,_,registrationCall present d r,rfl,rootSchemas.trans schemas,
    rootReferences.trans references,?_,?_,?_⟩
  · rw [addRootRoots,roots]
  · intro before n after split last
    rw [get?,reference?,rootSchemas,rootReferences,schemas,references,split]
    simp only [schemaRows,referenceRows,List.map_append,List.map_cons]
    refine ⟨Table.overwriteLast ?_,Table.overwriteLast ?_⟩
    · simpa only [schemaRows] using (schemaRowNames after).symm ▸ last
    · simpa only [referenceRows] using (referenceRowNames after).symm ▸ last
  · intro k absent
    rw [get?,reference?,rootSchemas,rootReferences,schemas,references]
    exact ⟨Table.overwriteUntouched ((schemaRowNames _).symm ▸ absent),
      Table.overwriteUntouched ((referenceRowNames _).symm ▸ absent)⟩

def crossing : Document :=
  { definitions := [("x",some { properties := [("y",some (referring "#/first"))] }),
      ("x/properties/y",some (referring "#/second"))] }

theorem crossingKeepsLater : "a" ≠ "" ∧
    propertyId (definitionId "a" "x") "y" = definitionId "a" "x/properties/y" ∧
    ∃ r' result, registration? "a" (some crossing) {} = .ok (r',result) ∧
      r'.reference? (definitionId "a" "x/properties/y") = some "#/second" := by
  have present : "a" ≠ "" := by decide
  obtain ⟨r',result,call,_,_,_,_,last,_⟩ := registrationStoresNodes present crossing {}
  have split : nodes "a" crossing =
      nodesOfEntries (definitionId "a") (crossing.definitions.take 1) ++
        (definitionId "a" "x/properties/y",referring "#/second") :: [("a",crossing)] := rfl
  exact ⟨present,by decide,r',result,call,(last _ _ _ split (by decide)).2⟩

end Registry
end SchemaCheck
