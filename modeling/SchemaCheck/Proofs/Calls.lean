import SchemaCheck.Proofs.Accounting

/-! Calls on a registry, in any number and order. A call either leaves the registry as it is or stores
the nodes of one document and remembers its identifier as a root, so what these two keep holds of every
registry that calls lead to. -/
namespace SchemaCheck
open Document (Node nodes nodeIds schemaRows referenceRows schemaRowNames referenceRowNames)

theorem Fault.foundDefault (fs : List Fault) : (found? fs).getD [] = fs := by
  cases fs <;> rfl

theorem lastSegmentEmpty {id : String} :
    lastSegment id = "" ↔ id = "" ∨ id.endsWith "/" = true := by
  have slash : id.endsWith "/" = true ↔ ['/'] <:+ id.toList := by
    rw [String.endsWith_eq_endsWith_toSlice,String.Slice.endsWith_string_iff,String.copy_toSlice]
    rfl
  have empty : id = "" ↔ id.toList.reverse = [] := by
    rw [List.reverse_eq_nil_iff,← String.toList_inj]
    rfl
  have last : ['/'] <:+ id.toList ↔ ['/'] <+: id.toList.reverse := by
    rw [← List.reverse_prefix]
    rfl
  rw [slash,empty,last,lastSegment,← String.toList_inj,String.toList_ofList,String.toList_empty,
    List.reverse_eq_nil_iff]
  -- Read backwards, the segment ends at the first slash.
  cases id.toList.reverse with
  | nil => simp
  | cons c rest =>
    have first : ['/'] <+: c :: rest ↔ c = '/' := by simp [eq_comm]
    by_cases slash : c = '/' <;> simp [slash,first]

inductive Call where
  | register (id : String) (d : Option Document)
  | add (d : Document)

def Call.registered? : Call → Option Node
  | register id d => if id = "" then none else d.map (id,·)
  | add d => if (Registry.rejection? d).isNone then some (lastSegment d.id,d) else none

abbrev Log := List (Call × Except Misuse (List Fault))

namespace Registry

def storeDocument (id : String) (d : Document) (r : Registry) : Registry :=
  (r.storeNodes (nodes id d)).addRoot id

theorem documentTables (id : String) (d : Document) (r : Registry) :
    (storeDocument id d r).schemas = r.schemas.overwrite (schemaRows (nodes id d)) ∧
    (storeDocument id d r).references = r.references.overwrite (referenceRows (nodes id d)) := by
  obtain ⟨schemas,references,_⟩ := storedTables r (nodes id d)
  obtain ⟨rootSchemas,rootReferences⟩ := addRootTables (r.storeNodes (nodes id d)) id
  exact ⟨rootSchemas.trans schemas,rootReferences.trans references⟩

theorem documentLast {id : String} {d : Document} {r : Registry} {before after : List Node} {n : Node}
    (split : nodes id d = before ++ n :: after) (last : n.1 ∉ after.map Prod.fst) :
    (storeDocument id d r).get? n.1 = some (n.2.normalize n.1) := by
  rw [get?,(documentTables id d r).1,split,schemaRows,List.map_append,List.map_cons]
  exact Table.overwriteLast ((schemaRowNames after).symm ▸ last)

theorem documentUntouched {id k : String} {d : Document} {r : Registry} (apart : k ∉ nodeIds (nodes id d)) :
    (storeDocument id d r).get? k = r.get? k ∧ (storeDocument id d r).reference? k = r.reference? k := by
  rw [get?,reference?,(documentTables id d r).1,(documentTables id d r).2]
  exact ⟨Table.overwriteUntouched ((schemaRowNames _).symm ▸ apart),
    Table.overwriteUntouched ((referenceRowNames _).symm ▸ apart)⟩

theorem documentRoots (id : String) (d : Document) (r : Registry) :
    (storeDocument id d r).roots = if id ∈ r.roots then r.roots else r.roots ++ [id] := by
  rw [storeDocument,addRootRoots,(storedTables r _).2.2]

theorem documentContains (id : String) (d : Document) (r : Registry) (k : String) :
    (storeDocument id d r).contains k = true ↔ r.contains k = true ∨ k ∈ nodeIds (nodes id d) := by
  rw [contains,(documentTables id d r).1,Table.containsOverwrite,schemaRowNames]
  rfl

theorem documentLookup {id k : String} {d : Document} {r : Registry} {s : Schema}
    (found : (storeDocument id d r).get? k = some s) :
    (∃ n ∈ nodes id d, n.1 = k ∧ s = n.2.normalize n.1) ∨ r.get? k = some s := by
  rw [get?,(documentTables id d r).1] at found
  refine (Table.overwriteOrigin found).imp_left ?_
  intro row
  obtain ⟨n,member,same⟩ := List.mem_map.mp row
  cases same
  exact ⟨n,member,rfl,rfl⟩

theorem addRejected {d : Document} {f : Fault} (rejected : rejection? d = some f) (r : Registry) :
    addDocument d r = (r,[f]) := by
  simp only [addDocument,rejected]

theorem addAdmitted {d : Document} (admitted : rejection? d = none) (r : Registry) :
    addDocument d r = (storeDocument (lastSegment d.id) d r,faultsOf (lastSegment d.id) d r) := by
  simp only [addDocument,admitted,registeredRoot,faultsOf,storeDocument]

theorem admittedSegment {d : Document} (admitted : rejection? d = none) : lastSegment d.id ≠ "" := by
  unfold rejection? at admitted
  repeat' split at admitted
  all_goals try contradiction
  simp_all [lastSegmentEmpty]

def perform : Call → Registry → Registry × Except Misuse (List Fault)
  | .register id d, r => match registration? id d r with
    | .ok (r,answer) => (r,.ok (answer.faults.getD []))
    | .error misuse => (r,.error misuse)
  | .add d, r =>
    let (r,faults) := addDocument d r
    (r,.ok faults)

def run : List Call → Registry → Registry × Log
  | [], r => (r,[])
  | c :: rest, r =>
    let (r,report) := perform c r
    let (r,later) := run rest r
    (r,(c,report) :: later)

theorem performNothing {c : Call} (nothing : c.registered? = none) (r : Registry) :
    (perform c r).1 = r := by
  cases c with
  | register id d =>
    cases d with
    | none => rfl
    | some d =>
      have empty : id = "" := by simpa [Call.registered?] using nothing
      subst empty
      rfl
  | add d =>
    cases rejected : rejection? d with
    | none => simp [Call.registered?,rejected] at nothing
    | some f => simp only [perform,addRejected rejected]

theorem performDocument {c : Call} {id : String} {d : Document}
    (given : c.registered? = some (id,d)) (r : Registry) :
    id ≠ "" ∧ perform c r = (storeDocument id d r,.ok (faultsOf id d r)) := by
  cases c with
  | register name source =>
    obtain ⟨present,same⟩ : name ≠ "" ∧ source.map (name,·) = some (id,d) := by
      simpa [Call.registered?] using given
    obtain ⟨_,rfl,⟨⟩⟩ := Option.map_eq_some_iff.mp same
    refine ⟨present,?_⟩
    simp only [perform,registrationCall present,Fault.foundDefault,faultsOf,storeDocument]
  | add source =>
    obtain ⟨admitted,same⟩ : rejection? source = none ∧ (lastSegment source.id,source) = (id,d) := by
      simpa [Call.registered?] using given
    cases same
    refine ⟨admittedSegment admitted,?_⟩
    simp only [perform,addAdmitted admitted]

theorem runInduction {motive : Registry → Prop} (cs : List Call) (r : Registry) (start : motive r)
    (stored : ∀ c id d before, c ∈ cs → c.registered? = some (id,d) → id ≠ "" →
      (c,.ok (faultsOf id d before)) ∈ (run cs r).2 → motive before →
      motive (storeDocument id d before)) : motive (run cs r).1 := by
  induction cs generalizing r with
  | nil => exact start
  | cons c rest ih =>
    have here : motive (perform c r).1 := by
      cases given : c.registered? with
      | none => rw [performNothing given]; exact start
      | some n =>
        obtain ⟨present,performed⟩ := performDocument given r
        rw [performed]
        refine stored c n.1 n.2 r (by simp) given present ?_ start
        simp [run,performed]
    refine ih (perform c r).1 here ?_
    intro c' id d before member given present logged
    exact stored c' id d before (by simp [member]) given present (by simp [run,logged])

end Registry
end SchemaCheck
