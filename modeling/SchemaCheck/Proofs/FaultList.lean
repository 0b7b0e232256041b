import SchemaCheck.Proofs.NodeRules
import SchemaCheck.Proofs.Storing

/-! The faults of a registration as a list that needs no registry but the one before the call. A node is
a duplicate exactly if its identifier was stored then, or belongs to a node stored ahead of it. -/
namespace SchemaCheck

namespace Document

def nodeIds (ns : List Node) : List String := ns.map Prod.fst

mutual

/- `ahead` has the identifiers of the nodes that precede all of this document's in the order of storing,
in which a node comes after those inside it. -/
def faultList (stored : String → Bool) (ahead : List String) (id : String) : Document → List Fault
  | d@{ definitions, properties, items, links, .. } =>
    let ahead₁ := ahead ++ nodeIds (nodesOfEntries (definitionId id) definitions)
    let ahead₂ := ahead₁ ++ nodeIds (nodesOfEntries (propertyId id) properties)
    let ahead₃ := ahead₂ ++ nodeIds (nodesOfLinks (linkId id) 0 links)
    let ahead₄ := ahead₃ ++ nodeIds (nodesOfOptional (itemsId id) items)
    (if stored id ∨ id ∈ ahead₄ then [.duplicated id] else []) ++
    faultListOfEntries stored ahead (definitionId id) definitions ++
    faultListOfEntries stored ahead₁ (propertyId id) properties ++
    faultListOfLinks stored ahead₂ (linkId id) 0 links ++
    faultListOfOptional stored ahead₃ (itemsId id) items ++
    ownFaults id d

def faultListOfOptional (stored : String → Bool) (ahead : List String) (id : String) :
    Option Document → List Fault
  | none => []
  | some d => faultList stored ahead id d

def faultListOfEntries (stored : String → Bool) (ahead : List String) (idOf : String → String) :
    List (String × Option Document) → List Fault
  | [] => []
  | (_, none) :: rest => faultListOfEntries stored ahead idOf rest
  | (name, some d) :: rest =>
    faultList stored ahead (idOf name) d ++
    faultListOfEntries stored (ahead ++ nodeIds (nodes (idOf name) d)) idOf rest

def faultListOfLinks (stored : String → Bool) (ahead : List String) (idOf : Nat → String)
    (index : Nat) : List (Link Document) → List Fault
  | [] => []
  | { schema, .. } :: rest =>
    faultListOfOptional stored ahead (idOf index) schema ++
    faultListOfLinks stored (ahead ++ nodeIds (nodesOfOptional (idOf index) schema)) idOf (index + 1) rest

end

def faultListOfParts (stored : String → Bool) : List String → List Node → List Fault
  | _, [] => []
  | ahead, p :: rest =>
    faultList stored ahead p.1 p.2 ++ faultListOfParts stored (ahead ++ nodeIds (nodes p.1 p.2)) rest

theorem nodeIdsAppend (ms ns : List Node) : nodeIds (ms ++ ns) = nodeIds ms ++ nodeIds ns :=
  List.map_append

theorem ownId (id : String) (d : Document) : id ∈ nodeIds (nodes id d) :=
  List.mem_map.mpr ⟨_,ownNode id d,rfl⟩

theorem faultListOfPartsAppend (stored : String → Bool) (ahead : List String) (ps qs : List Node) :
    faultListOfParts stored ahead (ps ++ qs) =
      faultListOfParts stored ahead ps ++
      faultListOfParts stored (ahead ++ nodeIds (nodesOfParts ps)) qs := by
  induction ps generalizing ahead with
  | nil => simp [faultListOfParts,nodesOfParts,nodeIds]
  | cons p rest ih =>
    simp only [List.cons_append,faultListOfParts,ih,nodesOfParts,List.flatMap_cons,nodeIdsAppend,
      List.append_assoc]

theorem faultListOfOptionalParts (stored : String → Bool) (ahead : List String) (id : String)
    (d : Option Document) :
    faultListOfOptional stored ahead id d = faultListOfParts stored ahead (partOfOptional id d) := by
  cases d <;> simp [faultListOfOptional,faultListOfParts,partOfOptional]

theorem faultListOfEntriesParts (stored : String → Bool) (ahead : List String)
    (idOf : String → String) (ds : List (String × Option Document)) :
    faultListOfEntries stored ahead idOf ds =
      faultListOfParts stored ahead (partsOfEntries idOf ds) := by
  induction ds generalizing ahead with
  | nil => rfl
  | cons head rest ih =>
    obtain ⟨name,d⟩ := head
    cases d with
    | none => exact ih ahead
    | some d => exact congrArg _ (ih _)

theorem faultListOfLinksParts (stored : String → Bool) (ahead : List String) (idOf : Nat → String)
    (index : Nat) (ls : List (Link Document)) :
    faultListOfLinks stored ahead idOf index ls =
      faultListOfParts stored ahead (partsOfLinks idOf index ls) := by
  induction ls generalizing ahead index with
  | nil => rfl
  | cons l rest ih =>
    simp only [faultListOfLinks,partsOfLinks,faultListOfPartsAppend,faultListOfOptionalParts,ih,
      nodesOfOptionalParts]

theorem faultListEqual (stored : String → Bool) (ahead : List String) (id : String) (d : Document) :
    faultList stored ahead id d =
      (if stored id ∨ id ∈ ahead ++ nodeIds (nodesOfParts (parts id d)) then [.duplicated id] else []) ++
      faultListOfParts stored ahead (parts id d) ++ ownFaults id d := by
  cases d
  simp only [faultList,parts,faultListOfPartsAppend,faultListOfEntriesParts,faultListOfLinksParts,
    faultListOfOptionalParts,nodesOfEntriesParts,nodesOfLinksParts,nodesOfOptionalParts,nodesOfParts,
    List.flatMap_append,nodeIdsAppend,List.append_assoc]

end Document

namespace Registry
open Document

def faultsOf (id : String) (d : Document) (r : Registry) : List Fault := (register id d r).2.2

def faultsOfParts : List Node → Registry → List Fault
  | [], _ => []
  | p :: rest, r => faultsOf p.1 p.2 r ++ faultsOfParts rest (r.storeNodes (nodes p.1 p.2))

theorem faultsOfPartsAppend (ps qs : List Node) (r : Registry) :
    faultsOfParts (ps ++ qs) r =
      faultsOfParts ps r ++ faultsOfParts qs (r.storeNodes (nodesOfParts ps)) := by
  induction ps generalizing r with
  | nil => rfl
  | cons p rest ih =>
    simp only [List.cons_append,faultsOfParts,ih,nodesOfParts,List.flatMap_cons,storeNodesAppend,
      List.append_assoc]

theorem registerOptionalFaults (id : String) (d : Option Document) (r : Registry) :
    (registerOptional id d r).2.2 = faultsOfParts (partOfOptional id d) r := by
  cases d <;> simp [registerOptional,faultsOfParts,partOfOptional,faultsOf]

theorem registerEntriesFaults (idOf : String → String) (ds : List (String × Option Document))
    (r : Registry) :
    (registerEntries idOf ds r).2.2 = faultsOfParts (partsOfEntries idOf ds) r := by
  induction ds generalizing r with
  | nil => rfl
  | cons head rest ih =>
    obtain ⟨name,d⟩ := head
    cases d with
    | none => exact ih r
    | some d =>
      have here := (registerEqual (idOf name) d r).1
      have later := ih (r.storeNodes (nodes (idOf name) d))
      have split : partsOfEntries idOf ((name,some d) :: rest) =
          (idOf name,d) :: partsOfEntries idOf rest := rfl
      simp only [registerEntries,here,later,split,faultsOfParts,faultsOf]

theorem registerLinksFaults (idOf : Nat → String) (index : Nat) (ls : List (Link Document))
    (r : Registry) :
    (registerLinks idOf index ls r).2.2 = faultsOfParts (partsOfLinks idOf index ls) r := by
  induction ls generalizing index r with
  | nil => rfl
  | cons l rest ih =>
    have here := (registerOptionalEqual (idOf index) l.schema r).1
    simp only [registerLinks,partsOfLinks,faultsOfPartsAppend,registerOptionalFaults,here,ih,
      nodesOfOptionalParts]

theorem faultsOfEqual (id : String) (d : Document) (r : Registry) :
    faultsOf id d r = (if r.contains id then [.duplicated id] else []) ++
      faultsOfParts (parts id d) r ++ ownFaults id d := by
  cases d with
  | mk =>
  simp only [faultsOf,register,parts,faultsOfPartsAppend,registerEntriesFaults,registerLinksFaults,
    registerOptionalFaults,(registerEntriesEqual ..).1,(registerLinksEqual ..).1,nodesOfEntriesParts,
    nodesOfLinksParts,nodesOfParts,nodeFaultsEqual,List.append_assoc]

theorem faultsOfPartsMember {ps : List Node} {r : Registry} {f : Fault} (member : f ∈ faultsOfParts ps r) :
    ∃ p ∈ ps, ∃ s, f ∈ faultsOf p.1 p.2 s := by
  induction ps generalizing r with
  | nil => contradiction
  | cons p rest ih =>
    rcases List.mem_append.mp member with here | later
    · exact ⟨p,List.mem_cons_self,r,here⟩
    · obtain ⟨q,inside,found⟩ := ih later
      exact ⟨q,List.mem_cons_of_mem _ inside,found⟩

theorem faultOrigin {id : String} {d : Document} {r : Registry} {f : Fault}
    (member : f ∈ faultsOf id d r) : ∃ n ∈ nodes id d, f = .duplicated n.1 ∨ OwnFault n.1 f := by
  induction id, d using partsInduction generalizing r with
  | step id d ih =>
    rw [faultsOfEqual,List.mem_append,List.mem_append] at member
    rcases member with (duplicate | inside) | own
    · exact ⟨_,ownNode id d,Or.inl (onlyIf duplicate)⟩
    · obtain ⟨p,part,s,found⟩ := faultsOfPartsMember inside
      obtain ⟨n,node,origin⟩ := ih p part found
      exact ⟨n,nodeCases.mpr (Or.inl ⟨p,part,node⟩),origin⟩
    · exact ⟨_,ownNode id d,Or.inr (ownFault own)⟩

theorem faultsOfPartsList {r : Registry} {ps : List Node} (before : List Node)
    (each : ∀ p ∈ ps, ∀ before, faultsOf p.1 p.2 (r.storeNodes before) =
      faultList r.contains (nodeIds before) p.1 p.2) :
    faultsOfParts ps (r.storeNodes before) = faultListOfParts r.contains (nodeIds before) ps := by
  induction ps generalizing before with
  | nil => rfl
  | cons p rest ih =>
    have here := each p (by simp) before
    have later := ih (before ++ nodes p.1 p.2) fun q member => each q (by simp [member])
    simp only [faultsOfParts,faultListOfParts,here,← storeNodesAppend,later,nodeIdsAppend]

theorem faultsOfList (r : Registry) (id : String) (d : Document) (before : List Node) :
    faultsOf id d (r.storeNodes before) = faultList r.contains (nodeIds before) id d := by
  induction id, d using partsInduction generalizing before with
  | step id d ih =>
    -- The test for a duplicate is made before the parts are stored, the list has it after them. No part
    -- has the identifier of the node itself, so the outcome is the same.
    have own : id ∉ nodeIds (nodesOfParts (parts id d)) := ownIdFresh id d
    have taken : (r.storeNodes before).contains id = true ↔
        r.contains id = true ∨ id ∈ nodeIds before ++ nodeIds (nodesOfParts (parts id d)) := by
      rw [storedContains,List.mem_append,or_iff_left own]
      rfl
    rw [faultsOfEqual,faultListEqual,faultsOfPartsList before fun p member before => ih p member before]
    simp only [taken]

/-- The faults that a registration hands on are those of the list, and it hands on none exactly if the
list is empty. -/
theorem registrationReportsFaultList {id : String} (present : id ≠ "") (d : Document) (r : Registry) :
    ∃ r' result, registration? id (some d) r = .ok (r',result) ∧
      result.faults.getD [] = faultList r.contains [] id d ∧
      (result.faults = none ↔ faultList r.contains [] id d = []) := by
  have list : (register id d r).2.2 = faultList r.contains [] id d := faultsOfList r id d []
  refine ⟨_,_,registrationCall present d r,?_,?_⟩
  · simp only [list,Fault.found?]
    cases faultList r.contains [] id d <;> rfl
  · simp only [list,Fault.found?]
    cases faultList r.contains [] id d <;> simp

theorem crossingReported : "a" ≠ "" ∧
    ∃ r' result, registration? "a" (some crossing) {} = .ok (r',result) ∧
      result.faults.getD [] =
        [.property "a/definitions/x" "$ref" .nil,.property "a/definitions/x" "type" .nil,
         .duplicated "a/definitions/x/properties/y",
         .property "a" "$ref" .nil,.property "a" "type" .nil] := by
  have present : "a" ≠ "" := by decide
  obtain ⟨r',result,call,faults,_⟩ := registrationReportsFaultList present crossing {}
  exact ⟨present,r',result,call,faults.trans (by decide)⟩

end Registry
end SchemaCheck
