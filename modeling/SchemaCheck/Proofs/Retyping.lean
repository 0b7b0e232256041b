import SchemaCheck.Proofs.Accounting
import SchemaCheck.Proofs.Steps

/-! Documents with declarations put in place. The nodes are the ones that were there, each found by the steps
that lead to it, and a node with a declaration of a wrong shape is reported when the document is registered. -/
namespace SchemaCheck

/-- What is put where, by the steps that lead to a node: nothing, or a declaration or its absence. -/
abbrev Additions := List Step → Option (Option Declaration)

def Additions.below (added : Additions) (s : Step) : Additions := fun path => added (s :: path)

theorem Declaration.otherShape {v : Value} (name : ∀ s, v ≠ .string s)
    (names : ∀ ss : List String, v ≠ .array (ss.map .string)) : ofValue v = .other v := by
  have strings : ∀ {items : List Value} {ss : List String}, Value.strings? items = some ss →
      items = ss.map .string := by
    intro items
    induction items with
    | nil => simp_all [Value.strings?]
    | cons item rest ih =>
      intro ss found
      cases item <;> simp only [Value.strings?,Option.map_eq_some_iff,reduceCtorEq] at found
      obtain ⟨later,read,rfl⟩ := found
      rw [ih read,List.map_cons]
  unfold ofValue
  split
  · exact absurd rfl (name _)
  · rename_i items
    split
    · rename_i ss found
      exact absurd (congrArg Value.array (strings found)) (names ss)
    · rfl
  · rfl

namespace Document

mutual

def retype (added : Additions) : Document → Document
  | d@{ declaration, definitions, properties, items, links, .. } =>
    { d with
      declaration := (added []).getD declaration
      definitions := retypeEntries (fun name => added.below (.definition name)) definitions
      properties := retypeEntries (fun name => added.below (.property name)) properties
      items := retypeOptional (added.below .items) items
      links := retypeLinks (fun index => added.below (.link index)) links }

def retypeOptional (added : Additions) : Option Document → Option Document
  | none => none
  | some d => some (retype added d)

def retypeEntries (added : String → Additions) :
    List (String × Option Document) → List (String × Option Document)
  | [] => []
  | (name, d) :: rest => (name, retypeOptional (added name) d) :: retypeEntries added rest

def retypeLinks (added : Nat → Additions) : List (Link Document) → List (Link Document)
  | [] => []
  | l@{ schema, .. } :: rest =>
    { l with schema := retypeOptional (added 0) schema } :: retypeLinks (fun index => added (index + 1)) rest

end

def child? (d : Document) : Step → Option Document
  | .definition name => (Entries.get? name d.definitions).join
  | .property name => (Entries.get? name d.properties).join
  | .link index => d.links[index]?.bind Link.schema
  | .items => d.items

def at? : List Step → Document → Option Document
  | [], d => some d
  | s :: path, d => (d.child? s).bind (at? path)

theorem retypeOptionalMap (added : Additions) (d : Option Document) :
    retypeOptional added d = d.map (retype added) := by
  cases d <;> rfl

theorem getRetyped (added : String → Additions) (name : String) (ds : Entries (Option Document)) :
    Entries.get? name (retypeEntries added ds) = (ds.get? name).map (retypeOptional (added name)) := by
  induction ds with
  | nil => rfl
  | cons head rest ih =>
    obtain ⟨k,d⟩ := head
    simp only [retypeEntries,Entries.get?,ih]
    split
    · subst_vars
      rfl
    · rfl

theorem namesRetyped (added : String → Additions) (ds : Entries (Option Document)) :
    (retypeEntries added ds).map Prod.fst = ds.map Prod.fst := by
  induction ds with
  | nil => rfl
  | cons head rest ih => exact congrArg (head.1 :: ·) ih

theorem linkRetyped (added : Nat → Additions) (index : Nat) (ls : List (Link Document)) :
    ((retypeLinks added ls)[index]?).bind Link.schema =
      (ls[index]?.bind Link.schema).map (retype (added index)) := by
  induction ls generalizing added index with
  | nil => rfl
  | cons l rest ih =>
    cases index with
    | zero => exact retypeOptionalMap (added 0) l.schema
    | succ index => exact ih (fun index => added (index + 1)) index

theorem childRetyped (added : Additions) (d : Document) (s : Step) :
    (d.retype added).child? s = (d.child? s).map (retype (added.below s)) := by
  have joined : ∀ (found : Option (Option Document)) (added : Additions),
      (found.map (retypeOptional added)).join = found.join.map (retype added) := by
    intro found added
    cases found with
    | none => rfl
    | some d => exact retypeOptionalMap added d
  cases d
  cases s with
  | definition name => simp only [child?,retype,getRetyped,joined]
  | property name => simp only [child?,retype,getRetyped,joined]
  | link index => exact linkRetyped _ index _
  | items => exact retypeOptionalMap _ _

theorem atRetyped (added : Additions) (path : List Step) (d : Document) :
    at? path (d.retype added) = (at? path d).map (retype fun later => added (path ++ later)) := by
  induction path generalizing added d with
  | nil => rfl
  | cons s path ih =>
    rw [at?,at?,childRetyped]
    cases d.child? s with
    | none => rfl
    | some c => exact ih (added.below s) c

/- The rows of a section in the order in which they were read. One that is hidden by a later row of its name
may have been retyped in any way. -/
inductive RetypedRows (added : String → Additions) :
    List (String × Option Document) → List (String × Option Document) → Prop where
  | nil : RetypedRows added [] []
  | cons {name : String} {d : Option Document} {own : Additions} {xs ys : List (String × Option Document)}
      (last : name ∉ xs.map Prod.fst → own = added name) (later : RetypedRows added xs ys) :
      RetypedRows added ((name,d) :: xs) ((name,retypeOptional own d) :: ys)

theorem rowNames {added : String → Additions} {xs ys : List (String × Option Document)}
    (rows : RetypedRows added xs ys) : ys.map Prod.fst = xs.map Prod.fst := by
  induction rows with
  | nil => rfl
  | cons _ _ ih => simp only [List.map_cons,ih]

theorem rowFound {added : String → Additions} {xs ys : List (String × Option Document)}
    (rows : RetypedRows added xs ys) {t u : Table (Option Document)} {k : String}
    (before : u.get? k = (t.get? k).map (retypeOptional (added k))) :
    (u.overwrite ys).get? k = ((t.overwrite xs).get? k).map (retypeOptional (added k)) := by
  induction rows generalizing t u with
  | nil => exact before
  | @cons name d own xs ys last later ih =>
    by_cases hidden : k ∈ xs.map Prod.fst
    · have left : ((t.insert name d).overwrite xs).get? k = (t.overwrite xs).get? k :=
        Table.overwriteAnyhow hidden
      have right : ((u.insert name (retypeOptional own d)).overwrite ys).get? k = (u.overwrite ys).get? k :=
        Table.overwriteAnyhow ((rowNames later).symm ▸ hidden)
      exact right.trans ((ih before).trans (congrArg _ left.symm))
    · refine ih ?_
      rw [Table.getInsert,Table.getInsert]
      split
      · subst_vars
        rw [last hidden]
        rfl
      · exact before

theorem rowsRetyped {added : String → Additions} {xs ys : List (String × Option Document)}
    (rows : RetypedRows added xs ys) : Entries.ofList ys = retypeEntries added (Entries.ofList xs) := by
  have ordered : Entries.Ordered (retypeEntries added (Entries.ofList xs)) := by
    have names := List.pairwise_map.mpr (Entries.orderedOfList xs)
    rw [← namesRetyped added] at names
    exact List.pairwise_map.mp names
  have same : Table.empty.overwrite ys = ⟨_,ordered⟩ := by
    apply Table.equalOfLookups
    intro k
    rw [rowFound (t := Table.empty) rows rfl]
    have listed : (Table.empty.overwrite xs).get? k = (Entries.ofList xs).get? k := by
      rw [Table.get?,Table.overwriteEntries]
      rfl
    rw [listed]
    exact (getRetyped ..).symm
  have read := congrArg Table.entries same
  rwa [Table.overwriteEntries] at read

theorem entryMember {ds : Entries (Option Document)} {name : String} {c : Document}
    (found : (ds.get? name).join = some c) : (name,some c) ∈ ds := by
  induction ds with
  | nil => simp [Entries.get?] at found
  | cons head rest ih =>
    obtain ⟨k,d⟩ := head
    rw [Entries.get?] at found
    split at found
    · rename_i same
      rw [Option.join_some] at found
      exact List.mem_cons.mpr (Or.inl (by rw [same,found]))
    · exact List.mem_cons_of_mem _ (ih found)

theorem linkMember (idOf : Nat → String) (first : Nat) {index : Nat} {ls : List (Link Document)}
    {c : Document} (found : ls[index]?.bind Link.schema = some c) :
    (idOf (first + index),c) ∈ partsOfLinks idOf first ls := by
  induction ls generalizing first index with
  | nil => simp at found
  | cons l rest ih =>
    cases index with
    | zero =>
      have schema : l.schema = some c := found
      exact List.mem_append_left _ (by simp [partOfOptional,schema])
    | succ index =>
      have later := ih (first + 1) found
      rw [Nat.succ_add_eq_add_succ] at later
      exact List.mem_append_right _ later

theorem childPart {d c : Document} {s : Step} (id : String) (found : d.child? s = some c) :
    (s.apply id,c) ∈ parts id d := by
  have listed : ∀ (idOf : String → String) {ds : Entries (Option Document)} {name : String},
      (ds.get? name).join = some c → (idOf name,c) ∈ partsOfEntries idOf ds := fun _ _ _ found =>
    List.mem_flatMap.mpr ⟨_,entryMember found,by simp [partOfOptional]⟩
  simp only [parts,List.mem_append]
  cases s with
  | definition name => exact Or.inl (Or.inl (Or.inl (listed _ found)))
  | property name => exact Or.inl (Or.inl (Or.inr (listed _ found)))
  | link index =>
    have member := linkMember (linkId id) 0 found
    rw [Nat.zero_add] at member
    exact Or.inl (Or.inr member)
  | items =>
    have items : d.items = some c := found
    exact Or.inr (by simp [partOfOptional,items,Step.apply])

theorem atNode {d e : Document} {path : List Step} (id : String) (found : at? path d = some e) :
    (path.foldl Step.apply id,e) ∈ nodes id d := by
  induction path generalizing id d with
  | nil =>
    cases found
    exact ownNode id _
  | cons s path ih =>
    obtain ⟨c,child,rest⟩ := Option.bind_eq_some_iff.mp found
    exact nodeCases.mpr (Or.inl ⟨_,childPart id child,ih (s.apply id) rest⟩)

end Document

namespace Registry
open Document

theorem ownReported {id : String} {d : Document} {n : Node} {f : Fault} (member : n ∈ nodes id d)
    (own : f ∈ ownFaults n.1 n.2) (r : Registry) : f ∈ faultsOf id d r := by
  have inside : f ∈ ownFaultsOf (nodes id d) := List.mem_flatMap.mpr ⟨n,member,own⟩
  rw [← otherFaults id d r] at inside
  exact List.mem_of_mem_filter inside

theorem wrongTypeReported {added : Additions} {path : List Step} {d e : Document} {v : Value}
    (found : at? path d = some e) (wrong : added path = some (some (.other v))) (id : String) (r : Registry) :
    .propertyIncorrect (path.foldl Step.apply id) "type" ("Other(" ++ v.dump ++ ")") ∈
      faultsOf id (d.retype added) r := by
  have retyped : at? path (d.retype added) = some (e.retype fun later => added (path ++ later)) := by
    rw [atRetyped,found]
    rfl
  refine ownReported (atNode id retyped) ?_ r
  have declared : (e.retype fun later => added (path ++ later)).declaration = some (.other v) := by
    cases e
    simp [retype,wrong]
  simp [ownFaults,shapeFaults,declared]

end Registry
end SchemaCheck
