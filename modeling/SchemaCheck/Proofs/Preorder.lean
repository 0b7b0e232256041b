import Mathlib.Data.List.Perm.Basic
import SchemaCheck.Proofs.Storing

/-! A normalized schema and everything it holds, each ahead of what it holds itself. A walk that never
turns back visits this list in its order; for a document it has the normalized nodes, in another order. -/
namespace SchemaCheck

namespace Schema

mutual

def preorder : Schema → List Schema
  | n@{ definitions, properties, items, links, .. } =>
    n :: (preorderOfEntries definitions ++ preorderOfEntries properties ++
      preorderOfOptional items ++ preorderOfLinks links)

def preorderOfOptional : Option Schema → List Schema
  | none => []
  | some n => preorder n

def preorderOfEntries : List (String × Schema) → List Schema
  | [] => []
  | (_, n) :: rest => preorder n ++ preorderOfEntries rest

def preorderOfLinks : List (Link Schema) → List Schema
  | [] => []
  | { schema, .. } :: rest => preorderOfOptional schema ++ preorderOfLinks rest

end

def preorderOfAll (ss : List Schema) : List Schema := ss.flatMap preorder

theorem preorderOfOptionalAll (s : Option Schema) :
    preorderOfOptional s = preorderOfAll s.toList := by
  cases s <;> simp [preorderOfOptional,preorderOfAll]

theorem preorderOfEntriesAll (ss : List (String × Schema)) :
    preorderOfEntries ss = preorderOfAll (ss.map Prod.snd) := by
  induction ss with
  | nil => rfl
  | cons head rest ih => simp_all [preorderOfEntries,preorderOfAll]

theorem preorderOfLinksAll (ls : List (Link Schema)) :
    preorderOfLinks ls = preorderOfAll (ls.filterMap Link.schema) := by
  induction ls with
  | nil => rfl
  | cons l rest ih =>
    simp only [preorderOfLinks,ih,preorderOfOptionalAll]
    cases schema : l.schema <;> simp [preorderOfAll,schema]

theorem preorderEqual (s : Schema) : s.preorder = s :: preorderOfAll s.children := by
  cases s
  simp only [preorder,children,preorderOfEntriesAll,preorderOfOptionalAll,preorderOfLinksAll,
    preorderOfAll,List.flatMap_append]

def noting (note : σ → Schema → σ) : Visitor σ ε := fun s state => (note state s,.ok .descend)

mutual

theorem walkNoting (note : σ → Schema → σ) : ∀ (s : Schema) (state : σ),
    walk (noting note : Visitor σ ε) s state = (s.preorder.foldl note state,.ok ())
  | { definitions, properties, items, links, .. }, state => by
    simp only [walk,noting,walkEntriesNoting note,walkOptionalNoting note,walkLinksNoting note,andThen,
      preorder,List.foldl_cons,List.foldl_append]

theorem walkOptionalNoting (note : σ → Schema → σ) : ∀ (s : Option Schema) (state : σ),
    walkOptional (noting note : Visitor σ ε) s state = ((preorderOfOptional s).foldl note state,.ok ())
  | none, _ => rfl
  | some s, state => walkNoting note s state

theorem walkEntriesNoting (note : σ → Schema → σ) : ∀ (ss : List (String × Schema)) (state : σ),
    walkEntries (noting note : Visitor σ ε) ss state = ((preorderOfEntries ss).foldl note state,.ok ())
  | [], _ => rfl
  | (_, s) :: rest, state => by
    simp only [walkEntries,walkNoting note s,andThen,walkEntriesNoting note rest,preorderOfEntries,
      List.foldl_append]

theorem walkLinksNoting (note : σ → Schema → σ) : ∀ (ls : List (Link Schema)) (state : σ),
    walkLinks (noting note : Visitor σ ε) ls state = ((preorderOfLinks ls).foldl note state,.ok ())
  | [], _ => rfl
  | { schema, .. } :: rest, state => by
    simp only [walkLinks,walkOptionalNoting note schema,andThen,walkLinksNoting note rest,preorderOfLinks,
      List.foldl_append]

end

theorem walkAllNoting (note : σ → Schema → σ) (ss : List Schema) (state : σ) :
    walkAll (noting note : Visitor σ ε) ss state = ((preorderOfAll ss).foldl note state,.ok ()) := by
  induction ss generalizing state with
  | nil => rfl
  | cons s rest ih =>
    simp only [walkAll,walkNoting,andThen,ih,preorderOfAll,List.flatMap_cons,List.foldl_append]

/- `s.Holds k c`: the schema `c` stands directly inside `s`, where the identifier is to be `k`. -/
inductive Holds (s : Schema) : String → Schema → Prop where
  | definition {name : String} {c : Schema} (member : (name,c) ∈ s.definitions) :
      Holds s (definitionId s.id name) c
  | property {name : String} {c : Schema} (member : (name,c) ∈ s.properties) :
      Holds s (propertyId s.id name) c
  | items {c : Schema} (present : s.items = some c) : Holds s (itemsId s.id) c
  | link {index : Nat} {l : Link Schema} {c : Schema} (member : s.links[index]? = some l)
      (present : l.schema = some c) : Holds s (linkId s.id index) c

end Schema

namespace Document

def normalized (n : Node) : Schema := n.2.normalize n.1

theorem normalizeOptionalParts (id : String) (d : Option Document) :
    (normalizeOptional id d).toList = (partOfOptional id d).map normalized := by
  cases d <;> rfl

theorem normalizeEntriesParts (idOf : String → String) (ds : List (String × Option Document)) :
    (normalizeEntries idOf ds).map Prod.snd = (partsOfEntries idOf ds).map normalized := by
  induction ds with
  | nil => rfl
  | cons head rest ih =>
    obtain ⟨name,d⟩ := head
    cases d with
    | none => exact ih
    | some d => exact congrArg (d.normalize (idOf name) :: ·) ih

theorem normalizeLinksParts (idOf : Nat → String) (index : Nat) (ls : List (Link Document)) :
    (normalizeLinks idOf index ls).filterMap Link.schema = (partsOfLinks idOf index ls).map normalized := by
  induction ls generalizing index with
  | nil => rfl
  | cons l rest ih =>
    rw [partsOfLinks,List.map_append,← ih,← normalizeOptionalParts]
    cases schema : l.schema <;> simp [normalizeLinks,normalizeOptional,schema]

theorem childrenNormalize (id : String) (d : Document) :
    ((parts id d).map normalized).Perm (d.normalize id).children := by
  cases d
  simp only [Schema.children,normalize,schemaWith,parts,normalizeEntriesParts,normalizeOptionalParts,
    normalizeLinksParts,List.map_append]
  -- Links are registered before the items and visited after them.
  simp only [List.append_assoc]
  exact .append_left _ (.append_left _ List.perm_append_comm)

theorem preorderNormalize (id : String) (d : Document) :
    ((nodes id d).map normalized).Perm (d.normalize id).preorder := by
  induction id, d using partsInduction with
  | step id d ih =>
    have inside : ((nodesOfParts (parts id d)).map normalized).Perm
        (Schema.preorderOfAll (d.normalize id).children) := by
      rw [nodesOfParts,List.map_flatMap]
      refine (List.Perm.flatMap_left _ ih).trans ?_
      refine .trans ?_ ((childrenNormalize id d).flatMap_right Schema.preorder)
      rw [List.flatMap_map]
      rfl
    rw [nodesEqual,List.map_append,Schema.preorderEqual]
    exact List.perm_append_comm.trans (inside.cons _)

theorem preorderMember {id : String} {d : Document} {s : Schema} (member : s ∈ (d.normalize id).preorder) :
    ∃ n ∈ nodes id d, s = normalized n := by
  obtain ⟨n,found,same⟩ := List.mem_map.mp ((preorderNormalize id d).mem_iff.mpr member)
  exact ⟨n,found,same.symm⟩

theorem normalizeEntriesMember {idOf : String → String} {ds : List (String × Option Document)}
    {name : String} {c : Schema} (member : (name,c) ∈ normalizeEntries idOf ds) :
    ∃ e, (idOf name,e) ∈ partsOfEntries idOf ds ∧ c = e.normalize (idOf name) := by
  induction ds with
  | nil => simp [normalizeEntries] at member
  | cons head rest ih =>
    obtain ⟨k,d⟩ := head
    cases d with
    | none => exact ih member
    | some d =>
      rcases List.mem_cons.mp member with here | later
      · cases here
        exact ⟨d,by simp [partsOfEntries,partOfOptional],rfl⟩
      · obtain ⟨e,found,same⟩ := ih later
        exact ⟨e,List.mem_append_right _ found,same⟩

theorem normalizeOptionalMember {id : String} {d : Option Document} {c : Schema}
    (present : normalizeOptional id d = some c) :
    ∃ e, (id,e) ∈ partOfOptional id d ∧ c = e.normalize id := by
  cases d with
  | none => simp [normalizeOptional] at present
  | some d =>
    cases present
    exact ⟨d,by simp [partOfOptional],rfl⟩

theorem normalizeLinksMember {idOf : Nat → String} {first index : Nat} {ls : List (Link Document)}
    {l : Link Schema} {c : Schema} (member : (normalizeLinks idOf first ls)[index]? = some l)
    (present : l.schema = some c) :
    ∃ e, (idOf (first + index),e) ∈ partsOfLinks idOf first ls ∧ c = e.normalize (idOf (first + index)) := by
  induction ls generalizing first index with
  | nil => simp [normalizeLinks] at member
  | cons head rest ih =>
    cases index with
    | zero =>
      cases member
      obtain ⟨e,found,same⟩ := normalizeOptionalMember present
      exact ⟨e,List.mem_append_left _ found,same⟩
    | succ index =>
      obtain ⟨e,found,same⟩ := @ih (first + 1) index member
      rw [Nat.succ_add_eq_add_succ] at found same
      exact ⟨e,List.mem_append_right _ found,same⟩

theorem normalizeHolds {id k : String} {d : Document} {c : Schema} (holds : (d.normalize id).Holds k c) :
    ∃ e, (k,e) ∈ parts id d ∧ c = e.normalize k := by
  cases d
  simp only [parts,List.mem_append]
  cases holds with
  | definition member =>
    obtain ⟨e,found,same⟩ := normalizeEntriesMember member
    exact ⟨e,Or.inl (Or.inl (Or.inl found)),same⟩
  | property member =>
    obtain ⟨e,found,same⟩ := normalizeEntriesMember member
    exact ⟨e,Or.inl (Or.inl (Or.inr found)),same⟩
  | items present =>
    obtain ⟨e,found,same⟩ := normalizeOptionalMember present
    exact ⟨e,Or.inr found,same⟩
  | link member present =>
    obtain ⟨e,found,same⟩ := normalizeLinksMember member present
    rw [Nat.zero_add] at found same
    exact ⟨e,Or.inl (Or.inr found),same⟩

end Document
end SchemaCheck
