import Mathlib.Data.List.Nodup
import SchemaCheck.Proofs.FaultList
import SchemaCheck.Proofs.Segments

/-! The steps from a node to its parts, segment by segment. A name without a slash ends where the next
segment begins, so no identifier stands at or below two parts of one node, and the nodes of a document
are told apart by their identifiers. -/
namespace SchemaCheck

def AtOrBelow (owner id : String) : Prop := id = owner ∨ Below owner id

theorem atOrBelowText {owner id : String} (inside : AtOrBelow owner id) :
    ∃ rest, Cut rest ∧ id.toList = owner.toList ++ rest := by
  rcases inside with rfl | ⟨rest,rfl⟩
  · exact ⟨[],by simp [Cut],by simp⟩
  · refine ⟨'/' :: rest.toList,by simp [Cut],?_⟩
    simp only [String.toList_append,List.append_assoc]
    rfl

theorem topUnique {a b id : String} (flatA : SlashFree a) (flatB : SlashFree b)
    (belowA : AtOrBelow a id) (belowB : AtOrBelow b id) : a = b := by
  obtain ⟨s,cutS,textA⟩ := atOrBelowText belowA
  obtain ⟨t,cutT,textB⟩ := atOrBelowText belowB
  exact String.toList_inj.mp (segmentUnique flatA flatB cutS cutT (textA.symm.trans textB)).1

theorem lastSegmentFlat (id : String) : SlashFree (lastSegment id) := by
  unfold SlashFree lastSegment
  rw [String.toList_ofList,List.mem_reverse]
  intro member
  have kept := List.all_eq_true.mp List.all_takeWhile _ member
  simp at kept

theorem indexFlat (n : Nat) : SlashFree (toString n) := by
  unfold SlashFree
  rw [Nat.toString_eq_ofList_toDigits,String.toList_ofList]
  intro member
  exact absurd (Nat.isDigit_of_mem_toDigits (by decide) (by decide) member) (by decide)

theorem indexUnique {m n : Nat} (same : toString m = toString n) : m = n := by
  rw [Nat.toString_eq_ofList_toDigits,Nat.toString_eq_ofList_toDigits,String.ofList_inj] at same
  rw [← Nat.ofDigitChars_ten_toDigits (n := m),same,Nat.ofDigitChars_ten_toDigits]

inductive Step where
  | definition (name : String)
  | property (name : String)
  | link (index : Nat)
  | items
  deriving DecidableEq, Repr

namespace Step

def apply (owner : String) : Step → String
  | definition name => definitionId owner name
  | property name => propertyId owner name
  | link index => linkId owner index
  | items => itemsId owner

def keyword : Step → String
  | definition _ => "definitions"
  | property _ => "properties"
  | link _ => "links"
  | items => "items"

def name? : Step → Option String
  | definition name | property name => some name
  | link index => some (toString index)
  | items => none

def afterKeyword (s : Step) : List Char :=
  match s.name? with
  | some name => '/' :: name.toList
  | none => []

def Flat (s : Step) : Prop := ∀ name ∈ s.name?, SlashFree name

theorem applyText (owner : String) (s : Step) :
    (s.apply owner).toList = owner.toList ++ '/' :: (s.keyword.toList ++ s.afterKeyword) := by
  have named : ∀ text keyword : String, text.toList = '/' :: (keyword.toList ++ ['/']) →
      ∀ name : String, (owner ++ text ++ name).toList =
        owner.toList ++ '/' :: (keyword.toList ++ '/' :: name.toList) := by
    intro text keyword spelled name
    simp [spelled]
  cases s with
  | definition name => exact named "/definitions/" "definitions" (by decide) name
  | property name => exact named "/properties/" "properties" (by decide) name
  | link index => exact named "/links/" "links" (by decide) (toString index)
  | items =>
    have spelled : "/items".toList = '/' :: "items".toList := by decide
    simp [apply,itemsId,spelled,Step.keyword,afterKeyword,name?]

theorem keywordFlat (s : Step) : SlashFree s.keyword := by
  cases s <;> simp only [Step.keyword] <;> decide

theorem afterKeywordCut (s : Step) {rest : List Char} (cut : Cut rest) :
    Cut (s.afterKeyword ++ rest) := by
  unfold afterKeyword
  cases s.name? with
  | some name => simp [Cut]
  | none => exact cut

theorem nameUnique {s t : Step} (keyword : s.keyword = t.keyword) (name : s.name? = t.name?) : s = t := by
  cases s <;> cases t
  case link.link i j => exact congrArg Step.link (indexUnique (Option.some.inj name))
  all_goals simp_all [Step.keyword,name?]

theorem namedUnlessItems (s : Step) : s.name?.isSome = decide (s.keyword ≠ "items") := by
  cases s <;> rfl

theorem nameRead {s t : Step} (flatS : s.Flat) (flatT : t.Flat) (keyword : s.keyword = t.keyword)
    {after before : List Char} (cutA : Cut after) (cutB : Cut before)
    (same : s.afterKeyword ++ after = t.afterKeyword ++ before) : s.name? = t.name? := by
  have arity : s.name?.isSome = t.name?.isSome := by rw [namedUnlessItems,namedUnlessItems,keyword]
  unfold afterKeyword at same
  cases nameS : s.name? with
  | none =>
    rw [nameS] at arity
    exact (Option.isNone_iff_eq_none.mp (Option.isSome_eq_false_iff.mp arity.symm)).symm
  | some a =>
    rw [nameS] at arity
    obtain ⟨b,nameT⟩ := Option.isSome_iff_exists.mp arity.symm
    simp only [nameS,nameT,List.cons_append,List.cons.injEq,true_and] at same
    have equal := (segmentUnique (flatS a nameS) (flatT b nameT) cutA cutB same).1
    rw [nameT,String.toList_inj.mp equal]

theorem stepUnique {owner id : String} {s t : Step} (flatS : s.Flat) (flatT : t.Flat)
    (belowS : AtOrBelow (s.apply owner) id) (belowT : AtOrBelow (t.apply owner) id) : s = t := by
  obtain ⟨after,cutA,textS⟩ := atOrBelowText belowS
  obtain ⟨before,cutB,textT⟩ := atOrBelowText belowT
  have same : s.keyword.toList ++ (s.afterKeyword ++ after) =
      t.keyword.toList ++ (t.afterKeyword ++ before) := by
    simpa [applyText] using textS.symm.trans textT
  obtain ⟨keyword,rest⟩ := segmentUnique s.keywordFlat t.keywordFlat (s.afterKeywordCut cutA)
    (t.afterKeywordCut cutB) same
  have keyword := String.toList_inj.mp keyword
  exact nameUnique keyword (nameRead flatS flatT keyword cutA cutB rest)

end Step

namespace Document

def entrySteps (make : String → Step) (ds : List (String × Option Document)) : List Step :=
  (ds.filter (·.2.isSome)).map fun e => make e.1

def linkSteps : Nat → List (Link Document) → List Step
  | _, [] => []
  | index, l :: rest => (l.schema.toList.map fun _ => .link index) ++ linkSteps (index + 1) rest

def steps (d : Document) : List Step :=
  entrySteps .definition d.definitions ++ entrySteps .property d.properties ++ linkSteps 0 d.links ++
  d.items.toList.map fun _ => .items

theorem entryStepIds {owner : String} {idOf : String → String} (make : String → Step)
    (same : ∀ name, idOf name = (make name).apply owner) (ds : List (String × Option Document)) :
    (partsOfEntries idOf ds).map Prod.fst = (entrySteps make ds).map (Step.apply owner) := by
  induction ds with
  | nil => rfl
  | cons head rest ih =>
    obtain ⟨name,d⟩ := head
    cases d <;> simp_all [partsOfEntries,partOfOptional,entrySteps]

theorem linkStepIds (owner : String) (index : Nat) (ls : List (Link Document)) :
    (partsOfLinks (linkId owner) index ls).map Prod.fst =
      (linkSteps index ls).map (Step.apply owner) := by
  induction ls generalizing index with
  | nil => rfl
  | cons l rest ih =>
    cases schema : l.schema <;> simp [partsOfLinks,partOfOptional,linkSteps,schema,ih,Step.apply]

theorem stepIds (id : String) (d : Document) :
    (parts id d).map Prod.fst = (steps d).map (Step.apply id) := by
  have definitions := entryStepIds .definition (fun _ => rfl : ∀ name, definitionId id name = _)
    d.definitions
  have properties := entryStepIds .property (fun _ => rfl : ∀ name, propertyId id name = _) d.properties
  have items : (partOfOptional (itemsId id) d.items).map Prod.fst =
      (d.items.toList.map fun _ => Step.items).map (Step.apply id) := by
    cases d.items <;> simp [partOfOptional,Step.apply]
  simp only [parts,steps,List.map_append,definitions,properties,linkStepIds,items]

structure PlainSection (ds : List (String × Option Document)) : Prop where
  once : (Entries.names ds).Nodup
  flat : ∀ name ∈ Entries.names ds, SlashFree name

structure PlainNames (d : Document) : Prop where
  definitions : PlainSection d.definitions
  properties : PlainSection d.properties

instance (ds : List (String × Option Document)) : Decidable (PlainSection ds) :=
  decidable_of_iff ((Entries.names ds).Nodup ∧ ∀ name ∈ Entries.names ds, SlashFree name)
    ⟨fun h => ⟨h.1,h.2⟩,fun h => ⟨h.once,h.flat⟩⟩

instance (d : Document) : Decidable d.PlainNames :=
  decidable_of_iff (PlainSection d.definitions ∧ PlainSection d.properties)
    ⟨fun h => ⟨h.1,h.2⟩,fun h => ⟨h.definitions,h.properties⟩⟩

theorem entryStepMember {make : String → Step} {ds : List (String × Option Document)} {s : Step}
    (member : s ∈ entrySteps make ds) : ∃ name ∈ Entries.names ds, s = make name := by
  obtain ⟨e,kept,rfl⟩ := List.mem_map.mp member
  exact ⟨e.1,List.mem_map.mpr ⟨e,List.mem_of_mem_filter kept,rfl⟩,rfl⟩

theorem linkStepMember {index : Nat} {ls : List (Link Document)} {s : Step}
    (member : s ∈ linkSteps index ls) : ∃ n, index ≤ n ∧ s = .link n := by
  induction ls generalizing index with
  | nil => simp [linkSteps] at member
  | cons l rest ih =>
    rcases List.mem_append.mp member with here | later
    · obtain ⟨_,_,rfl⟩ := List.mem_map.mp here
      exact ⟨index,Nat.le_refl _,rfl⟩
    · obtain ⟨n,least,rfl⟩ := ih later
      exact ⟨n,Nat.le_of_succ_le least,rfl⟩

theorem entryStepsOnce (make : String → Step) (unique : ∀ a b, make a = make b → a = b)
    {ds : List (String × Option Document)} (once : (Entries.names ds).Nodup) :
    (entrySteps make ds).Nodup := by
  have kept : ((ds.filter (·.2.isSome)).map Prod.fst).Nodup :=
    once.sublist (List.filter_sublist.map Prod.fst)
  have made := kept.map unique
  rwa [List.map_map] at made

theorem linkStepsOnce (index : Nat) (ls : List (Link Document)) : (linkSteps index ls).Nodup := by
  induction ls generalizing index with
  | nil => exact List.nodup_nil
  | cons l rest ih =>
    refine List.nodup_append.mpr ⟨?_,ih _,?_⟩
    · cases l.schema <;> simp
    · intro s here t later
      obtain ⟨_,_,rfl⟩ := List.mem_map.mp here
      obtain ⟨n,least,rfl⟩ := linkStepMember later
      intro same
      cases same
      omega

theorem stepsOnce {d : Document} (plain : d.PlainNames) : (steps d).Nodup := by
  have definitions := entryStepsOnce .definition (by simp) plain.definitions.once
  have properties := entryStepsOnce .property (by simp) plain.properties.once
  have links := linkStepsOnce 0 d.links
  have items : (d.items.toList.map fun _ => Step.items).Nodup := by cases d.items <;> simp
  -- Steps of two sections differ in kind.
  refine List.nodup_append.mpr ⟨List.nodup_append.mpr ⟨List.nodup_append.mpr
    ⟨definitions,properties,?_⟩,links,?_⟩,items,?_⟩
  · intro s first t second
    obtain ⟨_,_,rfl⟩ := entryStepMember first
    obtain ⟨_,_,rfl⟩ := entryStepMember second
    simp
  · intro s first t second
    obtain ⟨_,_,rfl⟩ := linkStepMember second
    rcases List.mem_append.mp first with inside | inside <;>
      obtain ⟨_,_,rfl⟩ := entryStepMember inside <;> simp
  · intro s first t second
    obtain ⟨_,_,rfl⟩ := List.mem_map.mp second
    simp only [List.mem_append] at first
    rcases first with (inside | inside) | inside
    · obtain ⟨_,_,rfl⟩ := entryStepMember inside
      simp
    · obtain ⟨_,_,rfl⟩ := entryStepMember inside
      simp
    · obtain ⟨_,_,rfl⟩ := linkStepMember inside
      simp

theorem stepsFlat {d : Document} (plain : d.PlainNames) {s : Step} (member : s ∈ steps d) : s.Flat := by
  simp only [steps,List.mem_append] at member
  rcases member with ((inside | inside) | inside) | inside
  · obtain ⟨name,listed,rfl⟩ := entryStepMember inside
    simpa [Step.Flat,Step.name?] using plain.definitions.flat name listed
  · obtain ⟨name,listed,rfl⟩ := entryStepMember inside
    simpa [Step.Flat,Step.name?] using plain.properties.flat name listed
  · obtain ⟨n,_,rfl⟩ := linkStepMember inside
    simpa [Step.Flat,Step.name?] using indexFlat n
  · obtain ⟨_,_,rfl⟩ := List.mem_map.mp inside
    simp [Step.Flat,Step.name?]

theorem partsApart {d : Document} (plain : d.PlainNames) (id : String) :
    (parts id d).Pairwise fun p q => ∀ k, AtOrBelow p.1 k → ¬ AtOrBelow q.1 k := by
  have apart : ((parts id d).map Prod.fst).Pairwise fun a b => ∀ k, AtOrBelow a k → ¬ AtOrBelow b k := by
    rw [stepIds,List.pairwise_map]
    refine (stepsOnce plain).imp_of_mem ?_
    intro s t first second different k belowS belowT
    exact different (Step.stepUnique (stepsFlat plain first) (stepsFlat plain second) belowS belowT)
  exact List.pairwise_map.mp apart

theorem nodeIdWithin {id k : String} {d : Document} (member : k ∈ nodeIds (nodes id d)) :
    AtOrBelow id k := by
  obtain ⟨n,inside,rfl⟩ := List.mem_map.mp member
  exact nodeWithin inside

theorem nodesDistinct {id : String} {d : Document} (plain : ∀ n ∈ nodes id d, n.2.PlainNames) :
    (nodeIds (nodes id d)).Nodup := by
  induction id, d using partsInduction with
  | step id d ih =>
    have each : ∀ p ∈ parts id d, (nodeIds (nodes p.1 p.2)).Nodup := by
      intro p part
      exact ih p part fun n inside => plain n (nodesClosed (partNode (ownNode id d) part) inside)
    have inner : (nodeIds (nodesOfParts (parts id d))).Nodup := by
      rw [nodeIds,nodesOfParts,List.map_flatMap,List.nodup_flatMap]
      refine ⟨each,(partsApart (plain _ (ownNode id d)) id).imp ?_⟩
      intro p q apart k inP inQ
      exact apart k (nodeIdWithin inP) (nodeIdWithin inQ)
    have own : id ∉ nodeIds (nodesOfParts (parts id d)) := ownIdFresh id d
    rw [nodesEqual,nodeIdsAppend]
    refine List.nodup_append.mpr ⟨inner,List.nodup_singleton _,?_⟩
    intro k member j itself same
    have top : k = id := same.trans (List.mem_singleton.mp itself)
    exact own (top ▸ member)

end Document
end SchemaCheck
