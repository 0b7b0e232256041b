import Mathlib.Data.List.Forall2
import SchemaCheck.Proofs.Documents

/-! What checking does not look at. Two documents of one shape that agree, node by node, on the declaration of
types, the reference and which bounds are set are told apart neither by the faults of a registration nor by
the references it leaves; texts, examples, lengths, identifiers and the values of the bounds are free. -/
namespace SchemaCheck

namespace Document

mutual

inductive Alike : Document → Document → Prop where
  | node {a b : Document} (declaration : a.declaration = b.declaration) (reference : a.reference = b.reference)
      (min : a.min.isSome = b.min.isSome) (minValue : a.minValue.isSome = b.minValue.isSome)
      (max : a.max.isSome = b.max.isSome) (maxValue : a.maxValue.isSome = b.maxValue.isSome)
      (definitions : AlikeEntries a.definitions b.definitions)
      (properties : AlikeEntries a.properties b.properties) (items : AlikeOptional a.items b.items)
      (links : AlikeLinks a.links b.links) : Alike a b

inductive AlikeOptional : Option Document → Option Document → Prop where
  | absent : AlikeOptional none none
  | present {a b : Document} (alike : Alike a b) : AlikeOptional (some a) (some b)

inductive AlikeEntries : List (String × Option Document) → List (String × Option Document) → Prop where
  | nil : AlikeEntries [] []
  | cons {name : String} {a b : Option Document} {as bs : List (String × Option Document)}
      (here : AlikeOptional a b) (later : AlikeEntries as bs) : AlikeEntries ((name,a) :: as) ((name,b) :: bs)

inductive AlikeLinks : List (Link Document) → List (Link Document) → Prop where
  | nil : AlikeLinks [] []
  | cons {l m : Link Document} {ls ms : List (Link Document)} (here : AlikeOptional l.schema m.schema)
      (later : AlikeLinks ls ms) : AlikeLinks (l :: ls) (m :: ms)

end

def Paired (p q : Node) : Prop := p.1 = q.1 ∧ Alike p.2 q.2

theorem alikePartOfOptional {a b : Option Document} (alike : AlikeOptional a b) (id : String) :
    List.Forall₂ Paired (partOfOptional id a) (partOfOptional id b) := by
  cases alike with
  | absent => exact .nil
  | present alike => exact .cons ⟨rfl,alike⟩ .nil

theorem alikePartsOfEntries {as bs : List (String × Option Document)} (alike : AlikeEntries as bs)
    (idOf : String → String) :
    List.Forall₂ Paired (partsOfEntries idOf as) (partsOfEntries idOf bs) := by
  induction as generalizing bs with
  | nil =>
    cases alike
    exact .nil
  | cons head rest ih =>
    cases alike with
    | cons here later => exact List.rel_append (alikePartOfOptional here _) (ih later)

theorem alikePartsOfLinks {ls ms : List (Link Document)} (alike : AlikeLinks ls ms) (idOf : Nat → String)
    (index : Nat) : List.Forall₂ Paired (partsOfLinks idOf index ls) (partsOfLinks idOf index ms) := by
  induction ls generalizing ms index with
  | nil =>
    cases alike
    exact .nil
  | cons l rest ih =>
    cases alike with
    | cons here later => exact List.rel_append (alikePartOfOptional here _) (ih later (index + 1))

theorem alikeParts {a b : Document} (alike : Alike a b) (id : String) :
    List.Forall₂ Paired (parts id a) (parts id b) := by
  cases alike with
  | node _ _ _ _ _ _ definitions properties items links =>
    have sections := List.rel_append (alikePartsOfEntries definitions (definitionId id))
      (alikePartsOfEntries properties (propertyId id))
    exact List.rel_append (List.rel_append sections (alikePartsOfLinks links (linkId id) 0))
      (alikePartOfOptional items (itemsId id))

theorem pairedNodes {ps qs : List Node} (pairs : List.Forall₂ Paired ps qs)
    (each : ∀ p ∈ ps, ∀ e, Alike p.2 e → List.Forall₂ Paired (nodes p.1 p.2) (nodes p.1 e)) :
    List.Forall₂ Paired (nodesOfParts ps) (nodesOfParts qs) := by
  induction pairs with
  | nil => exact .nil
  | @cons p q _ _ head _ ih =>
    have first : List.Forall₂ Paired (nodes p.1 p.2) (nodes q.1 q.2) :=
      head.1 ▸ each p List.mem_cons_self q.2 head.2
    exact List.rel_append first (ih fun p member => each p (List.mem_cons_of_mem _ member))

theorem alikeNodes {id : String} {a b : Document} (alike : Alike a b) :
    List.Forall₂ Paired (nodes id a) (nodes id b) := by
  induction id, a using partsInduction generalizing b with
  | step id a ih =>
    rw [nodesEqual,nodesEqual]
    exact List.rel_append (pairedNodes (alikeParts alike id) fun p part e inside => ih p part inside)
      (.cons ⟨rfl,alike⟩ .nil)

theorem pairedRows {ps qs : List Node} (pairs : List.Forall₂ Paired ps qs) :
    nodeIds ps = nodeIds qs ∧ referenceRows ps = referenceRows qs := by
  induction pairs with
  | nil => exact ⟨rfl,rfl⟩
  | @cons p q _ _ head _ ih =>
    obtain ⟨id,⟨_,reference,_⟩⟩ := head
    simp only [nodeIds,referenceRows,List.map_cons] at ih ⊢
    rw [ih.1,ih.2,id,reference]
    exact ⟨rfl,rfl⟩

theorem alikePresence {a b : Option Document} (alike : AlikeOptional a b) : a.isNone = b.isNone := by
  cases alike <;> rfl

theorem alikeOwnFaults {a b : Document} (alike : Alike a b) (id : String) : ownFaults id a = ownFaults id b := by
  cases alike with
  | node declaration reference min minValue max maxValue _ _ items _ =>
    have types : a.types = b.types := by rw [types,types,declaration]
    have names : typeNameFaults id a = typeNameFaults id b := by
      funext name
      rw [typeNameFaults,typeNameFaults,alikePresence items]
    simp only [ownFaults,declaration,reference,min,minValue,max,maxValue,types,names]

theorem pairedFaults {stored : String → Bool} {ps qs : List Node} (pairs : List.Forall₂ Paired ps qs)
    (each : ∀ p ∈ ps, ∀ e, Alike p.2 e → ∀ ahead,
      faultList stored ahead p.1 p.2 = faultList stored ahead p.1 e) (ahead : List String) :
    faultListOfParts stored ahead ps = faultListOfParts stored ahead qs := by
  induction pairs generalizing ahead with
  | nil => rfl
  | @cons p q _ _ head _ ih =>
    have ids : nodeIds (nodes p.1 p.2) = nodeIds (nodes q.1 q.2) := by
      rw [head.1]
      exact (pairedRows (alikeNodes head.2)).1
    have first : faultList stored ahead p.1 p.2 = faultList stored ahead q.1 q.2 :=
      head.1 ▸ each p List.mem_cons_self q.2 head.2 ahead
    rw [faultListOfParts,faultListOfParts,ids,first,ih fun p member => each p (List.mem_cons_of_mem _ member)]

theorem alikeFaultList {id : String} {a b : Document} (alike : Alike a b) (stored : String → Bool)
    (ahead : List String) : faultList stored ahead id a = faultList stored ahead id b := by
  induction id, a using partsInduction generalizing b ahead with
  | step id a ih =>
    have pairs := alikeParts alike id
    have nodes := pairedNodes pairs fun _ _ _ inside => alikeNodes inside
    have inner : faultListOfParts stored ahead (parts id a) = faultListOfParts stored ahead (parts id b) :=
      pairedFaults pairs (fun p part e inside ahead => ih p part inside ahead) ahead
    rw [faultListEqual,faultListEqual,(pairedRows nodes).1,inner,alikeOwnFaults alike]

end Document

namespace Registry
open Document

/-- Registering either of two such documents, under one identifier in one registry, reports the same faults
and leaves the same identifiers, roots and references, so that validation finds the same. -/
theorem annotationsUnchecked {id : String} (present : id ≠ "") {a b : Document} (alike : Alike a b)
    (r : Registry) :
    ∃ ra xa rb xb, registration? id (some a) r = .ok (ra,xa) ∧ registration? id (some b) r = .ok (rb,xb) ∧
      xa.faults = xb.faults ∧ ra.ids = rb.ids ∧ ra.roots = rb.roots ∧ ra.references = rb.references ∧
      ra.validate = rb.validate := by
  have nodes : List.Forall₂ Paired (nodes id a) (nodes id b) := alikeNodes alike
  have rows := pairedRows nodes
  have faults : faultsOf id a r = faultsOf id b r := by
    have left := faultsOfList r id a []
    have right := faultsOfList r id b []
    exact left.trans ((alikeFaultList alike r.contains []).trans right.symm)
  have references : (storeDocument id a r).references = (storeDocument id b r).references := by
    rw [(documentTables id a r).2,(documentTables id b r).2,rows.2]
  have known : (storeDocument id a r).contains = (storeDocument id b r).contains := by
    funext k
    rw [Bool.eq_iff_iff,documentContains,documentContains,rows.1]
  refine ⟨_,_,_,_,registrationCall present a r,registrationCall present b r,congrArg Fault.found? faults,
    ?_,?_,references,?_⟩
  · exact Table.namesEqual fun k => Bool.eq_iff_iff.mp (congrFun known k)
  · exact (documentRoots id a r).trans (documentRoots id b r).symm
  · have check : (storeDocument id a r).referenceFault? = (storeDocument id b r).referenceFault? := by
      funext k reference
      rw [referenceFault?,referenceFault?,known]
    change (storeDocument id a r).validate = (storeDocument id b r).validate
    rw [validate,validate,check,references]

def bareCard : Document :=
  { declaration := some (.name "array"), max := some .zero, maxValue := some .zero
    properties := [("next",some (.referring "#/gone")),("old",none)]
    links := [{ schema := some { declaration := some (.other .null) } }] }

def filledCard : Document :=
  { id := "x/", dialect := "other", declaration := some (.name "array"), description := "a card"
    sample := some (.bool true), pattern := "^c", required := ["next"], max := some .nan
    maxValue := some (.infinity true), minLength := 5, maxLength := -1, choices := ["a"]
    properties := [("next",some { reference := "#/gone", id := "/", choices := ["b"] }),("old",none)]
    links := [{ title := "all", rel := "self", method := "GET", href := "/cards"
                schema := some { declaration := some (.other .null), description := "body" } }] }

theorem cardsAlike : "card" ≠ "" ∧ Alike bareCard filledCard ∧
    ∃ r x, registration? "card" (some filledCard) {} = .ok (r,x) ∧
      x.faults = some [.propertyIncorrect "card/links/0" "type" "Other(Null)",
        .property "card/links/0" "$ref" .nil,.property "card/links/0" "type" .nil,
        .property "card" "max, maxValue" .conflicted,.property "card" "items" .nil] ∧
      r.validate = [.invalidRef "card/properties/next" "#/gone"] := by
  have present : "card" ≠ "" := by decide
  have next : Alike (.referring "#/gone") { reference := "#/gone", id := "/", choices := ["b"] } :=
    .node rfl rfl rfl rfl rfl rfl .nil .nil .absent .nil
  have body : Alike { declaration := some (.other .null) }
      { declaration := some (.other .null), description := "body" } :=
    .node rfl rfl rfl rfl rfl rfl .nil .nil .absent .nil
  have alike : Alike bareCard filledCard :=
    .node rfl rfl rfl rfl rfl rfl .nil (.cons (.present next) (.cons .absent .nil)) .absent
      (.cons (.present body) .nil)
  have bare : (registration? "card" (some bareCard) {}).toOption.map (fun e => (e.2.faults,e.1.validate)) =
      some (some [.propertyIncorrect "card/links/0" "type" "Other(Null)",
          .property "card/links/0" "$ref" .nil,.property "card/links/0" "type" .nil,
          .property "card" "max, maxValue" .conflicted,.property "card" "items" .nil],
        [.invalidRef "card/properties/next" "#/gone"]) := by decide +kernel
  obtain ⟨ra,xa,rb,xb,one,two,faults,_,_,_,valid⟩ := annotationsUnchecked present alike {}
  rw [one] at bare
  simp only [Except.toOption,Option.map_some,Option.some.injEq,Prod.mk.injEq] at bare
  exact ⟨present,alike,rb,xb,two,faults.symm.trans bare.1,valid.symm.trans bare.2⟩

end Registry
end SchemaCheck
