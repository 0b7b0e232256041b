import Mathlib
import SchemaCheck.Proofs.Calls
import SchemaCheck.Proofs.JsonTypes
import SchemaCheck.Proofs.YamlTypes
import SchemaCheck.SourceFormat

/-! Texts with `type` members added, in either notation. What can be kept as data never stands in the way of
the rest of its document: a declaration of a wrong shape is a fault of its node, and none of the file. -/
namespace SchemaCheck
open Document

/-- How often aliases are followed is limited. A text keeps within the limit if a larger one would make no
difference. -/
def Yaml.Graph.WithinLimit (g : Graph) : Prop :=
  ∀ n ∈ g.root, ∀ extra d left,
    ((reader g.anchors).readDocument depthLimit n).run (followLimit * g.anchors.place + extra) =
        .ok (d,left) →
      g.read {} (fun r n => r.readDocument depthLimit n) = .ok d

namespace SourceFormat

/-- The second text is the first with `type` members added at the schemas that `added` names. A YAML text
without a root, or with an empty one, is an empty schema; what is added to a YAML text has no aliases, or
else they keep within the limit. -/
inductive TypeAdded (added : Additions) : SourceFormat → List UInt8 → List UInt8 → Prop where
  | json {content content' : List UInt8} {t t' : Json.Tree} {rest rest' : Option (List UInt8)}
      (old : Json.Tree.ofBytes content = (t,rest)) (new : Json.Tree.ofBytes content' = (t',rest'))
      (ended : Json.dropSpace (rest'.getD []) = [])
      (grown : Json.layout.Grown Json.depthLimit (.schema added) t t') : TypeAdded added json content content'
  | yaml {content content' : List UInt8} {n n' : Yaml.Node} {a a' : Yaml.Anchors} {K : AddSubmonoid Nat}
      (old : Yaml.Graph.ofBytes? content = some ⟨some n,a⟩)
      (new : Yaml.Graph.ofBytes? content' = some ⟨some n',a'⟩) (longer : a.place ≤ a'.place)
      (limited : K = ⊥ ∨ Yaml.Graph.WithinLimit ⟨some n',a'⟩)
      (grown : (Yaml.layout K a a').Grown Yaml.depthLimit (.schema added) n n') :
      TypeAdded added yaml content content'
  | yamlEmpty {content content' : List UInt8} {tag keyTag : Option String} {style : Yaml.Style}
      {v : Yaml.Node} {g : Yaml.Graph} {a' : Yaml.Anchors} {K : AddSubmonoid Nat}
      {declared : Option Declaration} (given : added [] = some declared)
      (old : Yaml.Graph.ofBytes? content = some g) (empty : ∀ n ∈ g.root, ∃ tag, n = .scalar tag "" .plain)
      (new : Yaml.Graph.ofBytes? content' = some ⟨some (.mapping tag [(.scalar keyTag "type" style,v)]),a'⟩)
      (longer : g.anchors.place ≤ a'.place)
      (limited : K = ⊥ ∨ Yaml.Graph.WithinLimit ⟨some (.mapping tag [(.scalar keyTag "type" style,v)]),a'⟩)
      (value : (Yaml.dataLayout K a').Declares (Yaml.depthLimit - 1) v declared) :
      TypeAdded added yaml content content'

variable {added : Additions} {content content' : List UInt8} {d : Document}

theorem wholeExact {α : Type} {t : Json.Tree} {rest : Option (List UInt8)}
    (bytes : Json.Tree.ofBytes content = (t,rest)) (read : Json.Tree → Except Json.Fault α) (x : α) :
    Json.whole read content = .ok x ↔ read t = .ok x ∧ Json.dropSpace (rest.getD []) = [] := by
  unfold Json.whole
  rw [bytes]
  dsimp only
  cases read t with
  | error f => simp [bind,Except.bind]
  | ok y =>
    cases Json.dropSpace (rest.getD []) with
    | nil => simp [bind,Except.bind,pure,Except.pure]
    | cons => simp [bind,Except.bind,throw,throwThe,MonadExceptOf.throw]

theorem jsonKept {t t' : Json.Tree} {rest rest' : Option (List UInt8)}
    (old : Json.Tree.ofBytes content = (t,rest)) (new : Json.Tree.ofBytes content' = (t',rest'))
    (ended : Json.dropSpace (rest'.getD []) = [])
    (grown : Json.layout.Grown Json.depthLimit (.schema added) t t')
    (parsed : Json.readDocument content = .ok d) : Json.readDocument content' = .ok (d.retype added) := by
  have read := ((wholeExact old _ d).mp parsed).1
  obtain ⟨d',rfl,k,-,given⟩ := (Json.layoutRead (K := ⊥)).documentRead _ grown 0 d 0 ⟨read,rfl⟩
  exact (wholeExact new _ _).mpr ⟨(given 0).1,ended⟩

theorem graphKept {n n' : Yaml.Node} {a a' : Yaml.Anchors} {K : AddSubmonoid Nat}
    (longer : a.place ≤ a'.place) (limited : K = ⊥ ∨ Yaml.Graph.WithinLimit ⟨some n',a'⟩)
    (follows : Follows K (fun d d' => d' = d.retype added) ((Yaml.reader a).readDocument Yaml.depthLimit n)
      ((Yaml.reader a').readDocument Yaml.depthLimit n'))
    (parsed : Yaml.Graph.read {} (fun r n => r.readDocument Yaml.depthLimit n) ⟨some n,a⟩ = .ok d) :
    Yaml.Graph.read {} (fun r n => r.readDocument Yaml.depthLimit n) ⟨some n',a'⟩ = .ok (d.retype added) := by
  obtain ⟨more,budget⟩ := Nat.exists_eq_add_of_le (Nat.mul_le_mul_left Yaml.followLimit longer)
  cases read : ((Yaml.reader a).readDocument Yaml.depthLimit n).run (Yaml.followLimit * a.place) with
  | error e =>
    simp only [Yaml.Graph.read,read] at parsed
    contradiction
  | ok found =>
    obtain ⟨x,left⟩ := found
    simp only [Yaml.Graph.read,read] at parsed
    cases parsed
    obtain ⟨d',rfl,k,used,given⟩ := follows _ x left read
    have run : ((Yaml.reader a').readDocument Yaml.depthLimit n').run (Yaml.followLimit * a'.place + k) =
        .ok (x.retype added,left + more) := by
      rw [budget]
      exact given more
    rcases limited with rfl | within
    · cases AddSubmonoid.mem_bot.mp used
      simp only [Yaml.Graph.read]
      rw [← Nat.add_zero (Yaml.followLimit * a'.place),run]
      rfl
    · exact within n' rfl k _ _ run

theorem emptyRead {g : Yaml.Graph} (empty : ∀ n ∈ g.root, ∃ tag, n = .scalar tag "" .plain) :
    ∃ tag, g.read {} (fun r n => r.readDocument Yaml.depthLimit n) =
      Yaml.Graph.read {} (fun r n => r.readDocument Yaml.depthLimit n)
        ⟨some (.scalar tag "" .plain),g.anchors⟩ := by
  obtain ⟨root,a⟩ := g
  cases root with
  | none => exact ⟨none,rfl⟩
  | some n =>
    obtain ⟨tag,rfl⟩ := empty n rfl
    exact ⟨tag,rfl⟩

theorem documentKept {format : SourceFormat} (parsed : format.parse content = .ok d)
    (more : format.TypeAdded added content content') : format.parse content' = .ok (d.retype added) := by
  have yamlParsed : ∀ content d, yaml.parse content = .ok d ↔ Yaml.readDocument content = .ok d := by
    intro content d
    cases read : Yaml.readDocument content <;> simp [parse,read]
  have jsonParsed : ∀ content d, json.parse content = .ok d ↔ Json.readDocument content = .ok d := by
    intro content d
    cases read : Json.readDocument content <;> simp [parse,read]
  cases more with
  | json old new ended grown =>
    rw [jsonParsed] at parsed ⊢
    exact jsonKept old new ended grown parsed
  | yaml old new longer limited grown =>
    rw [yamlParsed] at parsed ⊢
    rw [Yaml.readDocument,Yaml.readWith,old] at parsed
    rw [Yaml.readDocument,Yaml.readWith,new]
    exact graphKept longer limited (Yaml.layoutRead.documentRead _ grown) parsed
  | yamlEmpty given old empty new longer limited value =>
    rw [yamlParsed] at parsed ⊢
    rw [Yaml.readDocument,Yaml.readWith,old] at parsed
    rw [Yaml.readDocument,Yaml.readWith,new]
    obtain ⟨tag,same⟩ := emptyRead empty
    have itself : ∀ {a n}, (∀ k, n ≠ .alias k) → Yaml.Stands a n 0 n := fun plain => ⟨.itself plain,plain⟩
    refine graphKept longer limited ?_ (same.symm.trans parsed)
    exact Yaml.layoutRead.blankRead given (itself (by simp)) (itself (by simp)) rfl ⟨_,rfl⟩
      (itself (by simp)) ⟨_,_,rfl⟩ value _

/-- Where a text gives a document, the text with `type` members added gives the same document with what they
declare put in place. A declaration that is neither a name nor a list of names is kept as the value it is,
and it is reported for its node whenever the document is registered. -/
theorem wrongTypesReported {format : SourceFormat} (parsed : format.parse content = .ok d)
    (more : format.TypeAdded added content content') :
    format.parse content' = .ok (d.retype added) ∧
      ∀ path e v, at? path d = some e → added path = some (some (.ofValue v)) → (∀ s, v ≠ .string s) →
        (∀ names : List String, v ≠ .array (names.map .string)) →
          (∃ e', at? path (d.retype added) = some e' ∧ e'.declaration = some (.other v)) ∧
          ∀ id r, id ≠ "" → ∃ r' result,
            Registry.registration? id (some (d.retype added)) r = .ok (r',result) ∧
            .propertyIncorrect (path.foldl Step.apply id) "type" ("Other(" ++ v.dump ++ ")") ∈
              result.faults.getD [] := by
  refine ⟨documentKept parsed more,?_⟩
  intro path e v found declared name names
  rw [Declaration.otherShape name names] at declared
  refine ⟨⟨e.retype fun later => added (path ++ later),?_,?_⟩,?_⟩
  · rw [atRetyped,found]
    rfl
  · cases e
    simp [retype,declared]
  · intro id r present
    refine ⟨_,_,Registry.registrationCall present (d.retype added) r,?_⟩
    rw [Fault.foundDefault]
    exact Registry.wrongTypeReported found declared id r

def mixed : Value := .object [("a",.array [.bool true])]

def atItems : Additions
  | [.items] => some (some (.ofValue mixed))
  | _ => none

def atRoot : Additions
  | [] => some (some (.ofValue mixed))
  | _ => none

def plainItems : List UInt8 := "\x7b\"items\": \x7b\x7d\x7d".toUTF8.toList

def mixedItems : List UInt8 := "\x7b\"items\": \x7b\"type\": \x7b\"a\": [true]\x7d\x7d\x7d".toUTF8.toList

def mixedRoot : List UInt8 := "type: \x7ba: [true]\x7d".toUTF8.toList

def mixedTree : Json.Tree := .object [(.string (.ok "a"),.array [.bool true] none)] none

def mixedNode : Yaml.Node :=
  .mapping none [(.scalar none "a" .plain,.sequence none [.scalar none "true" .plain])]

def itemsTree (ms : List (Json.Tree × Json.Tree)) : Json.Tree :=
  .object [(.string (.ok "items"),.object ms none)] none

theorem mixedDeclared : Json.dataLayout.Declares 125 mixedTree (some (.ofValue mixed)) := by
  have itself : ∀ {t}, Json.dataLayout.leads t 0 t := ⟨rfl,rfl⟩
  have one : Json.dataLayout.Holds 123 (.bool true) (.bool true) := ⟨0,_,itself,Or.inl rfl⟩
  have list : Json.dataLayout.Holds 124 (.array [.bool true] none) (.array [.bool true]) :=
    ⟨0,_,itself,Or.inr (.list rfl (.cons one .nil))⟩
  have object : Json.dataLayout.Holds 125 mixedTree (.object (Entries.ofList [("a",.array [.bool true])])) :=
    ⟨0,_,itself,Or.inr (.object rfl (.cons ⟨⟨0,_,itself,rfl⟩,list⟩ .nil))⟩
  exact .something itself nofun object

theorem itemsAdded : json.TypeAdded atItems plainItems mixedItems := by
  let member : Json.Tree × Json.Tree := (.string (.ok "type"),mixedTree)
  have before : Json.layout.members (.object [] none) ([] ++ []) := rfl
  have after : Json.layout.members (.object [member] none) ([] ++ member :: []) := rfl
  have items : Json.layout.Grown 126 (.schema (atItems.below .items)) (.object [] none)
      (.object [member] none) :=
    .opened ⟨rfl,rfl⟩ ⟨rfl,rfl⟩ (.typed rfl before after ⟨rfl,rfl⟩ rfl mixedDeclared .nil .nil)
  have key : Json.layout.Key (.string (.ok "items")) (.string (.ok "items")) "items" :=
    ⟨0,_,_,⟨rfl,rfl⟩,⟨rfl,rfl⟩,rfl,rfl⟩
  have known : Keyword.ofText? "items" = some .items := Keyword.parsedText .items
  have each : Json.layout.SchemaMembers (Json.layout.Grown 126) atItems (fun _ => True)
      [(.string (.ok "items"),.object [] none)] [(.string (.ok "items"),.object [member] none)] := by
    refine .cons ⟨"items",trivial,key,?_⟩ .nil
    rw [known]
    exact items
  have root : Json.layout.Grown 127 (.schema atItems) (itemsTree []) (itemsTree [member]) :=
    .opened ⟨rfl,rfl⟩ ⟨rfl,rfl⟩ (.schema rfl rfl rfl each)
  have old : Json.Tree.ofBytes plainItems = (itemsTree [],some []) := by cbv
  have new : Json.Tree.ofBytes mixedItems = (itemsTree [member],some []) := by cbv
  exact .json old new rfl root

theorem emptyGraph : Yaml.Graph.ofBytes? "".toUTF8.toList = some ⟨none,{}⟩ :=
  Yaml.graphRead "" [.streamEnd] (by cbv) (by cbv) (by cbv) rfl

theorem mixedGraph : Yaml.Graph.ofBytes? mixedRoot =
    some ⟨some (.mapping none [(.scalar none "type" .plain,mixedNode)]),{ place := 9 }⟩ := by
  refine Yaml.graphRead "type: \x7ba: [true]\x7d" [.blockMappingStart,.key,.scalar "type" .plain,.value,
    .flowMappingStart,.key,.scalar "a" .plain,.value,.flowSequenceStart,.scalar "true" .plain,
    .flowSequenceEnd,.flowMappingEnd,.blockEnd,.streamEnd] ?_ ?_ ?_ ?_
  · cbv
  · cbv
  · cbv
  · rfl

theorem rootAdded : yaml.TypeAdded atRoot "".toUTF8.toList mixedRoot := by
  let D := Yaml.dataLayout ⊥ { place := 9 }
  have itself : ∀ {n}, (∀ k, n ≠ .alias k) → D.leads n 0 n := fun plain => ⟨.itself plain,rfl⟩
  have one : D.Holds 125 (.scalar none "true" .plain) (.bool true) :=
    ⟨0,_,itself (by simp),Or.inl ⟨_,_,_,rfl,rfl⟩⟩
  have list : D.Holds 126 (.sequence none [.scalar none "true" .plain]) (.array [.bool true]) :=
    ⟨0,_,itself (by simp),Or.inr (.list ⟨_,rfl,rfl⟩ (.cons one .nil))⟩
  have name : D.Named (.scalar none "a" .plain) "a" := ⟨0,_,itself (by simp),_,_,_,rfl,by cbv⟩
  have object : D.Holds 127 mixedNode (.object (Entries.ofList [("a",.array [.bool true])])) :=
    ⟨0,_,itself (by simp [mixedNode]),Or.inr (.object ⟨_,rfl,rfl⟩ (.cons ⟨name,list⟩ .nil))⟩
  have given : ¬ D.null mixedNode := by simp [D,Yaml.dataLayout,mixedNode]
  have declares : D.Declares 127 mixedNode (some (.ofValue mixed)) :=
    .something (itself (by simp [mixedNode])) given object
  exact .yamlEmpty rfl emptyGraph (by simp) mixedGraph (Nat.zero_le _) (Or.inl rfl) declares

theorem plainParsed : json.parse plainItems = .ok { items := some {} } := by
  have bytes : Json.Tree.ofBytes plainItems = (itemsTree [],some []) := by cbv
  have read : Json.readDocument plainItems = .ok { items := some {} } :=
    (wholeExact bytes _ _).mpr ⟨by cbv,rfl⟩
  simp only [parse,read]

theorem emptyParsed : yaml.parse "".toUTF8.toList = .ok {} := by
  simp only [parse,Yaml.readDocument,Yaml.readWith,emptyGraph,Yaml.Graph.read]

theorem mixedReported :
    json.parse mixedItems = .ok { items := some { declaration := some (.other mixed) } } ∧
    yaml.parse mixedRoot = .ok { declaration := some (.other mixed) } ∧
    ∃ r' result,
      Registry.registration? "a" (some { items := some { declaration := some (.other mixed) } }) {} =
        .ok (r',result) ∧
      .propertyIncorrect "a/items" "type" "Other(Object \x7b\"a\": Array [Bool(true)]\x7d)" ∈
        result.faults.getD [] := by
  obtain ⟨items,reported⟩ := wrongTypesReported plainParsed itemsAdded
  obtain ⟨root,_⟩ := wrongTypesReported emptyParsed rootAdded
  refine ⟨items,root,?_⟩
  exact (reported [.items] {} mixed rfl rfl nofun nofun).2 "a" {} (by decide)

theorem rootHeld {b t : Nat} {tag keyTag : Option String} {style : Yaml.Style}
    {xs : List (Yaml.Node × Yaml.Node)} {v : Yaml.Node} {a : Yaml.Anchors}
    (member : (.scalar keyTag "type" style,v) ∈ xs)
    (read : ends ((Yaml.reader a).readDocument Yaml.depthLimit (.mapping tag xs)) b d t) :
    ∃ declared, (Yaml.dataLayout ⊤ a).Declares (Yaml.depthLimit - 1) v declared := by
  have known : Keyword.ofText? "type" = some .declaration := Keyword.parsedText .declaration
  have keyed : ends ((Yaml.reader a).readKeyed Keyword.ofText?
      ((Yaml.reader a).readMember ((Yaml.reader a).readDocumentWithin 128) 127) {} ⟨xs,pure ()⟩) b d t := read
  rw [Reader.keyedEqual] at keyed
  obtain ⟨s,u,fold,_⟩ := endsBind.mp keyed
  obtain ⟨s,s',b,t,step⟩ := foldlMEnds member fold
  obtain ⟨name,u,key,later⟩ := endsBind.mp step
  have here : (Yaml.reader a).readKey (.scalar keyTag "type" style) = pure "type" := rfl
  rw [here] at key
  obtain ⟨rfl,rfl⟩ := endsPure.mp key
  rw [known] at later
  dsimp only at later
  split at later
  · exact absurd later endsThrow
  · obtain ⟨_,_,member,_⟩ := endsBind.mp later
    obtain ⟨declared,_,declares,_⟩ := endsBind.mp member
    exact ⟨declared,Yaml.declaresExact.mp ⟨_,_,declares⟩⟩

theorem unheldRefused {tag keyTag : Option String} {style : Yaml.Style} {xs : List (Yaml.Node × Yaml.Node)}
    {v : Yaml.Node} {a : Yaml.Anchors} (graph : Yaml.Graph.ofBytes? content = some ⟨some (.mapping tag xs),a⟩)
    (member : (.scalar keyTag "type" style,v) ∈ xs)
    (unheld : ∀ declared, ¬ (Yaml.dataLayout ⊤ a).Declares (Yaml.depthLimit - 1) v declared) :
    yaml.parse content = .error (.unsupportedFile (some (@Cause.yaml content))) := by
  cases read : Yaml.readDocument content with
  | error e => simp only [parse,read]
  | ok d =>
    rw [Yaml.readDocument,Yaml.readWith,graph] at read
    cases run : ((Yaml.reader a).readDocument Yaml.depthLimit (.mapping tag xs)).run
        (Yaml.followLimit * a.place) with
    | error e =>
      simp only [Yaml.Graph.read,run] at read
      contradiction
    | ok found =>
      obtain ⟨declared,declares⟩ := rootHeld member (t := found.2) run
      exact absurd declares (unheld declared)

def numberedNode : Yaml.Node := .mapping none [(.scalar none "1" .plain,.scalar none "2" .plain)]

def numberedRoot : List UInt8 := "type: \x7b1: 2\x7d".toUTF8.toList

theorem numberUnnamed (a : Yaml.Anchors) (name : String) :
    ¬ (Yaml.dataLayout ⊤ a).Named (.scalar none "1" .plain) name := by
  rintro ⟨c,t,⟨leads,_⟩,named⟩
  cases leads
  have failed : ((Yaml.Node.declarationKey (.scalar none "1" .plain)).run 0).isOk = false := by decide +kernel
  have read : Yaml.Node.declarationKey (.scalar none "1" .plain) = pure name := Yaml.dataRead.name named
  rw [read] at failed
  contradiction

theorem numberedRefused :
    yaml.parse "".toUTF8.toList = .ok {} ∧
    Yaml.Graph.ofBytes? numberedRoot =
      some ⟨some (.mapping none [(.scalar none "type" .plain,numberedNode)]),{ place := 7 }⟩ ∧
    yaml.parse numberedRoot = .error (.unsupportedFile (some (@Cause.yaml numberedRoot))) := by
  have graph : Yaml.Graph.ofBytes? numberedRoot =
      some ⟨some (.mapping none [(.scalar none "type" .plain,numberedNode)]),{ place := 7 }⟩ := by
    refine Yaml.graphRead "type: \x7b1: 2\x7d" [.blockMappingStart,.key,.scalar "type" .plain,.value,
      .flowMappingStart,.key,.scalar "1" .plain,.value,.scalar "2" .plain,.flowMappingEnd,.blockEnd,
      .streamEnd] ?_ ?_ ?_ ?_
    · cbv
    · cbv
    · cbv
    · rfl
  have unheld : ∀ declared, ¬ (Yaml.dataLayout ⊤ { place := 7 }).Declares 127 numberedNode declared :=
    Yaml.unnamedUnheld List.mem_cons_self (numberUnnamed { place := 7 })
  exact ⟨emptyParsed,graph,unheldRefused graph List.mem_cons_self unheld⟩

end SourceFormat
end SchemaCheck
