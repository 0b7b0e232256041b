import SchemaCheck.Proofs.JsonPlaces
import SchemaCheck.Proofs.Reading
import SchemaCheck.Proofs.WrongTypes

/-! The values in a JSON tree. What is read as data is the value that the tree holds, whatever the depth that is
left; so a schema declares the value of its `type`, and a schema whose `type` is null declares nothing. -/
namespace SchemaCheck

namespace Json

namespace Tree

mutual

def value? : Tree → Option Value
  | array items none => (itemValues? items).map .array
  | object members none => (memberValues? members).map fun es => .object (Entries.ofList es)
  | t => t.scalar?

def itemValues? : List Tree → Option (List Value)
  | [] => some []
  | t :: ts => do
    let v ← value? t
    let vs ← itemValues? ts
    some (v :: vs)

def memberValues? : List (Tree × Tree) → Option (List (String × Value))
  | [] => some []
  | (string (.ok name),t) :: ms => do
    let v ← value? t
    let es ← memberValues? ms
    some ((name,v) :: es)
  | _ :: _ => none

end

theorem itemValuesEach {ts : List Tree} {vs : List Value}
    (each : List.Forall₂ (fun t v => value? t = some v) ts vs) : itemValues? ts = some vs := by
  induction each with
  | nil => rfl
  | cons here _ ih => simp only [itemValues?,here,ih,Option.bind_eq_bind,Option.bind_some]

theorem memberValuesEach {ms : List (Tree × Tree)} {es : List (String × Value)}
    (each : List.Forall₂ (fun m e => m.1 = .string (.ok e.1) ∧ value? m.2 = some e.2) ms es) :
    memberValues? ms = some es := by
  induction each with
  | nil => rfl
  | @cons m e _ _ here _ ih =>
    obtain ⟨key,v⟩ := m
    obtain ⟨rfl,value⟩ := here
    simp only [memberValues?,value,ih,Option.bind_eq_bind,Option.bind_some]

end Tree

theorem stoppedNone {why : Stop → Fault} {stop : Option Stop} {x : Unit}
    (ended : Tree.stopped why stop = .ok x) : stop = none := by
  cases stop with
  | none => rfl
  | some s => contradiction

inductive Opened : Tree → Shape (Except Fault) Tree → Prop where
  | scalar {t : Tree} {v : Value} (value : t.value? = some v) : Opened t (.scalar v)
  | array (items : List Tree) (stop : Option Stop) :
      Opened (.array items stop) (.sequence ⟨items,Tree.stopped Stop.wanted stop⟩)
  | object (members : List (Tree × Tree)) (stop : Option Stop) :
      Opened (.object members stop) (.map ⟨members,Tree.stopped Stop.wanted stop⟩)

theorem opened {t : Tree} {shape : Shape (Except Fault) Tree} (given : t.shape = .ok shape) :
    Opened t shape := by
  unfold Tree.shape at given
  split at given <;> cases given <;> first | exact .scalar rfl | exact .array .. | exact .object ..

theorem valueOpened {depth : Nat} {t : Tree} {v : Value} (read : reader.readValue Tree.text depth t = .ok v) :
    ∃ shape, Opened t shape ∧ reader.readShape Tree.text depth shape = .ok v := by
  rw [Reader.valueEqual] at read
  obtain ⟨_,same,read⟩ := bindOk.mp read
  cases same
  obtain ⟨shape,given,read⟩ := bindOk.mp read
  exact ⟨shape,opened given,read⟩

theorem entryRead {depth : Nat} {m : Tree × Tree} {e : String × Value}
    (read : reader.readEntry Tree.text depth m = .ok e) :
    m.1 = .string (.ok e.1) ∧ reader.readValue Tree.text depth m.2 = .ok e.2 := by
  obtain ⟨_,same,read⟩ := bindOk.mp read
  cases same
  obtain ⟨name,named,read⟩ := bindOk.mp read
  obtain ⟨v,value,last⟩ := bindOk.mp read
  cases last
  exact ⟨keyRead named,value⟩

theorem valueRead {depth : Nat} {t : Tree} {v : Value} (read : reader.readValue Tree.text depth t = .ok v) :
    t.value? = some v := by
  induction depth generalizing t v with
  | zero =>
    obtain ⟨shape,given,read⟩ := valueOpened read
    cases given with
    | scalar value => exact value.trans (congrArg some (Except.ok.inj read))
    | array => contradiction
    | object => contradiction
  | succ depth ih =>
    obtain ⟨shape,given,read⟩ := valueOpened read
    cases given with
    | scalar value => exact value.trans (congrArg some (Except.ok.inj read))
    | array items stop =>
      obtain ⟨vs,each,read⟩ := bindOk.mp read
      obtain ⟨_,ended,last⟩ := bindOk.mp read
      cases last
      cases stoppedNone ended
      rw [Tree.value?,Tree.itemValuesEach ((mapMRead each).imp fun _ _ => ih)]
      rfl
    | object members stop =>
      obtain ⟨es,each,read⟩ := bindOk.mp read
      obtain ⟨_,ended,last⟩ := bindOk.mp read
      cases last
      cases stoppedNone ended
      rw [Tree.value?,Tree.memberValuesEach ((mapMRead each).imp fun _ _ run => (entryRead run).imp_right ih)]
      rfl

theorem declarationFrom {o : Option Tree} {t : Option Declaration}
    (filled : Filled (fun depth => reader.optional (reader.readDeclaration depth)) none o t) :
    Option.Rel (fun m t => ∃ v, m.value? = some v ∧ t = .ofValue v) (o.filter (!·.isNull)) t := by
  refine relatedMono ?_ (optionalFrom filled)
  rintro m t ⟨depth,read⟩
  have mapped : Declaration.ofValue <$> reader.readValue Tree.text depth m = .ok t := read
  cases given : reader.readValue Tree.text depth m with
  | error f =>
    rw [given] at mapped
    contradiction
  | ok v =>
    rw [given] at mapped
    cases mapped
    exact ⟨v,valueRead given,rfl⟩

namespace Tree

def typeAt? (path : List Step) (t : Tree) : Option Tree := (t.schema? path).bind (part? .declaration)

end Tree

/-- A document with the tree it is read from, that of a text or of data in memory. -/
inductive Source : Tree → Document → Prop where
  | text {content : Bytes} {t : Tree} {rest : Option Bytes} {d : Document}
      (bytes : Tree.ofBytes content = (t,rest)) (parsed : SourceFormat.json.parse content = .ok d) : Source t d
  | data {v : Value} {d : Document} (read : documentOfValue v = .ok d) : Source (Tree.ofValue v) d

theorem documentParsed {content : Bytes} {d : Document} :
    SourceFormat.json.parse content = .ok d ↔ readDocument content = .ok d := by
  cases read : readDocument content <;> simp [SourceFormat.parse,read]

theorem Source.read {t : Tree} {d : Document} (source : Source t d) :
    ∃ depth, reader.readDocument depth t = .ok d := by
  cases source with
  | text bytes parsed =>
    exact ⟨depthLimit,((SourceFormat.wholeExact bytes _ _).mp (documentParsed.mp parsed)).1⟩
  | data read => exact ⟨_,read⟩

theorem Source.tabled {t : Tree} {d : Document} (source : Source t d) : d.Tabled := by
  obtain ⟨depth,read⟩ := source.read
  have stops : ∀ {β : Type} (P : β → Prop) (f : Fault), SatisfiesM P (throw f : Except Fault β) :=
    fun P f => ⟨throw f,rfl⟩
  exact SatisfiesM_Except_eq.mp (Reader.documentGives stops (depth + 1) depth t) d read

open Document (at?)

section
variable {t : Tree} {d : Document} (source : Source t d) {path : List Step}
include source

theorem typeReads (path : List Step) :
    Option.Rel (fun m t => ∃ v, m.value? = some v ∧ t = .ofValue v) ((t.typeAt? path).filter (!·.isNull))
      ((at? path d).bind Document.declaration) := by
  obtain ⟨depth,read⟩ := source.read
  rw [Tree.typeAt?,filterBind]
  refine relatedBind (schemaReads read) ?_
  rintro n e ⟨fuel,depth,read⟩
  cases fuel with
  | zero => contradiction
  | succ fuel => exact declarationFrom (partRead declarationField read)

theorem typeDeclared {m : Tree} (type : t.typeAt? path = some m) :
    ∃ v e, m.value? = some v ∧ at? path d = some e ∧
      ((m = .null ∧ e.declaration = none) ∨ (m ≠ .null ∧ e.declaration = some (.ofValue v))) := by
  obtain ⟨depth,read⟩ := source.read
  obtain ⟨n,schema,_⟩ := Option.bind_eq_some_iff.mp type
  have placed : Reads (t.schema? path) (at? path d) := schemaReads read
  rw [schema] at placed
  obtain ⟨e,place,_⟩ := relatedLeft placed
  have declared := typeReads source path
  rw [type,place,Option.bind_some] at declared
  by_cases null : m = .null
  · subst null
    have nothing : e.declaration = none := relatedNone declared
    exact ⟨.null,e,rfl,place,Or.inl ⟨rfl,nothing⟩⟩
  · have given : Option.filter (!·.isNull) (some m) = some m := by
      cases m <;> first | rfl | contradiction
    rw [given] at declared
    obtain ⟨_,declaration,v,value,rfl⟩ := relatedLeft declared
    exact ⟨v,e,value,place,Or.inr ⟨null,declaration⟩⟩

theorem declaredType {e : Document} (place : at? path d = some e) {x : Declaration}
    (declared : e.declaration = some x) :
    ∃ m v, t.typeAt? path = some m ∧ m ≠ .null ∧ m.value? = some v ∧ x = .ofValue v := by
  have read := typeReads source path
  rw [place,Option.bind_some,declared] at read
  obtain ⟨m,type,v,value,rfl⟩ := relatedRight read
  obtain ⟨type,given⟩ := Option.filter_eq_some_iff.mp type
  refine ⟨m,v,type,?_,value,rfl⟩
  rintro rfl
  contradiction

end

end Json
end SchemaCheck
