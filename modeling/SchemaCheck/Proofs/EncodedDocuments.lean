import SchemaCheck.Document.Encode
import SchemaCheck.Proofs.EncodedData

/-! Documents written and read back. What is left out is what a document has by default, and a null entry is
one without a schema; so a document comes back at every depth, as long as nothing in it is written as
something else. -/
namespace SchemaCheck

/-- What is neither a name nor a list of names is not written as one, and not as nothing. -/
inductive Declaration.Faithful : Declaration → Prop where
  | name (s : String) : Faithful (.name s)
  | names (ss : List String) : Faithful (.names ss)
  | other {v : Value} (given : v ≠ .null) (name : ∀ s, v ≠ .string s)
      (names : ∀ ss : List String, v ≠ .array (ss.map .string)) : Faithful (.other v)

namespace Document

/- What any document is like in memory: tables are in order, lengths have 64 bits, and kept data is proper. -/
structure Held (d : Document) : Prop where
  definitions : Entries.Ordered d.definitions
  properties : Entries.Ordered d.properties
  lengths : d.minLength < twoPow 63 ∧ d.maxLength < twoPow 63
  declaration : ∀ v, d.declaration = some (.other v) → v.Proper
  sample : ∀ v, d.sample = some v → v.Proper

structure Faithful (d : Document) : Prop where
  bounds : ∀ b ∈ [d.min,d.minValue,d.max,d.maxValue], ∀ x, b = some x → x.isFinite = true
  sample : d.sample ≠ some .null
  declaration : ∀ t, d.declaration = some t → t.Faithful

inductive Within (d : Document) : Document → Prop where
  | definition {name : String} {c : Document} (entry : (name,some c) ∈ d.definitions) : Within d c
  | property {name : String} {c : Document} (entry : (name,some c) ∈ d.properties) : Within d c
  | items {c : Document} (items : d.items = some c) : Within d c
  | link {l : Link Document} {c : Document} (member : l ∈ d.links) (schema : l.schema = some c) : Within d c

inductive Everywhere (P : Document → Prop) : Document → Prop where
  | intro {d : Document} (own : P d) (inside : ∀ c, d.Within c → Everywhere P c) : Everywhere P d

end Document

namespace Declaration.Faithful

variable {t : Declaration}

theorem proper (faithful : t.Faithful) (held : ∀ v, t = .other v → v.Proper) : t.toValue.Proper := by
  cases faithful with
  | name s => exact .string s
  | names ss => exact Value.properTexts ss
  | other _ _ _ => exact held _ rfl

theorem given (faithful : t.Faithful) : t.toValue ≠ .null := by
  cases faithful with
  | name s => exact Value.noConfusion
  | names ss => exact Value.noConfusion
  | other given _ _ => exact given

theorem back (faithful : t.Faithful) : Declaration.ofValue t.toValue = t := by
  cases faithful with
  | name s => rfl
  | names ss =>
    have strings : Value.strings? (ss.map .string) = some ss := by
      induction ss with
      | nil => rfl
      | cons s rest ih => simp [Value.strings?,ih]
    simp only [toValue,ofValue,strings]
  | other _ name names => exact otherShape name names

end Declaration.Faithful

namespace Document

/-! ## Members -/

def linkMemberValue? (l : Link Document) : LinkKeyword → Option Value
  | .title => ofText l.title
  | .href => ofText l.href
  | .method => ofText l.method
  | .rel => ofText l.rel
  | .description => ofText l.description
  | .schema => l.schema.map toValue

def linkValue (l : Link Document) : Value :=
  .object (Entries.ofList (Json.rows LinkKeyword.text (linkMemberValue? l) LinkKeyword.all))

def entryValue (d : Option Document) : Value := (d.map toValue).getD .null

def memberValue? (d : Document) : Keyword → Option Value
  | .id => ofText d.id
  | .dialect => ofText d.dialect
  | .declaration => d.declaration.map Declaration.toValue
  | .description => ofText d.description
  | .reference => ofText d.reference
  | .sample => d.sample
  | .pattern => ofText d.pattern
  | .required => ofTexts d.required
  | .min => d.min.map Value.ofNumber
  | .minValue => d.minValue.map Value.ofNumber
  | .max => d.max.map Value.ofNumber
  | .maxValue => d.maxValue.map Value.ofNumber
  | .minLength => some (.int d.minLength)
  | .maxLength => some (.int d.maxLength)
  | .definitions => ofEntries (d.definitions.map fun e => (e.1,entryValue e.2))
  | .properties => ofEntries (d.properties.map fun e => (e.1,entryValue e.2))
  | .items => d.items.map toValue
  | .choices => ofTexts d.choices
  | .links => ofItems (d.links.map linkValue)

theorem optionalValueMap (d : Option Document) : optionalValue? d = d.map toValue := by
  cases d <;> rfl

theorem entryValuesMap (ds : Entries (Option Document)) :
    entryValues ds = ds.map fun e => (e.1,entryValue e.2) := by
  induction ds with
  | nil => rfl
  | cons e rest ih =>
    obtain ⟨name,d⟩ := e
    cases d <;> simp [entryValues,entryValue,ih]

theorem linkValuesMap (ls : List (Link Document)) : linkValues ls = ls.map linkValue := by
  induction ls with
  | nil => rfl
  | cons l rest ih =>
    simp only [linkValues,ih,List.map_cons,linkValue,Json.rows,List.filterMap_eq_flatMap_toList,LinkKeyword.all,
      List.flatMap_cons,List.flatMap_nil,linkMemberValue?,optionalValueMap,List.append_assoc,List.append_nil]

theorem valueMembers (d : Document) :
    d.toValue = .object (Entries.ofList (Json.rows Keyword.text d.memberValue? Keyword.all)) := by
  cases d
  simp only [toValue,Json.rows,List.filterMap_eq_flatMap_toList,Keyword.all,List.flatMap_cons,List.flatMap_nil,
    memberValue?,member,optionalValueMap,entryValuesMap,linkValuesMap,List.append_assoc,List.append_nil]

theorem writtenMembers (d : Document) : ∃ members : List (String × Value), d.toValue = .object members ∧
    Entries.Ordered members ∧
    ∀ name v, (name,v) ∈ members ↔ ∃ k : Keyword, k.text = name ∧ d.memberValue? k = some v := by
  have once : ((Json.rows Keyword.text d.memberValue? Keyword.all).map Prod.fst).Nodup :=
    Json.rowsOnce Keyword.parsedText (by decide)
  refine ⟨_,d.valueMembers,Entries.orderedOfList _,fun name v => ?_⟩
  rw [(Entries.ofListPerm once).mem_iff]
  exact Json.rowExact Keyword.memberAll

theorem presentGiven {empty : Prop} [Decidable empty] {v w : Value}
    (given : (if empty then none else some w) = some v) : v = w := by
  split at given
  · contradiction
  · exact (Option.some.inj given).symm

theorem textGiven {s : String} {v : Value} (given : ofText s = some v) : v = .string s := presentGiven given

theorem textsGiven {ss : List String} {v : Value} (given : ofTexts ss = some v) :
    v = .array (ss.map .string) := presentGiven given

theorem entriesGiven {members : List (String × Value)} {v : Value} (given : ofEntries members = some v) :
    v = .object members := presentGiven given

theorem itemsGiven {items : List Value} {v : Value} (given : ofItems items = some v) : v = .array items :=
  presentGiven given

theorem optionGiven {x : Option α} {write : α → Value} {v : Value} (value : x.map write = some v) :
    v = (x.map write).getD .null := by
  rw [value]
  rfl

/-! ## Leaving out -/

def keep (d : Document) (met : List Keyword) : Document where
  id := if .id ∈ met then d.id else ""
  dialect := if .dialect ∈ met then d.dialect else ""
  declaration := if .declaration ∈ met then d.declaration else none
  description := if .description ∈ met then d.description else ""
  reference := if .reference ∈ met then d.reference else ""
  sample := if .sample ∈ met then d.sample else none
  pattern := if .pattern ∈ met then d.pattern else ""
  required := if .required ∈ met then d.required else []
  min := if .min ∈ met then d.min else none
  minValue := if .minValue ∈ met then d.minValue else none
  max := if .max ∈ met then d.max else none
  maxValue := if .maxValue ∈ met then d.maxValue else none
  minLength := if .minLength ∈ met then d.minLength else 0
  maxLength := if .maxLength ∈ met then d.maxLength else 0
  definitions := if .definitions ∈ met then d.definitions else []
  properties := if .properties ∈ met then d.properties else []
  items := if .items ∈ met then d.items else none
  choices := if .choices ∈ met then d.choices else []
  links := if .links ∈ met then d.links else []

def put (d : Document) (k : Keyword) (e : Document) : Document :=
  match k with
  | .id => { e with id := d.id }
  | .dialect => { e with dialect := d.dialect }
  | .declaration => { e with declaration := d.declaration }
  | .description => { e with description := d.description }
  | .reference => { e with reference := d.reference }
  | .sample => { e with sample := d.sample }
  | .pattern => { e with pattern := d.pattern }
  | .required => { e with required := d.required }
  | .min => { e with min := d.min }
  | .minValue => { e with minValue := d.minValue }
  | .max => { e with max := d.max }
  | .maxValue => { e with maxValue := d.maxValue }
  | .minLength => { e with minLength := d.minLength }
  | .maxLength => { e with maxLength := d.maxLength }
  | .definitions => { e with definitions := d.definitions }
  | .properties => { e with properties := d.properties }
  | .items => { e with items := d.items }
  | .choices => { e with choices := d.choices }
  | .links => { e with links := d.links }

theorem putKept (d : Document) (k : Keyword) (met : List Keyword) : d.put k (d.keep met) = d.keep (k :: met) := by
  cases k <;> simp [put,keep]

def keepLink (l : Link Document) (met : List LinkKeyword) : Link Document where
  title := if .title ∈ met then l.title else ""
  href := if .href ∈ met then l.href else ""
  method := if .method ∈ met then l.method else ""
  rel := if .rel ∈ met then l.rel else ""
  description := if .description ∈ met then l.description else ""
  schema := if .schema ∈ met then l.schema else none

theorem keepWhole {d : Document} {met : List Keyword} (absent : ∀ k ∉ met, d.memberValue? k = none) :
    d.keep met = d := by
  cases d
  simp only [keep,mk.injEq,ite_eq_left_iff]
  and_intros
  all_goals
    intro unmet
    have none := absent _ unmet
    simp_all [memberValue?,ofText,ofTexts,ofEntries,ofItems]

theorem keepWholeLink {l : Link Document} {met : List LinkKeyword}
    (absent : ∀ k ∉ met, linkMemberValue? l k = none) : keepLink l met = l := by
  cases l
  simp only [keepLink,Link.mk.injEq,ite_eq_left_iff]
  and_intros
  all_goals
    intro unmet
    have none := absent _ unmet
    simp_all [linkMemberValue?,ofText]

end Document

namespace Json
open Document

variable {depth : Nat}

theorem declarationEncoded {t : Declaration} (faithful : t.Faithful) (held : ∀ v, t = .other v → v.Proper)
    (deep : t.toValue.nesting ≤ depth) :
    reader.readDeclaration depth (Tree.ofValue t.toValue) = .ok t := by
  show Declaration.ofValue <$> reader.readValue Tree.text depth (Tree.ofValue t.toValue) = _
  rw [valueEncoded (faithful.proper held) deep]
  exact congrArg Except.ok faithful.back

theorem textsEncoded {ss : List String} (deep : (Value.array (ss.map .string)).nesting ≤ depth) :
    reader.readList (fun _ => reader.readText) depth (Tree.ofValue (.array (ss.map .string))) = .ok ss :=
  listEncoded deep fun s _ _ _ _ => textEncoded s

theorem boundEncoded {b : Option Binary64} (finite : ∀ x, b = some x → x.isFinite = true) :
    reader.optional reader.readNumber (Tree.ofValue ((b.map Value.ofNumber).getD .null)) = .ok b := by
  refine optionalEncoded (fun x given => ?_) fun x given => ?_
  · simp [Value.ofNumber,finite x given]
  · rw [Value.ofNumber,if_pos (finite x given)]
    exact numberEncoded x

section
variable {read : Nat → Tree → Except Fault Document} {d : Document}

theorem schemaEncoded {c : Option Document}
    (inside : ∀ e ∈ c, e.toValue.nesting ≤ depth → read depth (Tree.ofValue e.toValue) = .ok e)
    (deep : (entryValue c).nesting ≤ depth) :
    reader.optional (read depth) (Tree.ofValue (entryValue c)) = .ok c := by
  refine optionalEncoded (fun e _ => by rw [valueMembers]; exact Value.noConfusion) fun e schema => ?_
  rw [Option.mem_def.mp schema] at deep
  exact inside e schema deep

theorem sectionEncoded {ds : Entries (Option Document)} (ordered : ds.Ordered)
    (inside : ∀ e ∈ ds, ∀ c ∈ e.2, ∀ j ≤ depth, c.toValue.nesting ≤ j → read j (Tree.ofValue c.toValue) = .ok c)
    (deep : (Value.object (ds.map fun e => (e.1,entryValue e.2))).nesting ≤ depth) :
    reader.readTable (fun j => reader.optional (read j)) depth
      (Tree.ofValue (.object (ds.map fun e => (e.1,entryValue e.2)))) = .ok ds :=
  tableEncoded ordered deep fun e member j within =>
    schemaEncoded fun c schema => inside e member c schema j within.le

theorem linkMemberEncoded {l : Link Document}
    (inside : ∀ c ∈ l.schema, c.toValue.nesting ≤ depth → read depth (Tree.ofValue c.toValue) = .ok c)
    {k : LinkKeyword} {v : Value} (value : linkMemberValue? l k = some v) (deep : v.nesting ≤ depth)
    (met : List LinkKeyword) :
    reader.readLinkMember read depth k (keepLink l met) (Tree.ofValue v) = .ok (keepLink l (k :: met)) := by
  cases k with
  | title | href | method | rel | description =>
    cases textGiven value
    refine congrArg Except.ok ?_
    simp [keepLink]
  | schema =>
    have whole : v = entryValue l.schema := optionGiven value
    rw [whole] at deep ⊢
    rw [Reader.readLinkMember,schemaEncoded inside deep]
    refine congrArg Except.ok ?_
    simp [keepLink]

theorem linkEncoded {l : Link Document}
    (inside : ∀ c ∈ l.schema, ∀ j ≤ depth, c.toValue.nesting ≤ j → read j (Tree.ofValue c.toValue) = .ok c)
    (deep : (linkValue l).nesting ≤ depth) : reader.readLink read depth (Tree.ofValue (linkValue l)) = .ok l := by
  rw [reader.linkEqual]
  refine recordEncoded .link LinkKeyword.parsedText LinkKeyword.memberAll (by decide) deep ?_
    (fun _ => keepWholeLink)
  intro k v value j within nested
  exact linkMemberEncoded (fun c schema => inside c schema j within.le) value nested

theorem memberEncoded (held : d.Held) (faithful : d.Faithful)
    (inside : ∀ c, d.Within c → ∀ j ≤ depth, c.toValue.nesting ≤ j → read j (Tree.ofValue c.toValue) = .ok c)
    {k : Keyword} {v : Value} (value : d.memberValue? k = some v) (deep : v.nesting ≤ depth) (e : Document) :
    reader.readMember read depth k e (Tree.ofValue v) = .ok (d.put k e) := by
  cases k with
  | id | dialect | description | reference | pattern =>
    cases textGiven value
    rfl
  | required | choices =>
    cases textsGiven value
    rw [Reader.readMember,textsEncoded deep]
    rfl
  | min | minValue | max | maxValue =>
    cases optionGiven value
    rw [Reader.readMember,boundEncoded (faithful.bounds _ (by simp))]
    rfl
  | minLength =>
    cases value
    rw [Reader.readMember,lengthEncoded held.lengths.1]
    rfl
  | maxLength =>
    cases value
    rw [Reader.readMember,lengthEncoded held.lengths.2]
    rfl
  | declaration =>
    obtain ⟨t,declared,rfl⟩ := Option.map_eq_some_iff.mp value
    have same := faithful.declaration t declared
    have proper : ∀ v, t = .other v → v.Proper := by
      rintro v rfl
      exact held.declaration v declared
    have back : reader.optional (reader.readDeclaration depth) (Tree.ofValue t.toValue) = .ok d.declaration := by
      rw [declared]
      exact givenEncoded same.given (declarationEncoded same proper deep)
    rw [Reader.readMember,back]
    rfl
  | sample =>
    have written : d.sample = some v := value
    have given : v ≠ .null := fun null => faithful.sample (null ▸ written)
    have back : reader.optional (reader.readValue reader.key depth) (Tree.ofValue v) = .ok d.sample := by
      rw [written]
      exact givenEncoded given (valueEncoded (held.sample v written) deep)
    rw [Reader.readMember,back]
    rfl
  | definitions =>
    cases entriesGiven value
    rw [Reader.readMember,sectionEncoded held.definitions (fun e member c schema => inside c ?_) deep]
    · rfl
    · obtain ⟨name,schemas⟩ := e
      cases Option.mem_def.mp schema
      exact .definition member
  | properties =>
    cases entriesGiven value
    rw [Reader.readMember,sectionEncoded held.properties (fun e member c schema => inside c ?_) deep]
    · rfl
    · obtain ⟨name,schemas⟩ := e
      cases Option.mem_def.mp schema
      exact .property member
  | items =>
    have whole : v = entryValue d.items := optionGiven value
    rw [whole] at deep ⊢
    rw [Reader.readMember,schemaEncoded (fun c schema => inside c (.items schema) depth le_rfl) deep]
    rfl
  | links =>
    cases itemsGiven value
    rw [Reader.readMember,listEncoded deep fun l member j within nested => linkEncoded ?_ nested]
    · rfl
    · intro c schema i below
      exact inside c (.link member schema) i (below.trans within.le)

end

theorem documentEncoded {d : Document} (held : d.Everywhere Held) (faithful : d.Everywhere Faithful) {fuel : Nat}
    (deep : d.toValue.nesting ≤ depth) (enough : depth < fuel) :
    reader.readDocumentWithin fuel depth (Tree.ofValue d.toValue) = .ok d := by
  induction held generalizing fuel depth with
  | @intro d held _ ih =>
    obtain ⟨same,below⟩ := faithful
    cases fuel with
    | zero => contradiction
    | succ fuel =>
      rw [valueMembers] at deep ⊢
      rw [Reader.readDocumentWithin]
      refine recordEncoded .document Keyword.parsedText Keyword.memberAll (by decide) deep ?_ (fun _ => keepWhole)
      intro k v value j within nested met
      rw [← putKept]
      have inside : ∀ c, d.Within c → ∀ i ≤ j, c.toValue.nesting ≤ i →
          reader.readDocumentWithin fuel i (Tree.ofValue c.toValue) = .ok c := fun c inner i above deep =>
        ih c inner (below c inner) deep (by omega)
      exact memberEncoded held same inside value nested (d.keep met)

end Json

namespace Document

/-- A document is written as its members that are not empty, and read back it is what it was: with nothing in it
that is written as something else, all members come back, at every depth. -/
theorem serializationSurvives {d : Document} (held : d.Everywhere Held) (faithful : d.Everywhere Faithful) :
    (∃ members : List (String × Value), d.toValue = .object members ∧ Entries.Ordered members ∧
      ∀ name v, (name,v) ∈ members ↔ ∃ k : Keyword, k.text = name ∧ d.memberValue? k = some v) ∧
    Json.documentOfValue d.toValue = .ok d :=
  ⟨d.writtenMembers,Json.documentEncoded held faithful le_rfl (Nat.lt_succ_self _)⟩

example : Json.documentOfValue ({ sample := some .null, max := some .nan } : Document).toValue = .ok {} := by
  rfl

def oddEntry : Document where
  declaration := some (.other (.array [.string "text",.null]))
  sample := some (.object [("inner",.array []),("outer",.null)])

def boundedItem : Document where
  declaration := some (.names [])
  minValue := some (Binary64.signed true 0)
  maxLength := -1

def catalogue : Document where
  id := "api/catalogue"
  definitions := [("absent",none),("odd",some oddEntry)]
  items := some boundedItem
  links := [{},{ rel := "self", schema := some {} }]

theorem catalogueEverywhere {P : Document → Prop} (whole : P catalogue) (odd : P oddEntry)
    (bounded : P boundedItem) (empty : P {}) : catalogue.Everywhere P := by
  have alone : ∀ {d}, P d → (∀ c, ¬ d.Within c) → d.Everywhere P := fun own none =>
    .intro own fun c inside => absurd inside (none c)
  refine .intro whole fun c inside => ?_
  cases inside with
  | definition entry =>
    obtain ⟨_,same⟩ : _ = "odd" ∧ c = oddEntry := by simpa [catalogue] using entry
    refine same ▸ alone odd fun c inside => ?_
    cases inside <;> simp_all [oddEntry]
  | property entry => simp [catalogue] at entry
  | items items =>
    have same : c = boundedItem := by simpa [catalogue] using items.symm
    refine same ▸ alone bounded fun c inside => ?_
    cases inside <;> simp_all [boundedItem]
  | link member schema =>
    have same : c = {} := by
      simp only [catalogue,List.mem_cons,List.not_mem_nil,or_false] at member
      rcases member with rfl | rfl
      · contradiction
      · exact (Option.some.inj schema).symm
    refine same ▸ alone empty fun c inside => ?_
    cases inside <;> simp_all

theorem catalogueHeld : catalogue.Everywhere Held := by
  refine catalogueEverywhere ⟨by decide,.nil,by decide,by simp [catalogue],by simp [catalogue]⟩
    ⟨.nil,.nil,by decide,fun v declared => ?_,fun v given => ?_⟩
    ⟨.nil,.nil,by decide,by simp [boundedItem],by simp [boundedItem]⟩ ⟨.nil,.nil,by decide,by simp,by simp⟩
  · cases declared
    refine .array fun v member => ?_
    simp only [List.mem_cons,List.not_mem_nil,or_false] at member
    rcases member with rfl | rfl
    · exact .string _
    · exact .null
  · cases given
    refine .object (by decide) fun e member => ?_
    simp only [List.mem_cons,List.not_mem_nil,or_false] at member
    rcases member with rfl | rfl
    · exact .array fun v none => absurd none List.not_mem_nil
    · exact .null

theorem catalogueFaithful : catalogue.Everywhere Faithful := by
  refine catalogueEverywhere ⟨by simp [catalogue],by simp [catalogue],by simp [catalogue]⟩
    ⟨by simp [oddEntry],by simp [oddEntry],fun t declared => ?_⟩
    ⟨?_,by simp [boundedItem],fun t declared => ?_⟩ ⟨by simp,by simp,by simp⟩
  · cases declared
    refine .other Value.noConfusion (fun _ => Value.noConfusion) fun ss same => ?_
    have texts : [.string "text",.null] = ss.map Value.string := Value.array.inj same
    have null : Value.null ∈ ss.map Value.string := texts ▸ by simp
    simp at null
  · intro b member x given
    simp only [boundedItem,List.mem_cons,List.not_mem_nil,or_false] at member
    rcases member with rfl | rfl | rfl | rfl
    all_goals cases given
    decide
  · cases declared
    exact .names []

theorem catalogueSurvives : catalogue.Everywhere Held ∧ catalogue.Everywhere Faithful ∧
    (∃ members : List (String × Value), catalogue.toValue = .object members ∧ ("maxLength",.int 0) ∈ members ∧
      ∀ v, ("properties",v) ∉ members) ∧
    Json.documentOfValue catalogue.toValue = .ok catalogue := by
  obtain ⟨⟨members,written,_,listed⟩,back⟩ := serializationSurvives catalogueHeld catalogueFaithful
  refine ⟨catalogueHeld,catalogueFaithful,⟨members,written,(listed _ _).mpr ⟨.maxLength,rfl,rfl⟩,?_⟩,back⟩
  intro v member
  obtain ⟨k,name,given⟩ := (listed _ _).mp member
  have key : k = .properties := Json.sameText Keyword.parsedText name
  subst key
  contradiction

end Document
end SchemaCheck
