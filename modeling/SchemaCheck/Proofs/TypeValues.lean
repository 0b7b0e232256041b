import SchemaCheck.Proofs.JsonValues
import SchemaCheck.Proofs.Preorder

/-! Declarations of types as values. Any value can be declared and comes back, and it gives names exactly if it is
a string or an array of strings; what else a JSON document declares is reported as a whole for its node. -/
namespace SchemaCheck

inductive Value.Names : Value → List String → Prop where
  | one (s : String) : Names (.string s) [s]
  | list (ss : List String) : Names (.array (ss.map .string)) ss

def Value.Nameless (v : Value) : Prop := ∀ names, ¬ v.Names names

theorem Value.Names.unique {v : Value} {names others : List String} (first : v.Names names)
    (second : v.Names others) : names = others := by
  generalize same : v = w at second
  cases first with
  | one s =>
    cases second with
    | one t => rw [Value.string.inj same]
    | list => contradiction
  | list ss =>
    cases second with
    | one => contradiction
    | list ts => exact (List.map_inj_right fun _ _ => Value.string.inj).mp (Value.array.inj same)

namespace Declaration

inductive Kept : Value → Declaration → Prop where
  | name (s : String) : Kept (.string s) (.name s)
  | names (ss : List String) : Kept (.array (ss.map .string)) (.names ss)
  | other {v : Value} (nameless : v.Nameless) : Kept v (.other v)

theorem kept (v : Value) : Kept v (ofValue v) := by
  by_cases named : ∃ names, v.Names names
  · obtain ⟨ss,one | list⟩ := named
    · exact .name _
    · have back : ofValue (.array (ss.map .string)) = .names ss := (Faithful.names ss).back
      rw [back]
      exact .names ss
  · have nameless : v.Nameless := fun names given => named ⟨names,given⟩
    have other : ofValue v = .other v := by
      refine otherShape ?_ ?_
      · rintro s rfl
        exact nameless [s] (.one s)
      · rintro ss rfl
        exact nameless ss (.list ss)
    rw [other]
    exact .other nameless

namespace Kept

variable {v : Value} {t : Declaration}

theorem back (kept : Kept v t) : t.toValue = v := by
  cases kept <;> rfl

theorem typeNames (kept : Kept v t) (names : List String) : t.typeNames? = some names ↔ v.Names names := by
  cases kept with
  | name s =>
    have one : (Value.string s).Names [s] := .one s
    exact ⟨fun same => Option.some.inj same ▸ one,fun given => congrArg some (one.unique given)⟩
  | names ss =>
    have list : (Value.array (ss.map .string)).Names ss := .list ss
    exact ⟨fun same => Option.some.inj same ▸ list,fun given => congrArg some (list.unique given)⟩
  | other nameless => exact ⟨nofun,fun given => absurd given (nameless names)⟩

theorem whole (kept : Kept v t) {w : Value} : t = .other w ↔ v = w ∧ v.Nameless := by
  cases kept with
  | name s => exact ⟨nofun,fun given => absurd (.one s) (given.2 [s])⟩
  | names ss => exact ⟨nofun,fun given => absurd (.list ss) (given.2 ss)⟩
  | other nameless =>
    refine ⟨fun same => ⟨Declaration.other.inj same,nameless⟩,?_⟩
    rintro ⟨rfl,_⟩
    rfl

end Kept
end Declaration

/-! ## Places of nodes -/

namespace Document

theorem entryFound {idOf : String → String} {ds : Entries (Option Document)} (ordered : ds.Ordered) {p : Node}
    (member : p ∈ partsOfEntries idOf ds) : ∃ name, p.1 = idOf name ∧ (ds.get? name).join = some p.2 := by
  obtain ⟨name,same,inside⟩ := partsOfEntriesMember member
  exact ⟨name,same,by rw [(Entries.getMember ordered).mpr inside]; rfl⟩

theorem linkFound {idOf : Nat → String} {first : Nat} {ls : List (Link Document)} {p : Node}
    (member : p ∈ partsOfLinks idOf first ls) :
    ∃ index, p.1 = idOf (first + index) ∧ ls[index]?.bind Link.schema = some p.2 := by
  induction ls generalizing first with
  | nil => contradiction
  | cons l rest ih =>
    rcases List.mem_append.mp member with here | later
    · obtain ⟨same,schema⟩ := partOfOptionalMember here
      exact ⟨0,same,schema⟩
    · obtain ⟨index,same,schema⟩ := ih later
      exact ⟨index + 1,by rw [same,Nat.succ_add_eq_add_succ],schema⟩

theorem partChild {id : String} {d : Document} (tabled : d.Tabled) {p : Node} (member : p ∈ parts id d) :
    ∃ s, p.1 = Step.apply id s ∧ d.child? s = some p.2 := by
  simp only [parts,List.mem_append] at member
  rcases member with ((found | found) | found) | found
  · obtain ⟨name,same,child⟩ := entryFound tabled.ordered.1 found
    exact ⟨.definition name,same,child⟩
  · obtain ⟨name,same,child⟩ := entryFound tabled.ordered.2 found
    exact ⟨.property name,same,child⟩
  · obtain ⟨index,same,child⟩ := linkFound found
    exact ⟨.link index,by rw [same,Nat.zero_add]; rfl,child⟩
  · exact ⟨.items,partOfOptionalMember found⟩

theorem nodePlace {id : String} {d : Document} (tabled : d.Tabled) {n : Node} (member : n ∈ nodes id d) :
    ∃ path, at? path d = some n.2 ∧ n.1 = path.foldl Step.apply id := by
  induction id, d using partsInduction with
  | step id d ih =>
    rcases nodeCases.mp member with ⟨p,inside,found⟩ | rfl
    · obtain ⟨s,same,child⟩ := partChild tabled inside
      obtain ⟨path,place,named⟩ := ih p inside (tabled.part inside) found
      exact ⟨s :: path,by rw [at?,child]; exact place,by rw [named,same]; rfl⟩
    · exact ⟨[],rfl,rfl⟩

end Document

/-! ## Reports -/

namespace Fault

def wrongShape (id : String) (v : Value) : Fault := .propertyIncorrect id "type" (Declaration.other v).dump

def OfShape (f : Fault) : Prop := ∃ id v, f = wrongShape id v

theorem propertyApart {id name : String} {problem : Problem} : ¬ (property id name problem).OfShape := by
  rintro ⟨_,_,same⟩
  contradiction

theorem nameApart {id name : String} : ¬ (incorrectText id "type" name).OfShape := by
  rintro ⟨_,v,same⟩
  have text : Text.quoted name = (Declaration.other v).dump := (propertyIncorrect.inj same).2.2
  have first := congrArg (fun s => s.toList.head?) text
  simp [Text.quoted,Declaration.dump] at first

end Fault

namespace Document

theorem ownShape {id : String} {d : Document} {f : Fault} :
    f ∈ ownFaults id d ∧ f.OfShape ↔ ∃ v, d.declaration = some (.other v) ∧ f = .wrongShape id v := by
  constructor
  · rintro ⟨member,shape⟩
    simp only [ownFaults,List.mem_append,List.mem_flatMap] at member
    rcases member with ((((own | lower) | upper) | missing) | both) | ⟨name,_,names⟩
    · unfold shapeFaults at own
      split at own
      · exact ⟨_,by assumption,List.mem_singleton.mp own⟩
      · contradiction
    · exact absurd (onlyIf lower ▸ shape) Fault.propertyApart
    · exact absurd (onlyIf upper ▸ shape) Fault.propertyApart
    · split at missing
      · simp only [List.mem_cons,List.not_mem_nil,or_false] at missing
        rcases missing with rfl | rfl <;> exact absurd shape Fault.propertyApart
      · contradiction
    · exact absurd (onlyIf both ▸ shape) Fault.propertyApart
    · rcases List.mem_append.mp names with array | unknown
      · exact absurd (onlyIf array ▸ shape) Fault.propertyApart
      · exact absurd (onlyIf unknown ▸ shape) Fault.nameApart
  · rintro ⟨v,declared,rfl⟩
    refine ⟨?_,id,v,rfl⟩
    simp [ownFaults,shapeFaults,declared,Fault.wrongShape,Declaration.dump]

theorem typesDeclared {d : Document} {v : Value} (declared : d.declaration = some (.ofValue v)) :
    (∀ names, v.Names names → d.types = names) ∧ (v.Nameless → d.types = []) := by
  constructor
  · intro names given
    have named := ((Declaration.kept v).typeNames names).mpr given
    simp only [types,declared,named,Option.getD_some]
  · intro nameless
    have whole : Declaration.ofValue v = .other v := (Declaration.kept v).whole.mpr ⟨rfl,nameless⟩
    rw [types,declared,whole]
    rfl

end Document

namespace Registry
open Document (Node nodes at?)
open SourceFormat (documentKept itemsAdded itemsTree mixed mixedItems mixedTree plainParsed)

theorem shapesReported {id : String} {d : Document} {r : Registry} {f : Fault} :
    f ∈ faultsOf id d r ∧ f.OfShape ↔
      ∃ n ∈ nodes id d, ∃ v, n.2.declaration = some (.other v) ∧ f = .wrongShape n.1 v := by
  constructor
  · rintro ⟨member,shape⟩
    have other : f ∈ Fault.others (faultsOf id d r) := by
      refine List.mem_filter.mpr ⟨member,decide_eq_true ?_⟩
      obtain ⟨_,_,rfl⟩ := shape
      exact nofun
    rw [otherFaults] at other
    obtain ⟨n,node,own⟩ := List.mem_flatMap.mp other
    exact ⟨n,node,Document.ownShape.mp ⟨own,shape⟩⟩
  · rintro ⟨n,node,own⟩
    obtain ⟨reported,shape⟩ := Document.ownShape.mpr own
    exact ⟨ownReported node reported r,shape⟩

section
variable {t : Json.Tree} {d : Document} (source : Json.Source t d)
include source

theorem shapePlaces {id : String} {f : Fault} :
    (∃ n ∈ nodes id d, ∃ v, n.2.declaration = some (.other v) ∧ f = .wrongShape n.1 v) ↔
      ∃ path m v, t.typeAt? path = some m ∧ m ≠ .null ∧ m.value? = some v ∧ v.Nameless ∧
        f = .wrongShape (path.foldl Step.apply id) v := by
  constructor
  · rintro ⟨⟨k,e⟩,node,v,declared,rfl⟩
    obtain ⟨path,place,rfl⟩ := Document.nodePlace source.tabled node
    obtain ⟨m,w,type,given,value,same⟩ := Json.declaredType source place declared
    obtain ⟨rfl,nameless⟩ := (Declaration.kept w).whole.mp same.symm
    exact ⟨path,m,w,type,given,value,nameless,rfl⟩
  · rintro ⟨path,m,v,type,given,value,nameless,rfl⟩
    obtain ⟨w,e,same,place,⟨null,_⟩ | ⟨_,declared⟩⟩ := Json.typeDeclared source type
    · exact absurd null given
    · obtain rfl := Option.some.inj (value.symm.trans same)
      rw [(Declaration.kept v).whole.mpr ⟨rfl,nameless⟩] at declared
      exact ⟨_,Document.atNode id place,v,declared,rfl⟩

theorem typesPlaced {path : List Step} {m : Json.Tree} (type : t.typeAt? path = some m) :
    ∃ v e, m.value? = some v ∧ at? path d = some e ∧ (∀ names, v.Names names → e.types = names) ∧
      (v.Nameless → e.types = []) := by
  obtain ⟨v,e,value,place,⟨rfl,nothing⟩ | ⟨_,declared⟩⟩ := Json.typeDeclared source type
  · cases value
    have none : e.types = [] := by rw [Document.types,nothing]
    exact ⟨.null,e,rfl,place,nofun,fun _ => none⟩
  · exact ⟨v,e,value,place,Document.typesDeclared declared⟩

end

/-- Any value can be declared, and it comes back as it was; it gives names exactly if it is a string or an array
of strings. What a JSON document declares is reported as a whole exactly where it is neither of these and no
null, and it gives no types there; everywhere else the types are the names. -/
theorem typeValuesClassified :
    (∀ v : Value, v.Proper → ∃ t, Json.declarationOfValue v = .ok t ∧ t.toValue = v ∧
      ∀ names, t.typeNames? = some names ↔ v.Names names) ∧
    ∀ t d, Json.Source t d → ∀ id r, id ≠ "" →
      ∃ r' result s, registration? id (some d) r = .ok (r',result) ∧ result.schema = some s ∧
        (∀ f, f ∈ result.faults.getD [] ∧ f.OfShape ↔
          ∃ path m v, t.typeAt? path = some m ∧ m ≠ .null ∧ m.value? = some v ∧ v.Nameless ∧
            f = .wrongShape (path.foldl Step.apply id) v) ∧
        ∀ path m, t.typeAt? path = some m →
          ∃ v e c, m.value? = some v ∧ at? path d = some e ∧ c = e.normalize (path.foldl Step.apply id) ∧
            c ∈ s.preorder ∧ (∀ names, v.Names names → c.types = names) ∧ (v.Nameless → c.types = []) := by
  constructor
  · intro v proper
    have kept := Declaration.kept v
    refine ⟨.ofValue v,?_,kept.back,kept.typeNames⟩
    show Declaration.ofValue <$> Json.reader.readValue Json.Tree.text v.nesting (Json.Tree.ofValue v) = _
    rw [Json.valueEncoded proper le_rfl]
    rfl
  · intro t d source id r present
    refine ⟨_,_,_,registrationCall present d r,rfl,fun f => ?_,fun path m type => ?_⟩
    · rw [Fault.foundDefault]
      exact shapesReported.trans (shapePlaces source)
    · obtain ⟨v,e,value,place,named,nameless⟩ := typesPlaced source type
      have types : (e.normalize (path.foldl Step.apply id)).types = e.types := by cases e; rfl
      have node : (path.foldl Step.apply id,e) ∈ nodes id d := Document.atNode id place
      have inside := (Document.preorderNormalize id d).mem_iff.mp (List.mem_map_of_mem node)
      refine ⟨v,e,_,value,place,rfl,inside,?_⟩
      rw [types]
      exact ⟨named,nameless⟩

example : (Declaration.ofValue (.array [])).typeNames? = some [] := rfl

def mixedList : Value := .array [.string "string",.int 5]

theorem mixedListNameless : mixedList.Nameless := by
  intro names given
  have read : none = some names := ((Declaration.kept mixedList).typeNames names).mpr given
  contradiction

def mixedItemsTree : Json.Tree := itemsTree [(.string (.ok "type"),mixedTree)]

def mixedItemsDocument : Document := { items := some { declaration := some (.other mixed) } }

theorem mixedItemsSource : Json.Source mixedItemsTree mixedItemsDocument := by
  have bytes : Json.Tree.ofBytes mixedItems = (mixedItemsTree,some []) := by cbv
  exact .text bytes (documentKept plainParsed itemsAdded)

theorem mixedItemsReported :
    mixedList.Proper ∧
    (∃ t, Json.declarationOfValue mixedList = .ok t ∧ t.toValue = mixedList ∧ t.typeNames? = none) ∧
    Json.Source mixedItemsTree mixedItemsDocument ∧ "a" ≠ "" ∧
    ∃ r' result s, registration? "a" (some mixedItemsDocument) {} = .ok (r',result) ∧ result.schema = some s ∧
      .propertyIncorrect "a/items" "type" "Other(Object \x7b\"a\": Array [Bool(true)]\x7d)" ∈
        result.faults.getD [] ∧
      ∃ c ∈ s.preorder, c.id = "a/items" ∧ c.types = [] := by
  have proper : mixedList.Proper := by
    refine .array fun v member => ?_
    fin_cases member
    · exact .string _
    · exact .int _
  have present : "a" ≠ "" := by decide
  obtain ⟨values,documents⟩ := typeValuesClassified
  obtain ⟨t,read,back,names⟩ := values mixedList proper
  have unnamed : t.typeNames? = none :=
    Option.eq_none_iff_forall_ne_some.mpr fun given same => mixedListNameless given ((names given).mp same)
  obtain ⟨r',result,s,call,schema,faults,types⟩ := documents _ _ mixedItemsSource "a" {} present
  obtain ⟨v,e,c,value,place,rfl,inside,_,untyped⟩ := types [.items] mixedTree rfl
  cases value
  cases place
  refine ⟨proper,⟨t,read,back,unnamed⟩,mixedItemsSource,present,r',result,s,call,schema,?_,?_⟩
  · exact ((faults _).mpr ⟨[.items],mixedTree,mixed,rfl,nofun,rfl,nofun,rfl⟩).1
  · exact ⟨_,inside,rfl,untyped nofun⟩

end Registry
end SchemaCheck
