import SchemaCheck.Document.Check

/-! The rules for a node on its own, one by one, and the state of a node that breaks none of them. Each
rule is said with a condition of its own; the checks that run come to the same list of faults. -/
namespace SchemaCheck.Document

def shapeFaults (id : String) : Option Declaration → List Fault
  | some (.other v) => [.propertyIncorrect id "type" ("Other(" ++ v.dump ++ ")")]
  | _ => []

def typeNameFaults (id : String) (d : Document) (name : String) : List Fault :=
  (if name = "array" ∧ d.items.isNone then [.property id "items" .nil] else []) ++
  (if name ∉ knownTypes then [.incorrectText id "type" name] else [])

def ownFaults (id : String) (d : Document) : List Fault :=
  shapeFaults id d.declaration ++
  (if d.min.isSome ∧ d.minValue.isSome then [.property id "min, minValue" .conflicted] else []) ++
  (if d.max.isSome ∧ d.maxValue.isSome then [.property id "max, maxValue" .conflicted] else []) ++
  (if d.reference = "" ∧ d.types = [] then [.property id "$ref" .nil,.property id "type" .nil] else []) ++
  (if d.reference ≠ "" ∧ d.types ≠ [] then [.property id "$ref, type" .conflicted] else []) ++
  d.types.flatMap (typeNameFaults id d)

theorem declarationFaultsEqual (id : String) (d : Document) :
    declarationFaults id d = shapeFaults id d.declaration := by
  unfold declarationFaults
  cases d.declaration with
  | none => rfl
  | some t => cases t <;> rfl

theorem boundFaultsEqual (id name : String) (legacy canonical : Option Binary64) :
    boundFaults id name legacy canonical =
      if legacy.isSome ∧ canonical.isSome then [.property id name .conflicted] else [] := by
  simp only [boundFaults,Bool.and_eq_true]

theorem referenceFaultsEqual (id : String) (d : Document) :
    referenceFaults id d =
      (if d.reference = "" ∧ d.types = [] then [.property id "$ref" .nil,.property id "type" .nil] else []) ++
      (if d.reference ≠ "" ∧ d.types ≠ [] then [.property id "$ref, type" .conflicted] else []) := by
  unfold referenceFaults
  have reference : d.reference = "" ↔ d.reference.isEmpty = true := String.isEmpty_iff.symm
  have types : d.types = [] ↔ d.types.isEmpty = true := List.isEmpty_iff.symm
  cases r : d.reference.isEmpty <;> cases t : d.types.isEmpty <;> simp [reference,types,r,t]

theorem typeFaultsEqual (id : String) (d : Document) (name : String) :
    typeFaults id d name = typeNameFaults id d name := by
  unfold typeFaults typeNameFaults
  by_cases array : name = "array"
  · subst array
    have known : "array" ∈ knownTypes := by decide
    simp [known]
  · by_cases known : name ∈ knownTypes <;> simp [array,known]

theorem nodeFaultsEqual (id : String) (d : Document) : d.nodeFaults id = ownFaults id d := by
  have each : typeFaults id d = typeNameFaults id d := funext (typeFaultsEqual id d)
  simp only [nodeFaults,ownFaults,declarationFaultsEqual,boundFaultsEqual,referenceFaultsEqual,each,
    List.append_assoc]

structure WellFormed (d : Document) : Prop where
  shape : ∀ v, d.declaration ≠ some (.other v)
  exclusive : (d.reference ≠ "" ∧ d.types = []) ∨ (d.reference = "" ∧ d.types ≠ [])
  known : ∀ name ∈ d.types, name ∈ knownTypes
  items : "array" ∈ d.types → d.items ≠ none
  lower : d.min = none ∨ d.minValue = none
  upper : d.max = none ∨ d.maxValue = none

theorem shapeFaultsEmpty {id : String} {t : Option Declaration} :
    shapeFaults id t = [] ↔ ∀ v, t ≠ some (.other v) := by
  cases t with
  | none => simp [shapeFaults]
  | some t => cases t <;> simp [shapeFaults]

theorem boundFaultsEmpty {legacy canonical : Option Binary64} :
    ¬ (legacy.isSome = true ∧ canonical.isSome = true) ↔ legacy = none ∨ canonical = none := by
  cases legacy <;> cases canonical <;> simp

theorem referenceFaultsEmpty {reference : String} {types : List String} :
    (¬ (reference = "" ∧ types = []) ∧ ¬ (reference ≠ "" ∧ types ≠ [])) ↔
      (reference ≠ "" ∧ types = []) ∨ (reference = "" ∧ types ≠ []) := by
  by_cases r : reference = "" <;> by_cases t : types = [] <;> simp [r,t]

theorem typeNameFaultsEmpty {id : String} {d : Document} {name : String} :
    typeNameFaults id d name = [] ↔ (name = "array" → d.items ≠ none) ∧ name ∈ knownTypes := by
  unfold typeNameFaults
  by_cases array : name = "array" <;> by_cases known : name ∈ knownTypes <;> simp_all

theorem ownFaultsEmpty {id : String} {d : Document} : ownFaults id d = [] ↔ d.WellFormed := by
  simp only [ownFaults,List.append_eq_nil_iff,shapeFaultsEmpty,ite_eq_right_iff,reduceCtorEq,imp_false,
    boundFaultsEmpty,List.flatMap_eq_nil_iff,typeNameFaultsEmpty]
  constructor
  · rintro ⟨⟨⟨⟨⟨shape,lower⟩,upper⟩,missing⟩,both⟩,names⟩
    exact ⟨shape,referenceFaultsEmpty.mp ⟨missing,both⟩,fun name member => (names name member).2,
      fun array => (names "array" array).1 rfl,lower,upper⟩
  · intro h
    obtain ⟨missing,both⟩ := referenceFaultsEmpty.mpr h.exclusive
    refine ⟨⟨⟨⟨⟨h.shape,h.lower⟩,h.upper⟩,missing⟩,both⟩,?_⟩
    intro name member
    exact ⟨fun array => h.items (array ▸ member),h.known name member⟩

instance (d : Document) : Decidable d.WellFormed := decidable_of_iff (ownFaults d.id d = []) ownFaultsEmpty

def nodeProperties : List String :=
  ["$ref","type","$ref, type","items","min, minValue","max, maxValue"]

inductive OwnFault (id : String) : Fault → Prop where
  | property {name : String} (known : name ∈ nodeProperties) (problem : Problem) :
      OwnFault id (.property id name problem)
  | shape (v : Value) : OwnFault id (.propertyIncorrect id "type" ("Other(" ++ v.dump ++ ")"))
  | typeName (name : String) : OwnFault id (.incorrectText id "type" name)

theorem onlyIf {c : Prop} [Decidable c] {f g : Fault} (member : f ∈ if c then [g] else []) : f = g := by
  split at member
  · exact List.mem_singleton.mp member
  · contradiction

theorem ownFault {id : String} {d : Document} {f : Fault} (member : f ∈ ownFaults id d) :
    OwnFault id f := by
  simp only [ownFaults,List.mem_append,List.mem_flatMap] at member
  rcases member with ((((shape | lower) | upper) | missing) | both) | ⟨name,_,names⟩
  · unfold shapeFaults at shape
    split at shape
    · cases List.mem_singleton.mp shape
      exact .shape _
    · contradiction
  · exact onlyIf lower ▸ .property (by decide) .conflicted
  · exact onlyIf upper ▸ .property (by decide) .conflicted
  · split at missing
    · simp only [List.mem_cons,List.not_mem_nil,or_false] at missing
      rcases missing with rfl | rfl <;> exact .property (by decide) .nil
    · contradiction
  · exact onlyIf both ▸ .property (by decide) .conflicted
  · rcases List.mem_append.mp names with array | unknown
    · exact onlyIf array ▸ .property (by decide) .nil
    · exact onlyIf unknown ▸ .typeName name

end SchemaCheck.Document
