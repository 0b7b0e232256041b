import SchemaCheck.Json.Read
import SchemaCheck.Proofs.KeptData
import SchemaCheck.Proofs.TypedReading

/-! JSON texts with `type` members added. A value can be kept whatever its shape: only one that breaks off, or
has a number out of range or a text that is none, is not. -/
namespace SchemaCheck.Json

def Tree.scalar? : Tree → Option Value
  | null => some .null
  | bool b => some (.bool b)
  | number (.ok (.int n)) => some (.int n)
  | number (.ok (.float x)) => some (Value.ofNumber x)
  | string (.ok s) => some (.string s)
  | _ => none

def Tree.Leaf : Tree → Prop
  | array .. | object .. => False
  | _ => True

def dataLayout : DataLayout Tree where
  leads n c t := t = n ∧ c = 0
  null t := t = .null
  scalar t v := t.scalar? = some v
  list t xs := t = .array xs none
  object t ms := t = .object ms none
  name t s := t = .string (.ok s)

def layout : Layout Tree where
  stands n c t := t = n ∧ c = 0
  stands' n c t := t = n ∧ c = 0
  leaf := Tree.Leaf
  items t xs := t = .array xs none
  members t ms := t = .object ms none
  text t s := t = .string (.ok s)
  blank _ := False
  data _ t t' := t' = t
  unread t t' := t' = t
  declared := dataLayout.Declares

theorem scalarShape {t : Tree} {v : Value} (scalar : t.scalar? = some v) :
    t.shape = .ok (.scalar v) ∧ (t ≠ .null → t.isNull = false) := by
  unfold Tree.scalar? at scalar
  split at scalar <;> first | contradiction | (cases scalar; exact ⟨rfl,by simp [Tree.isNull]⟩)

variable {K : AddSubmonoid Nat}

theorem dataRead : dataLayout.Read K reader where
  leads := by
    rintro n t c ⟨rfl,rfl⟩
    exact ⟨K.zero_mem,fun s => ⟨rfl,rfl⟩⟩
  null := by
    rintro n rfl
    rfl
  given := by
    rintro n t c ⟨rfl,rfl⟩ given (⟨v,scalar⟩ | ⟨xs,rfl⟩ | ⟨xs,rfl⟩)
    · exact congrArg Except.ok ((scalarShape scalar).2 given)
    · rfl
    · rfl
  scalar scalar := (scalarShape scalar).1
  list := by
    rintro n xs rfl
    rfl
  object := by
    rintro n xs rfl
    rfl
  name := by
    rintro n s rfl
    rfl

theorem same {c : Except Fault α} : Follows K (· = ·) c c := by
  rintro s x t ⟨rfl,rfl⟩
  exact ⟨x,rfl,0,K.zero_mem,fun more => ⟨rfl,rfl⟩⟩

theorem refused (w : Wanted) (t : Tree) {R : α → β → Prop} {c' : Except Fault β} :
    Follows K R (t.refuse w : Except Fault α) c' := by
  rintro s x u ⟨ended,_⟩
  unfold Tree.refuse at ended
  cases found : t.found <;> rw [found] at ended <;> contradiction

theorem layoutRead : layout.Read K reader reader where
  stood := by
    rintro n t c ⟨rfl,rfl⟩
    refine ⟨⟨rfl,rfl⟩,?_⟩
    rintro s x u ⟨ended,rfl⟩
    exact ⟨(Except.ok.inj ended).symm,rfl⟩
  stood' := by
    rintro n t c ⟨rfl,rfl⟩
    exact ⟨⟨rfl,rfl⟩,fun s => ⟨rfl,rfl⟩⟩
  leafAbsent _ := same
  leafSequence {n} leaf := by
    cases n <;> first | exact refused .sequence _ | exact absurd leaf id
  leafMap {n} leaf := by
    cases n <;> first | exact refused .map _ | exact absurd leaf id
  leafRecord {n} leaf w := by
    cases n <;> first | exact refused w _ | exact absurd leaf id
  blankRecord := nofun
  itemsAbsent := by
    rintro n xs rfl
    exact ⟨rfl,rfl⟩
  itemsSequence := by
    rintro n xs rfl
    exact ⟨rfl,rfl⟩
  itemsRecord := by
    rintro n n' xs ys rfl rfl w
    exact .pure ⟨_,_,_,_,rfl,rfl,same⟩
  membersAbsent := by
    rintro n xs rfl
    exact ⟨rfl,rfl⟩
  membersMap := by
    rintro n xs rfl
    exact ⟨rfl,rfl⟩
  membersRecord := by
    rintro n xs rfl w
    exact ⟨rfl,rfl⟩
  keyText := by
    rintro n name rfl
    exact ⟨rfl,rfl⟩
  skipped := by
    rintro n n' rfl
    exact same
  dataText := by
    rintro depth n n' rfl
    exact same
  dataNumber := by
    rintro depth n n' rfl
    exact same
  dataLength := by
    rintro depth n n' rfl
    exact same
  dataTexts := by
    rintro depth n n' rfl
    exact same
  dataValue := by
    rintro depth n n' rfl
    exact same
  dataDeclaration := by
    rintro depth n n' rfl
    exact same
  declared := dataRead.declaresRead

end SchemaCheck.Json
