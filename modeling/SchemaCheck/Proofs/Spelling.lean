import SchemaCheck.Path
import SchemaCheck.Proofs.Segments

/-! Paths as they are spelled: the parts between slashes, the last of which is the name of a file, and paths
extended name by name. -/
namespace SchemaCheck

structure ProperName (name : String) : Prop where
  nonempty : name ≠ ""
  notCurrent : name ≠ "."
  notParent : name ≠ ".."
  flat : SlashFree name

instance (name : String) : Decidable (ProperName name) :=
  decidable_of_iff (name ≠ "" ∧ name ≠ "." ∧ name ≠ ".." ∧ SlashFree name)
    ⟨fun h => ⟨h.1,h.2.1,h.2.2.1,h.2.2.2⟩,fun h => ⟨h.nonempty,h.notCurrent,h.notParent,h.flat⟩⟩

namespace Path

theorem splitFlat (acc : List Char) {cs : List Char} (flat : '/' ∉ cs) :
    splitFrom acc cs = [String.ofList (acc.reverse ++ cs)] := by
  induction cs generalizing acc with
  | nil => simp [splitFrom]
  | cons c rest ih =>
    obtain ⟨other,flat⟩ : '/' ≠ c ∧ '/' ∉ rest := by simpa using flat
    simp [splitFrom,Ne.symm other,ih (c :: acc) flat]

theorem splitSlash (acc cs rest : List Char) :
    splitFrom acc (cs ++ '/' :: rest) = splitFrom acc cs ++ splitFrom [] rest := by
  induction cs generalizing acc with
  | nil => simp [splitFrom]
  | cons c cs ih => by_cases slash : c = '/' <;> simp [splitFrom,slash,ih]

theorem partsFlat {name : String} (flat : SlashFree name) : parts name = [name] := by
  simp [parts,splitFlat [] flat]

theorem partsSlash {p name : String} (before : List Char) (spelled : p.toList = before ++ '/' :: name.toList)
    (flat : SlashFree name) : parts p = splitFrom [] before ++ [name] := by
  rw [parts,spelled,splitSlash,splitFlat [] flat]
  simp

theorem partsJoin (p : String) {name : String} (flat : SlashFree name) :
    ∃ before, parts (join p name) = before ++ [name] := by
  have slash : "/".toList = ['/'] := rfl
  unfold join
  split
  · rename_i closed
    rcases Bool.or_eq_true_iff.mp closed with empty | ended
    · exact ⟨[],by simp [String.isEmpty_iff.mp empty,partsFlat flat]⟩
    · obtain ⟨before,same⟩ := endsWithSlash.mp ended
      exact ⟨_,partsSlash before (by simp [same]) flat⟩
  · exact ⟨_,partsSlash p.toList (by simp [slash]) flat⟩

theorem lastSlash (cs : List Char) :
    '/' ∉ cs ∨ ∃ before rest, cs = before ++ '/' :: rest ∧ '/' ∉ rest := by
  induction cs with
  | nil => exact Or.inl (by simp)
  | cons c cs ih =>
    rcases ih with flat | ⟨before,rest,rfl,flat⟩
    · by_cases slash : c = '/'
      · exact Or.inr ⟨[],cs,by simp [slash],flat⟩
      · exact Or.inl (by simp [Ne.symm slash,flat])
    · exact Or.inr ⟨c :: before,rest,rfl,flat⟩

theorem partsLast (p : String) :
    ∃ before name, parts p = before ++ [name] ∧ (name = "" → p = "" ∨ p.endsWith "/" = true) := by
  rcases lastSlash p.toList with flat | ⟨before,rest,spelled,flat⟩
  · exact ⟨[],p,partsFlat flat,Or.inl⟩
  · have name : rest = (String.ofList rest).toList := String.toList_ofList.symm
    refine ⟨_,_,partsSlash before (spelled.trans (by rw [← name])) (by rwa [SlashFree,← name]),?_⟩
    intro empty
    rw [String.ofList_eq_empty_iff.mp empty] at spelled
    exact Or.inr (endsWithSlash.mpr ⟨before,spelled⟩)

theorem fileNameLast {p name : String} {before : List String} (split : parts p = before ++ [name])
    (nonempty : name ≠ "") (notCurrent : name ≠ ".") (notParent : name ≠ "..") :
    fileName? p = some name := by
  have inner : ((parts p).filter fun s => s ≠ "" && s ≠ ".").map component =
      (before.filter fun s => s ≠ "" && s ≠ ".").map component ++ [.name name] := by
    simp [split,List.filter_append,nonempty,notCurrent,component,notParent]
  have last : (components p).getLast? = some (.name name) := by
    simp only [components,inner]
    split
    · simp [List.getLast?_cons]
    · split <;> simp [List.getLast?_cons]
  simp [fileName?,last]

def padded (name : String) (slashes : Nat) : String :=
  name ++ String.ofList (List.replicate slashes '/')

theorem paddedSize (name : String) (slashes : Nat) :
    (padded name slashes).utf8ByteSize = name.utf8ByteSize + slashes := by
  have slash : '/'.utf8Size = 1 := rfl
  rw [padded,String.utf8ByteSize_append]
  congr 1
  induction slashes with
  | zero => rfl
  | succ slashes ih =>
    rw [List.replicate_succ,String.ofList_cons,String.utf8ByteSize_append,ih,String.utf8ByteSize_singleton,
      slash,Nat.add_comm]

theorem paddedEnd (name : String) (slashes : Nat) : (padded name (slashes + 1)).endsWith "/" = true :=
  endsWithSlash.mpr ⟨(padded name slashes).toList,by simp [padded,List.replicate_succ']⟩

theorem splitSlashes (slashes : Nat) :
    splitFrom [] (List.replicate slashes '/') = List.replicate (slashes + 1) "" := by
  induction slashes with
  | zero => rfl
  | succ slashes ih => rw [List.replicate_succ,splitFrom,ih]; rfl

theorem partsPadded {name : String} (flat : SlashFree name) (slashes : Nat) :
    parts (padded name slashes) = name :: List.replicate slashes "" := by
  cases slashes with
  | zero => simpa [padded] using partsFlat flat
  | succ slashes =>
    have spelled : (padded name (slashes + 1)).toList = name.toList ++ '/' :: List.replicate slashes '/' := by
      simp [padded,List.replicate_succ]
    rw [parts,spelled,splitSlash,splitFlat [] flat,splitSlashes]
    simp

theorem namedRelative {name : String} (proper : ProperName name) (rest : String) :
    isAbsolute (name ++ rest) = false := by
  refine Bool.eq_false_iff.mpr fun absolute => ?_
  obtain ⟨after,same⟩ := startsWithSlash.mp absolute
  cases spelled : name.toList with
  | nil => exact proper.nonempty (String.toList_eq_nil_iff.mp spelled)
  | cons c cs =>
    have first : c = '/' := by simp_all
    exact proper.flat (by simp [spelled,first])

theorem nameRelative {name : String} (proper : ProperName name) : isAbsolute name = false := by
  simpa using namedRelative proper ""

theorem nameComponents {name : String} (proper : ProperName name) : components name = [.name name] := by
  simp [components,nameRelative proper,partsFlat proper.flat,component,proper.nonempty,proper.notCurrent,
    proper.notParent]

theorem nameExtension {name : String} (proper : ProperName name) : extension? name = extensionOf? name := by
  simp [extension?,fileName?,nameComponents proper]

theorem joinPadded (name x : String) (slashes : Nat) :
    join (padded name (slashes + 1)) x = padded name (slashes + 1) ++ x := by
  simp [join,paddedEnd]

theorem paddedComponents {name x : String} (outer : ProperName name) (inner : ProperName x)
    (slashes : Nat) : components (join (padded name (slashes + 1)) x) = [.name name,.name x] := by
  have spelled : (join (padded name (slashes + 1)) x).toList =
      (padded name slashes).toList ++ '/' :: x.toList := by
    rw [joinPadded]
    simp [padded,List.replicate_succ']
  have pieces : parts (join (padded name (slashes + 1)) x) = name :: List.replicate slashes "" ++ [x] := by
    rw [partsSlash _ spelled inner.flat,← partsPadded outer.flat]
    rfl
  have relative : isAbsolute (join (padded name (slashes + 1)) x) = false := by
    rw [joinPadded,padded,String.append_assoc,namedRelative outer]
  simp [components,relative,pieces,component,outer.nonempty,outer.notCurrent,outer.notParent,
    inner.nonempty,inner.notCurrent,inner.notParent,List.filter_append]

def along (p : String) (names : List String) : String := names.foldl join p

theorem joinSize (p name : String) : p.utf8ByteSize ≤ (join p name).utf8ByteSize := by
  unfold join
  split <;> simp only [String.utf8ByteSize_append] <;> omega

theorem alongSize (p : String) (names : List String) : p.utf8ByteSize ≤ (along p names).utf8ByteSize := by
  induction names generalizing p with
  | nil => exact Nat.le_refl _
  | cons name rest ih => exact Nat.le_trans (joinSize p name) (ih (join p name))

theorem alongLast (p : String) {names : List String} {name : String} (proper : ProperName name)
    (last : names.getLast? = some name) : fileName? (along p names) = some name := by
  obtain ⟨before,rfl⟩ := List.getLast?_eq_some_iff.mp last
  obtain ⟨_,split⟩ := partsJoin (along p before) proper.flat
  have spelled : along p (before ++ [name]) = join (along p before) name := List.foldl_append ..
  rw [spelled]
  exact fileNameLast split proper.nonempty proper.notCurrent proper.notParent

end Path
end SchemaCheck
