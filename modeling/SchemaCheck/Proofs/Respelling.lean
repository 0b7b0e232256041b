import SchemaCheck.Proofs.FaultTable
import SchemaCheck.Proofs.Finding

/-! Spellings of one path. Slashes too many and inner dots lead to the same place, so that two spellings
with one key, if both end in a name and neither is too long, or both are, are read alike. -/
namespace SchemaCheck

namespace Path

def counted (p : String) : List String := (parts p).filter fun s => s ≠ "" && s ≠ "."

theorem componentInjective : Function.Injective component := by
  intro s s' same
  unfold component at same
  split at same <;> split at same <;> simp_all

def lead (p : String) : List Component :=
  if isAbsolute p then [.root] else if (parts p).head? = some "." then [.current] else []

theorem componentsLead (p : String) : components p = lead p ++ (counted p).map component := by
  simp only [components,lead,counted]
  split
  · rfl
  · split <;> rfl

theorem componentKind (s : String) : component s ≠ .root ∧ component s ≠ .current := by
  unfold component
  split <;> exact ⟨nofun,nofun⟩

theorem componentsNamed (p : String) :
    (components p).filter (fun c => c ≠ .root && c ≠ .current) = (counted p).map component := by
  have leading : (lead p).filter (fun c => c ≠ .root && c ≠ .current) = [] := by
    unfold lead
    split
    · rfl
    · split <;> rfl
  have named : ((counted p).map component).filter (fun c => c ≠ .root && c ≠ .current) =
      (counted p).map component :=
    List.filter_eq_self.mpr (List.forall_mem_map.mpr fun s _ => by simp [componentKind s])
  rw [componentsLead,List.filter_append,leading,named,List.nil_append]

theorem rootComponent (p : String) : .root ∈ components p ↔ isAbsolute p = true := by
  have unnamed : .root ∉ (counted p).map component := by
    intro member
    obtain ⟨s,_,same⟩ := List.mem_map.mp member
    exact (componentKind s).1 same
  rw [componentsLead,List.mem_append,or_iff_left unnamed,lead]
  split
  · rename_i absolute
    exact iff_of_true (List.mem_singleton.mpr rfl) absolute
  · rename_i relative
    refine iff_of_false ?_ relative
    split <;> simp

theorem sameCounted {p q : String} (same : SameKey p q) : counted p = counted q := by
  have named := congrArg (List.filter fun c => c ≠ .root && c ≠ .current) same
  rw [componentsNamed,componentsNamed] at named
  exact List.map_injective_iff.mpr componentInjective named

theorem sameStart {p q : String} (same : SameKey p q) : isAbsolute p = isAbsolute q := by
  have root := rootComponent p
  rw [same,rootComponent] at root
  exact Bool.eq_iff_iff.mpr root.symm

theorem splitChar {c : Char} (other : c ≠ '/') (acc cs : List Char) :
    (∃ s ∈ splitFrom acc cs, c ∈ s.toList) ↔ c ∈ acc ∨ c ∈ cs := by
  induction cs generalizing acc with
  | nil => simp [splitFrom]
  | cons d rest ih =>
    by_cases slash : d = '/'
    · subst slash
      simp [splitFrom,ih,other]
    · rw [splitFrom]
      · simp [ih,or_assoc,or_left_comm]
      · exact slash

theorem countedChar {p : String} {c : Char} (other : c ≠ '/') (noDot : c ≠ '.') :
    c ∈ p.toList ↔ ∃ s ∈ counted p, c ∈ s.toList := by
  have dot : ".".toList = ['.'] := rfl
  have whole : (∃ s ∈ parts p, c ∈ s.toList) ↔ c ∈ p.toList := by
    simpa [parts] using splitChar other [] p.toList
  rw [← whole]
  simp only [counted,List.mem_filter]
  constructor
  · intro found
    obtain ⟨s,member,inside⟩ := found
    refine ⟨s,⟨member,?_⟩,inside⟩
    simp only [ne_eq,decide_not,Bool.and_eq_true,Bool.not_eq_true',decide_eq_false_iff_not]
    constructor
    · intro empty
      simp [empty] at inside
    · intro current
      simp [current,dot,noDot] at inside
  · intro found
    obtain ⟨s,⟨member,_⟩,inside⟩ := found
    exact ⟨s,member,inside⟩

def EndsNamed (p : String) : Prop := ∃ name, (parts p).getLast? = some name ∧ name ≠ "" ∧ name ≠ "."

theorem partsEnded {p : String} (ended : p = "" ∨ p.endsWith "/" = true) :
    (parts p).getLast? = some "" := by
  rcases ended with rfl | slash
  · rfl
  · obtain ⟨before,spelled⟩ := endsWithSlash.mp slash
    have last : parts p = splitFrom [] before ++ [""] :=
      partsSlash before (by simp [spelled]) (by decide)
    simp [last]

theorem EndsNamed.open {p : String} (ends : EndsNamed p) : p ≠ "" ∧ ¬ p.endsWith "/" = true := by
  obtain ⟨name,last,given,_⟩ := ends
  have other : ¬ (p = "" ∨ p.endsWith "/" = true) := fun ended =>
    given (Option.some.inj (last.symm.trans (partsEnded ended)))
  exact not_or.mp other

end Path

namespace FileTree
open SchemaCheck.Path

inductive Undotted : List String → List String → Prop where
  | nil : Undotted [] []
  | step (x : String) {xs ys : List String} (rest : Undotted xs ys) : Undotted (x :: xs) (x :: ys)
  | dot {x : String} {xs ys : List String} (rest : Undotted (x :: xs) ys) :
      Undotted ("." :: x :: xs) ys

theorem Undotted.append (before : List String) {xs ys : List String} (rest : Undotted xs ys) :
    Undotted (before ++ xs) (before ++ ys) := by
  induction before with
  | nil => exact rest
  | cons x before ih => exact .step x ih

theorem Undotted.empty {xs ys : List String} (same : Undotted xs ys) : xs.isEmpty = ys.isEmpty := by
  induction same with
  | nil => rfl
  | step => rfl
  | dot _ ih => exact ih

theorem Undotted.filter {xs : List String} (ends : xs.getLast? ≠ some ".") :
    Undotted xs (xs.filter (· ≠ ".")) := by
  induction xs with
  | nil => exact .nil
  | cons x rest ih =>
    cases rest with
    | nil =>
      have kept : x ≠ "." := by simpa using ends
      simpa [kept] using Undotted.step x .nil
    | cons y rest =>
      have later := ih (by simpa using ends)
      by_cases dot : x = "."
      · subst dot
        exact .dot later
      · simpa [List.filter_cons,dot] using Undotted.step x later

theorem goUndotted {t : FileTree} {follow : Bool} {links : Nat} {here : Location} {xs ys : List String}
    (same : Undotted xs ys) : t.go follow links here xs = t.go follow links here ys := by
  induction links using Nat.strongRecOn generalizing here xs ys with
  | ind links fewer =>
    induction same generalizing here with
    | nil => rfl
    | @dot x xs ys rest ih =>
      -- Where no directory is, the step after the dot fails as well.
      rw [← ih,go]
      split
      · rfl
      · rename_i nowhere
        rw [go]
        split
        · rename_i entries inside
          exact absurd inside (nowhere entries)
        · rfl
    | step x rest ih =>
      rw [go,go]
      split
      · rename_i entries inside
        simp only [ih,rest.empty]
        split
        · rfl
        · split
          · rfl
          · split
            · rfl
            · split
              · rfl
              · split
                · rfl
                · split
                  · rfl
                  · exact fewer _ (Nat.lt_succ_self _) (rest.append _)
              · rfl
      · rfl

theorem stepsCounted {p : String} (ends : EndsNamed p) : Undotted (steps p) (counted p) := by
  obtain ⟨_,open'⟩ := ends.open
  obtain ⟨name,last,given,notCurrent⟩ := ends
  obtain ⟨before,split⟩ := List.getLast?_eq_some_iff.mp last
  have named : steps p = (parts p).filter (· ≠ "") := if_neg open'
  have ended : (steps p).getLast? ≠ some "." := by
    simp [named,split,List.filter_append,given,notCurrent]
  have same : counted p = (steps p).filter (· ≠ ".") := by
    simp only [counted,named,List.filter_filter,Bool.and_comm]
  exact same ▸ Undotted.filter ended

theorem locateRespelled {t : FileTree} {p q : String} (key : SameKey p q) (left : EndsNamed p)
    (right : EndsNamed q) (side : pathLimit ≤ p.utf8ByteSize ↔ pathLimit ≤ q.utf8ByteSize) :
    t.locate true p = t.locate true q := by
  have nul : '\x00' ∈ p.toList ↔ '\x00' ∈ q.toList := by
    rw [countedChar (by decide) (by decide),countedChar (by decide) (by decide),sameCounted key]
  have went : t.go true linkLimit (start p t.working) (steps p) =
      t.go true linkLimit (start q t.working) (steps q) := by
    rw [goUndotted (stepsCounted left),goUndotted (stepsCounted right),sameCounted key,start,start,sameStart key]
  simp only [locate,String.isEmpty_iff,left.open.1,right.open.1,List.contains_iff_mem,nul,side,went]

theorem longUnread {t : FileTree} {p : String} {format : SourceFormat}
    (known : SourceFormat.ofPath? p = some format) (spelled : '\x00' ∉ p.toList)
    (long : pathLimit ≤ p.utf8ByteSize) :
    t.readDocument p = .error (.unsupportedFile (some (.io .nameTooLong))) := by
  have given : p ≠ "" := by
    intro empty
    subst empty
    exact absurd long (by decide)
  simp [readDocument,known,read,find,locate,given,spelled,long,bind,Except.bind]

theorem sameFormat {p q : String} (key : SameKey p q) :
    SourceFormat.ofPath? p = SourceFormat.ofPath? q := by
  simp only [SourceFormat.ofPath?,extension?,fileName?,show components p = components q from key]

theorem readRespelled {t : FileTree} {p q : String} (key : SameKey p q) (left : EndsNamed p)
    (right : EndsNamed q) (side : pathLimit ≤ p.utf8ByteSize ↔ pathLimit ≤ q.utf8ByteSize) :
    t.readDocument p = t.readDocument q := by
  simp only [readDocument,sameFormat key,read,find,locateRespelled key left right side]

end FileTree
end SchemaCheck
