import SchemaCheck.Proofs.FileTrees

/-! Finding what a path means. A way through the tree is told step by step; without links a path means the
same whether links are followed or not, and a file is found under its own name. -/
namespace SchemaCheck

namespace FileTree
open FileNode

/- A way that arrives, step by step. A link is followed with the steps that it stands for, of which there are
only so many, or it is the end of the way. -/
inductive Goes (t : FileTree) (follow : Bool) : Nat → Location → List String → Location → Prop where
  | done {links : Nat} {here : Location} : Goes t follow links here [] here
  | current {links : Nat} {here place : Location} {entries : List (String × FileNode)} {rest : List String}
      (inside : t.root.at? here = some (.directory entries)) (goes : Goes t follow links here rest place) :
      Goes t follow links here ("." :: rest) place
  | parent {links : Nat} {here place : Location} {entries : List (String × FileNode)} {rest : List String}
      (inside : t.root.at? here = some (.directory entries))
      (goes : Goes t follow links here.dropLast rest place) : Goes t follow links here (".." :: rest) place
  | entry {links : Nat} {here place : Location} {entries : List (String × FileNode)} {x : String}
      {n : FileNode} {rest : List String} (inside : t.root.at? here = some (.directory entries))
      (named : x ≠ "." ∧ x ≠ "..") (found : Entries.get? x entries = some n)
      (goes : Goes t follow links (here ++ [x]) rest place) : Goes t follow links here (x :: rest) place
  | link {links : Nat} {here place : Location} {entries : List (String × FileNode)} {x target : String}
      {rest : List String} (inside : t.root.at? here = some (.directory entries))
      (named : x ≠ "." ∧ x ≠ "..") (found : Entries.get? x entries = some (.link target))
      (goes : Goes t follow links (start target here) (steps target ++ rest) place) :
      Goes t follow (links + 1) here (x :: rest) place

theorem goes {t : FileTree} {follow : Bool} {links : Nat} {here place : Location} {xs : List String}
    (went : t.go follow links here xs = .ok place) : Goes t follow links here xs place := by
  induction links using Nat.strongRecOn generalizing here xs with
  | ind links fewer =>
    induction xs generalizing here with
    | nil =>
      rw [go] at went
      cases went
      exact .done
    | cons x rest ih =>
      rw [go] at went
      split at went
      · rename_i entries inside
        split at went
        · subst x
          exact .current inside (ih went)
        · split at went
          · subst x
            exact .parent inside (ih went)
          · rename_i notCurrent notParent
            have named := And.intro notCurrent notParent
            split at went
            · contradiction
            · split at went
              · contradiction
              · rename_i target found
                split at went
                · rename_i last
                  cases went
                  obtain rfl : rest = [] := List.isEmpty_iff.mp (Bool.and_eq_true_iff.mp last).1
                  exact .entry inside named found .done
                · split at went
                  · contradiction
                  · exact .link inside named found (fewer _ (Nat.lt_succ_self _) went)
              · rename_i found
                exact .entry inside named found (ih went)
      · contradiction

theorem noLinkEntry {t : FileTree} (free : t.root.LinkFree) {here : Location}
    {entries : List (String × FileNode)} (open' : t.root.at? here = some (.directory entries))
    {name target : String} : Entries.get? name entries ≠ some (.link target) := by
  intro found
  cases free.at open' with
  | directory inside => cases inside _ (Entries.memberGet found)

theorem goSame {t : FileTree} (free : t.root.LinkFree) (follow : Bool) (links : Nat) (here : Location)
    (steps : List String) : t.go follow links here steps = t.go true linkLimit here steps := by
  induction steps generalizing here with
  | nil => simp [go]
  | cons step rest ih =>
    rw [go,go]
    split
    · rename_i entries inside
      simp only [ih]
      split
      · rfl
      · split
        · rfl
        · split
          · rfl
          · split
            · rfl
            · rename_i target found
              exact absurd found (noLinkEntry free inside)
            · rfl
    · rfl

theorem findSame {t : FileTree} (free : t.root.LinkFree) (path : String) :
    t.find false path = t.find true path := by
  simp only [find,locate,goSame free false]

theorem findExact {t : FileTree} {follow : Bool} {path : String} {place : Location} {n : FileNode} :
    t.find follow path = .ok (place,n) ↔
      (path ≠ "" ∧ '\x00' ∉ path.toList ∧ path.utf8ByteSize < pathLimit) ∧
      t.go follow linkLimit (start path t.working) (steps path) = .ok place ∧
      t.root.at? place = some n := by
  unfold find locate
  by_cases empty : path = ""
  · simp [empty,bind,Except.bind]
  by_cases nul : '\x00' ∈ path.toList
  · simp [empty,nul,bind,Except.bind]
  by_cases long : pathLimit ≤ path.utf8ByteSize
  · simp [empty,nul,long,Nat.not_lt_of_le long,bind,Except.bind]
  · simp only [String.isEmpty_iff,empty,List.contains_iff_mem,nul,long,Nat.lt_of_not_le long,if_false,
      ne_eq,not_false_eq_true,true_and]
    cases t.go follow linkLimit (start path t.working) (steps path) with
    | error e => simp [bind,Except.bind]
    | ok l =>
      simp only [bind,Except.bind,Except.ok.injEq]
      cases present : t.root.at? l with
      | none =>
        simp only [throw,throwThe,MonadExceptOf.throw,false_iff,reduceCtorEq]
        intro found
        obtain ⟨rfl,found⟩ := found
        simp [present] at found
      | some m =>
        simp only [pure,Except.pure,Except.ok.injEq,Prod.mk.injEq]
        constructor
        · intro same
          obtain ⟨rfl,rfl⟩ := same
          exact ⟨rfl,present⟩
        · intro found
          obtain ⟨rfl,found⟩ := found
          exact ⟨rfl,Option.some.inj (present.symm.trans found)⟩

theorem findAt {t : FileTree} {follow : Bool} {path : String} {place : Location} {n : FileNode}
    (found : t.find follow path = .ok (place,n)) :
    t.go follow linkLimit (start path t.working) (steps path) = .ok place ∧
      t.root.at? place = some n := (findExact.mp found).2

theorem existsFound {t : FileTree} {path : String} :
    t.exists? path = true ↔ ∃ place n, t.find true path = .ok (place,n) := by
  unfold exists?
  cases t.find true path with
  | error e => simp [Except.isOk,Except.toBool]
  | ok x => exact iff_of_true rfl ⟨x.1,x.2,rfl⟩

theorem stepsLast (path : String) (nonempty : path ≠ "") :
    ∃ before x, steps path = before ++ [x] ∧
      (x ≠ "." → x ≠ "" ∧ ∃ init, Path.parts path = init ++ [x]) := by
  obtain ⟨init,x,split,ended⟩ := Path.partsLast path
  by_cases slash : path.endsWith "/" = true
  · exact ⟨(Path.parts path).filter (· ≠ ""),".",by simp [steps,slash],by simp⟩
  · have named : x ≠ "" := fun empty => (ended empty).elim nonempty slash
    refine ⟨init.filter (· ≠ ""),x,?_,fun _ => ⟨named,init,split⟩⟩
    simp [steps,slash,split,List.filter_append,named]

theorem parentDirectory {t : FileTree} {here : Location} {entries : List (String × FileNode)}
    (inside : t.root.at? here = some (.directory entries)) :
    ∃ entries, t.root.at? here.dropLast = some (.directory entries) := by
  rcases List.eq_nil_or_concat here with rfl | ⟨above,name,rfl⟩
  · exact ⟨entries,inside⟩
  · rw [List.concat_eq_append] at inside ⊢
    obtain ⟨entries,parent,_⟩ := directoryAbove inside
    exact ⟨entries,by simpa using parent⟩

theorem fileLast {t : FileTree} (free : t.root.LinkFree) {follow : Bool} {links : Nat}
    {here place : Location} {xs : List String} {content : List UInt8}
    (went : Goes t follow links here xs place) (found : t.root.at? place = some (.file content)) :
    (xs = [] ∧ place = here) ∨
      ∃ x, xs.getLast? = some x ∧ place.getLast? = some x ∧ x ≠ "." ∧ x ≠ ".." := by
  induction went with
  | done => exact Or.inl ⟨rfl,rfl⟩
  | current inside went ih =>
    rcases ih found with ⟨rfl,rfl⟩ | ⟨x,last,named⟩
    · cases inside.symm.trans found
    · exact Or.inr ⟨x,by simp [List.getLast?_cons,last],named⟩
  | parent inside went ih =>
    rcases ih found with ⟨rfl,rfl⟩ | ⟨x,last,named⟩
    · obtain ⟨_,parent⟩ := parentDirectory inside
      cases parent.symm.trans found
    · exact Or.inr ⟨x,by simp [List.getLast?_cons,last],named⟩
  | @entry _ _ _ _ y _ _ inside other entry went ih =>
    rcases ih found with ⟨rfl,rfl⟩ | ⟨x,last,named⟩
    · exact Or.inr ⟨y,rfl,by simp,other⟩
    · exact Or.inr ⟨x,by simp [List.getLast?_cons,last],named⟩
  | link inside other link went ih => exact absurd link (noLinkEntry free inside)

theorem lastRest {x : String} {rest : List String} (other : x ≠ ".")
    (last : (x :: rest).getLast? = some ".") : rest.getLast? = some "." := by
  cases rest with
  | nil => exact absurd (by simpa using last) other
  | cons y rest => simpa using last

theorem dotDirectory {t : FileTree} {follow : Bool} {links : Nat} {here place : Location}
    {xs : List String} (went : Goes t follow links here xs place) (last : xs.getLast? = some ".") :
    ∃ entries, t.root.at? place = some (.directory entries) := by
  induction went with
  | done => contradiction
  | @current _ _ _ entries rest inside went ih =>
    cases rest with
    | nil =>
      cases went
      exact ⟨entries,inside⟩
    | cons y rest => exact ih (by simpa using last)
  | parent inside went ih => exact ih (lastRest (by decide) last)
  | entry inside named found went ih => exact ih (lastRest named.1 last)
  | link inside named found went ih => exact ih (by rw [List.getLast?_append,lastRest named.1 last]; rfl)

theorem fileFound {t : FileTree} (free : t.root.LinkFree) {path : String} {place : Location}
    {content : List UInt8} (found : t.find true path = .ok (place,.file content)) :
    ∃ name, Path.fileName? path = some name ∧ place.getLast? = some name := by
  obtain ⟨⟨nonempty,_⟩,went,inside⟩ := findExact.mp found
  obtain ⟨before,x,split,named⟩ := stepsLast path nonempty
  rcases fileLast free (goes went) inside with ⟨empty,_⟩ | ⟨y,last,own,notCurrent,notParent⟩
  · simp [split] at empty
  · obtain rfl : x = y := by simpa [split] using last
    obtain ⟨given,init,parts⟩ := named notCurrent
    exact ⟨x,Path.fileNameLast parts given notCurrent notParent,own⟩

theorem stepsPadded {name : String} (proper : ProperName name) (slashes : Nat) :
    steps (Path.padded name slashes) = if slashes = 0 then [name] else [name,"."] := by
  have named : (Path.parts (Path.padded name slashes)).filter (· ≠ "") = [name] := by
    simp [Path.partsPadded proper.flat,proper.nonempty]
  rw [steps]
  simp only [named]
  cases slashes with
  | zero =>
    refine (if_neg fun ended => ?_).trans rfl
    obtain ⟨before,same⟩ := endsWithSlash.mp ended
    exact proper.flat (by simp_all [Path.padded])
  | succ slashes => exact (if_pos (Path.paddedEnd name slashes)).trans rfl

theorem stepsNamed {name : String} (proper : ProperName name) : steps name = [name] := by
  simpa [Path.padded] using stepsPadded proper 0

theorem findPadded {t : FileTree} {name : String} {entries : List (String × FileNode)} {slashes : Nat}
    (proper : ProperName name) (fits : name.utf8ByteSize ≤ nameLimit) (spelled : '\x00' ∉ name.toList)
    (short : name.utf8ByteSize + slashes < pathLimit)
    (entry : (t.root.at? t.working).bind (child? name) = some (.directory entries)) :
    t.find true (Path.padded name slashes) = .ok (t.working ++ [name],.directory entries) := by
  obtain ⟨working,here,child⟩ := Option.bind_eq_some_iff.mp entry
  obtain ⟨siblings,rfl,_⟩ := childEntry child
  have place : t.root.at? (t.working ++ [name]) = some (.directory entries) := by
    rw [atAppend,here,Option.bind_some]
    exact Option.bind_eq_some_iff.mpr ⟨_,child,rfl⟩
  have went : t.go true linkLimit t.working (steps (Path.padded name slashes)) =
      .ok (t.working ++ [name]) := by
    have rest : t.go true linkLimit (t.working ++ [name]) (if slashes = 0 then [] else ["."]) =
        .ok (t.working ++ [name]) := by
      split
      · rw [go]
      · rw [go,place]
        simp [go]
    have split : steps (Path.padded name slashes) = name :: if slashes = 0 then [] else ["."] := by
      rw [stepsPadded proper]
      split <;> rfl
    rw [split,go,here]
    simp only [proper.notCurrent,proper.notParent,Nat.not_lt_of_le fits,if_false]
    rw [show Entries.get? name siblings = _ from child]
    exact rest
  refine findExact.mpr ⟨⟨?_,?_,?_⟩,?_,place⟩
  · simp [Path.padded,proper.nonempty]
  · simpa [Path.padded] using spelled
  · rwa [Path.paddedSize]
  · rwa [start,Path.padded,Path.namedRelative proper]

def lone (name : String) (content : List UInt8) : FileTree := { root := .directory [(name,.file content)] }

theorem loneFound {name : String} {content : List UInt8} (proper : ProperName name)
    (fits : name.utf8ByteSize ≤ nameLimit) (spelled : '\x00' ∉ name.toList) (follow : Bool) :
    (lone name content).find follow name = .ok ([name],.file content) := by
  have short : name.utf8ByteSize < pathLimit := Nat.lt_of_le_of_lt fits (by decide)
  refine findExact.mpr ⟨⟨proper.nonempty,spelled,short⟩,?_,?_⟩
  · rw [stepsNamed proper]
    simp [start,Path.nameRelative proper,go,lone,FileNode.at?,Entries.get?,proper.notCurrent,
      proper.notParent,Nat.not_lt_of_le fits]
  · simp [lone,FileNode.at?,FileNode.child?,Entries.get?]

end FileTree
end SchemaCheck
