import SchemaCheck.Proofs.Dumps
import SchemaCheck.Text.Blank

/-! The lines of a text. There is one more of them than line feeds that something follows, and what follows
after a line feed has lines of its own. -/
namespace SchemaCheck

namespace Text

def Closed (cs : List Char) : Prop := ∃ c ∈ cs.getLast?, c ≠ '\n' ∧ c ≠ '\r'

theorem Closed.after (before : List Char) {cs : List Char} (closed : Closed cs) : Closed (before ++ cs) := by
  obtain ⟨c,last,visible⟩ := closed
  exact ⟨c,by simp_all [List.getLast?_append],visible⟩

theorem Closed.split {cs : List Char} (closed : Closed cs) :
    ∃ before c, cs = before ++ [c] ∧ c ≠ '\n' ∧ c ≠ '\r' := by
  obtain ⟨c,last,visible⟩ := closed
  obtain ⟨before,same⟩ := List.getLast?_eq_some_iff.mp last
  exact ⟨before,c,same,visible⟩

theorem linesFromStep {c : Char} (other : c ≠ '\n') (line rest : List Char) :
    linesFrom line (c :: rest) = linesFrom (c :: line) rest := by
  rw [linesFrom]
  exact other

theorem linesFromFlat (line : List Char) {cs : List Char} (flat : '\n' ∉ cs) (rest : List Char) :
    linesFrom line (cs ++ '\n' :: rest) = dropReturn (line.reverse ++ cs) :: linesFrom [] rest := by
  induction cs generalizing line with
  | nil => simp [linesFrom]
  | cons c cs ih =>
    obtain ⟨other,flat⟩ : '\n' ≠ c ∧ '\n' ∉ cs := by simpa using flat
    rw [List.cons_append,linesFromStep (Ne.symm other),ih (c :: line) flat]
    simp

theorem linesFromLast (line : List Char) {cs : List Char} (flat : '\n' ∉ cs) :
    linesFrom line cs = if line = [] ∧ cs = [] then [] else [line.reverse ++ cs] := by
  induction cs generalizing line with
  | nil => cases line <;> simp [linesFrom]
  | cons c cs ih =>
    obtain ⟨other,flat⟩ : '\n' ≠ c ∧ '\n' ∉ cs := by simpa using flat
    rw [linesFromStep (Ne.symm other),ih (c :: line) flat]
    simp

theorem linesFromClosed (line : List Char) {cs : List Char} (closed : Closed cs) (rest : List Char) :
    linesFrom line (cs ++ '\n' :: rest) = linesFrom line cs ++ linesFrom [] rest := by
  obtain ⟨before,c,rfl,notFeed,notReturn⟩ := closed.split
  clear closed
  induction before generalizing line with
  | nil => simp [linesFrom,dropReturn,notReturn]
  | cons d before ih =>
    by_cases feed : d = '\n'
    · subst feed
      simpa [linesFrom] using ih []
    · simpa [linesFromStep feed] using ih (d :: line)

theorem linesFromCount (line before : List Char) (c : Char) :
    (linesFrom line (before ++ [c])).length = before.count '\n' + 1 := by
  induction before generalizing line with
  | nil =>
    by_cases feed : c = '\n'
    · simp [feed,linesFrom]
    · simp [linesFromStep feed,linesFrom]
  | cons d before ih =>
    by_cases feed : d = '\n'
    · subst feed
      simp [linesFrom,ih]
    · rw [List.cons_append,linesFromStep feed,ih,List.count_cons_of_ne feed]

theorem linesFromUnbroken {before cs line : List Char} (flat : '\n' ∉ before)
    (member : line ∈ linesFrom before cs) : '\n' ∉ line := by
  have shortened : ∀ cs : List Char, '\n' ∉ cs → '\n' ∉ dropReturn cs := by
    intro cs flat
    unfold dropReturn
    split
    · exact fun inside => flat (List.dropLast_subset _ inside)
    · exact flat
  induction cs generalizing before with
  | nil =>
    rw [linesFromLast before List.not_mem_nil] at member
    split at member
    · contradiction
    · cases List.mem_singleton.mp member
      simpa using flat
  | cons c cs ih =>
    by_cases feed : c = '\n'
    · subst feed
      simp only [linesFrom,List.mem_cons] at member
      rcases member with rfl | later
      · exact shortened _ (by simpa using flat)
      · exact ih List.not_mem_nil later
    · rw [linesFromStep feed] at member
      exact ih (List.not_mem_cons_of_ne_of_not_mem (Ne.symm feed) flat) member

def feeds (s : String) : Nat := s.toList.count '\n'

/- The line feeds that something follows. -/
def breaks (s : String) : Nat := s.toList.dropLast.count '\n'

theorem feedsUnbroken {s : String} : feeds s = 0 ↔ Unbroken s := List.count_eq_zero

theorem feedsAppend (a b : String) : feeds (a ++ b) = feeds a + feeds b := by
  simp [feeds]

theorem feedsBefore {b : String} (fixed : feeds b = 0) (a : String) : feeds (a ++ b) = feeds a := by
  rw [feedsAppend,fixed,Nat.add_zero]

theorem feedsBetween {a b : String} (left : feeds a = 0) (right : feeds b = 0) (s : String) :
    feeds (a ++ s ++ b) = feeds s := by
  rw [feedsBefore right,feedsAppend,left,Nat.zero_add]

theorem breaksClosed {s : String} (closed : Closed s.toList) : breaks s = feeds s := by
  obtain ⟨before,c,same,notFeed,_⟩ := closed.split
  simp [breaks,feeds,same,notFeed]

theorem breaksAfter {a : String} (flat : Unbroken a) (b : String) : breaks (a ++ b) = breaks b := by
  unfold breaks
  rw [String.toList_append]
  cases spelled : b.toList with
  | nil =>
    rw [List.append_nil]
    exact List.count_eq_zero.mpr fun inside => flat (List.dropLast_subset _ inside)
  | cons c cs =>
    rw [List.dropLast_append_of_ne_nil (List.cons_ne_nil c cs),List.count_append,List.count_eq_zero.mpr flat,
      Nat.zero_add]

theorem linesCount {s : String} (given : s ≠ "") : (lines s).length = breaks s + 1 := by
  have spelled : s.toList = s.toList.dropLast ++ [s.toList.getLast (by simpa using given)] :=
    (List.dropLast_append_getLast _).symm
  rw [lines,spelled,linesFromCount]
  simp [breaks]

theorem linesSingle {s : String} (given : s ≠ "") : lines s = [s.toList] ↔ Unbroken s := by
  constructor
  · intro single
    exact linesFromUnbroken List.not_mem_nil (single ▸ List.mem_singleton.mpr rfl)
  · intro unbroken
    rw [lines,linesFromLast [] unbroken]
    simp [given]

theorem linesFromEnded {pieces : List (List Char)} (flat : ∀ piece ∈ pieces, '\n' ∉ piece)
    (rest : List Char) :
    linesFrom [] ((pieces.flatMap fun piece => piece ++ ['\n']) ++ rest) =
      pieces.map dropReturn ++ linesFrom [] rest := by
  induction pieces with
  | nil => rfl
  | cons piece pieces ih =>
    obtain ⟨own,later⟩ := List.forall_mem_cons.mp flat
    rw [List.flatMap_cons,List.append_assoc,List.append_assoc,List.singleton_append,linesFromFlat [] own,
      ih later]
    rfl

def Shown (s : String) : Prop := s.toList.head?.map isBlank = some false

instance (s : String) : Decidable (Shown s) := by unfold Shown; infer_instance

theorem Shown.before {a : String} (shown : Shown a) (b : String) : Shown (a ++ b) := by
  unfold Shown at *
  cases spelled : a.toList <;> simp_all

theorem Shown.given {s : String} (shown : Shown s) : s ≠ "" := by
  rintro rfl
  contradiction

theorem Shown.kept {s : String} (shown : Shown s) : dropBlanks s.toList = s.toList := by
  unfold Shown at shown
  cases spelled : s.toList <;> simp_all [dropBlanks]

end Text
end SchemaCheck
