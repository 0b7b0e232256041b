import SchemaCheck.Text.Blank
/-! Flags of a pattern: how they are written and how they change the reading of what follows. -/
namespace SchemaCheck.Pattern

inductive Flag where
  | caseless
  | lines
  | dotAll
  | lazy
  | unicode
  | crlf
  | verbose
  deriving DecidableEq, Repr

def Flag.ofChar? : Char → Option Flag
  | 'i' => some .caseless
  | 'm' => some .lines
  | 's' => some .dotAll
  | 'U' => some .lazy
  | 'u' => some .unicode
  | 'R' => some .crlf
  | 'x' => some .verbose
  | _ => none

abbrev Flags := List Flag

namespace Flags

def initial : Flags := [.unicode]

def has (fs : Flags) (f : Flag) : Bool := fs.contains f

abbrev Change := Option Flag

def applyFrom : Bool → List Change → Flags → Flags
  | _, [], fs => fs
  | _, none :: cs, fs => applyFrom false cs fs
  | on, some f :: cs, fs => applyFrom on cs (if on then f :: fs else fs.filter (· ≠ f))

def apply (fs : Flags) (changes : List Change) : Flags := applyFrom true changes fs

def readChange? : Char → Option Change
  | '-' => some none
  | c => (Flag.ofChar? c).map some

/-- Reads marks up to a colon or a closing parenthesis, which is given back. No mark comes twice, and a
flag follows the sign. `seen` holds the marks read, last first. -/
def readChanges : List Change → List Char → Option (List Change × Char × List Char)
  | _, [] => none
  | seen, c :: cs =>
    if c = ':' ∨ c = ')' then
      if seen.head? = some none then none else some (seen.reverse, c, cs)
    else do
      let change ← readChange? c
      if seen.contains change then none else readChanges (change :: seen) cs

/-! ## White space in verbose patterns -/

def dropRemarks : Bool → List Char → List Char
  | _, [] => []
  | true, c :: cs => dropRemarks (c ≠ '\n') cs
  | false, c :: cs =>
    if Text.isBlank c then dropRemarks false cs
    else if c = '#' then dropRemarks true cs
    else c :: cs

def skip (fs : Flags) (cs : List Char) : List Char :=
  if fs.has .verbose then dropRemarks false cs else cs

theorem lengthDropRemarks (inside : Bool) (cs : List Char) :
    (dropRemarks inside cs).length ≤ cs.length := by
  induction cs generalizing inside with
  | nil => simp [dropRemarks]
  | cons c cs ih =>
    cases inside with
    | true => exact Nat.le_succ_of_le (ih _)
    | false =>
      unfold dropRemarks
      split
      · exact Nat.le_succ_of_le (ih _)
      · split
        · exact Nat.le_succ_of_le (ih _)
        · exact Nat.le_refl _

theorem lengthSkip (fs : Flags) (cs : List Char) : (fs.skip cs).length ≤ cs.length := by
  unfold skip
  split
  · exact lengthDropRemarks false cs
  · exact Nat.le_refl _

def gather (fs : Flags) (p : Char → Bool) : List Char → List Char × List Char
  | [] => ([], [])
  | c :: cs =>
    if p c then
      let (taken, rest) := gather fs p (fs.skip cs)
      (c :: taken, rest)
    else ([], c :: cs)
termination_by cs => cs.length
decreasing_by exact Nat.lt_succ_of_le (lengthSkip fs cs)

end Flags
end SchemaCheck.Pattern
