import SchemaCheck.Text.Property
/-! Regular expressions, and where in a text they match: an expression takes a set of places to the
places that a match from one of them can end at. -/
namespace SchemaCheck.Pattern
open Text (CharSet)

inductive Alphabet where
  | ascii | unicode
  deriving DecidableEq, Repr

def asciiWord : Text.Ranges := [(0x30, 0x39), (0x41, 0x5a), (0x5f, 0x5f), (0x61, 0x7a)]

def Alphabet.word : Alphabet → CharSet
  | ascii => .ranges asciiWord
  | unicode => Text.Property.word

inductive Anchor where
  | textStart | textEnd
  | lineStart | lineEnd
  | lineStartCrlf | lineEndCrlf
  | boundary (a : Alphabet) | noBoundary (a : Alphabet)
  | wordStart (a : Alphabet) | wordEnd (a : Alphabet)
  | wordStartHalf (a : Alphabet) | wordEndHalf (a : Alphabet)
  deriving DecidableEq, Repr

def Alphabet.inWord (a : Alphabet) (c : Option Char) : Bool := c.any fun c => a.word.holds c.toNat

def Anchor.between (before after : Option Char) : Anchor → Bool
  | textStart => before.isNone
  | textEnd => after.isNone
  | lineStart => before.all (· == '\n')
  | lineEnd => after.all (· == '\n')
  | lineStartCrlf => before.all fun c => c == '\n' || (c == '\r' && after != some '\n')
  | lineEndCrlf => after.all fun c => c == '\r' || (c == '\n' && before != some '\r')
  | boundary a => a.inWord before != a.inWord after
  | noBoundary a => a.inWord before == a.inWord after
  | wordStart a => !a.inWord before && a.inWord after
  | wordEnd a => a.inWord before && !a.inWord after
  | wordStartHalf a => !a.inWord before
  | wordEndHalf a => !a.inWord after

inductive Expr where
  | empty
  | set (s : CharSet)
  | anchor (a : Anchor)
  | group (e : Expr)
  | concat (a b : Expr)
  | alt (a b : Expr)
  | rounds (e : Expr) (least : Nat) (most : Option Nat)
  deriving DecidableEq, Repr

abbrev Places := List Nat

namespace Places

def merge (ps qs : Places) : Places := ps ++ qs.filter fun q => !ps.contains q

def iterate (step : Places → Places) : Nat → Places → Places
  | 0, ps => ps
  | n + 1, ps => iterate step n (step ps)

def spread (step : Places → Places) : Nat → Places → Places
  | 0, ps => ps
  | n + 1, ps =>
    let next := merge ps (step ps)
    if next.length = ps.length then ps else spread step n next

end Places

namespace Expr

def anchorHolds (text : Array Char) (a : Anchor) (i : Nat) : Bool :=
  a.between (if i = 0 then none else text[i - 1]?) text[i]?

def takeChar (text : Array Char) (s : CharSet) (i : Nat) : Option Nat :=
  match text[i]? with
  | some c => if s.holds c.toNat then some (i + 1) else none
  | none => none

/-- Where a match can end that begins at one of the places. A round leads nowhere back, so that rounds
beyond the number of places in the text change nothing: those that take characters are at most as many
as characters, and of the others one is like many. -/
def ends (text : Array Char) : Expr → Places → Places
  | empty, ps => ps
  | set s, ps => ps.filterMap (takeChar text s)
  | anchor a, ps => ps.filter (anchorHolds text a)
  | group e, ps => e.ends text ps
  | concat a b, ps => b.ends text (a.ends text ps)
  | alt a b, ps => Places.merge (a.ends text ps) (b.ends text ps)
  | rounds e least most, ps =>
    let step := fun qs => e.ends text qs
    let limit := text.size + 1
    let more := (most.map (· - least)).getD limit
    Places.spread step (min more limit) (Places.iterate step (min least limit) ps)

def foundIn (e : Expr) (text : String) : Bool :=
  let cs := text.toList.toArray
  !(e.ends cs (List.range (cs.size + 1))).isEmpty

end Expr
end SchemaCheck.Pattern
