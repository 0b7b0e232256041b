import SchemaCheck.Decimal.Power
import SchemaCheck.Pattern.Expr
/-! How deep and how large an expression is. A pattern beyond the limits is not accepted. -/
namespace SchemaCheck.Pattern
open Text (CharSet Ranges)

def depthLimit : Nat := 250

def sizeLimit : Nat := 10 * twoPow 20

namespace Expr

def isConcat : Expr → Bool
  | concat .. => true
  | _ => false

def isAlt : Expr → Bool
  | alt .. => true
  | _ => false

def depth : Expr → Nat
  | empty | set _ | anchor _ => 0
  | group e => e.depth + 1
  | concat a b => max (a.depth + 1) (if b.isConcat then b.depth else b.depth + 1)
  | alt a b => max (a.depth + 1) (if b.isAlt then b.depth else b.depth + 1)
  | rounds e _ _ => e.depth + 1

def isWidthless : Expr → Bool
  | empty | anchor _ => true
  | set _ => false
  | group e => e.isWidthless
  | concat a b => a.isWidthless && b.isWidthless
  | alt a b => a.isWidthless && b.isWidthless
  | rounds e _ most => e.isWidthless || most == some 0

end Expr

def spans : CharSet → Nat
  | .ranges rs => rs.merged.length
  | .union a b => spans a + spans b
  | .inter a b => spans a + spans b
  | .compl a => spans a + 1
  | .caseless a => 2 * spans a
  | .asciiCaseless a => 2 * spans a

def isAscii : CharSet → Bool
  | .ranges rs => rs.all fun r => r.2 < 0x80
  | .union a b => isAscii a && isAscii b
  | .inter a b => isAscii a || isAscii b
  | .compl _ => false
  | .caseless a => isAscii a
  | .asciiCaseless a => isAscii a

def setCost (s : CharSet) : Nat :=
  match s with
  | .ranges [(m, n)] => if m = n then 32 * (Char.ofNat n).utf8Size else 32 + 60
  | s => if isAscii s then 32 + 8 * spans s else 250 + 60 * spans s

/-- About the bytes that the automaton takes. Each round that can be asked for has states of its own, and
one more where the rounds may end; unless rounds take no characters: then one is like many. -/
def Expr.cost : Expr → Nat
  | .empty => 0
  | .set s => setCost s
  | .anchor _ => 32
  | .group e => e.cost + 64
  | .concat a b => a.cost + b.cost
  | .alt a b => a.cost + b.cost + 32
  | .rounds e least none => (if e.isWidthless then 1 else max least 1) * e.cost + 48
  | .rounds e least (some most) =>
    if e.isWidthless then min most 1 * (e.cost + 48)
    else least * e.cost + (most - least) * (e.cost + 48)

def Expr.fits (e : Expr) : Bool := e.depth ≤ depthLimit && e.cost ≤ sizeLimit

end SchemaCheck.Pattern
