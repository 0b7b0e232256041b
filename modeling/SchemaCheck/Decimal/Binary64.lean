import SchemaCheck.Decimal.Power
/-! Binary floating point numbers of 64 bits, held as their bits, the nearest one to a decimal, and
products and quotients of those that are finite. -/
namespace SchemaCheck

structure Binary64 where
  bits : UInt64
  deriving DecidableEq, Repr, Inhabited

namespace Binary64

def ofNat (bits : Nat) : Binary64 := ⟨UInt64.ofNat bits⟩

def zero : Binary64 := ⟨0⟩

def negative (x : Binary64) : Bool := decide (twoPow 63 ≤ x.bits.toNat)

def scale (x : Binary64) : Nat := x.bits.toNat / twoPow 52 % twoPow 11

def fraction (x : Binary64) : Nat := x.bits.toNat % twoPow 52

def isFinite (x : Binary64) : Bool := decide (x.scale ≠ 2047)

def isNaN (x : Binary64) : Bool := !x.isFinite && decide (x.fraction ≠ 0)

def isZero (x : Binary64) : Bool := decide (x.scale = 0 ∧ x.fraction = 0)

def mantissa (x : Binary64) : Nat := if x.scale = 0 then x.fraction else twoPow 52 + x.fraction

def exponent (x : Binary64) : Int := (max x.scale 1 : Nat) - 1075

def sameNumber (x y : Binary64) : Bool :=
  !x.isNaN && (decide (x = y) || (x.isZero && y.isZero))

def signed (negative : Bool) (magnitude : Nat) : Binary64 :=
  ofNat (if negative then twoPow 63 + magnitude else magnitude)

def infinity (negative : Bool) : Binary64 := signed negative (2047 * twoPow 52)

def nan : Binary64 := ofNat (4095 * twoPow 51)

def roundQuotient (num den : Nat) : Nat :=
  let q := num / den
  let twice := 2 * (num % den)
  if twice < den then q
  else if den < twice then q + 1
  else q + q % 2

def unitsOf (num den : Nat) (e : Int) : Nat :=
  if 0 ≤ e then roundQuotient num (den * twoPow e.toNat) else roundQuotient (num * twoPow (-e).toNat) den

def ofRatio (isNegative : Bool) (num den : Nat) : Binary64 :=
  if num = 0 then signed isNegative 0
  else
    let guess : Int := (Nat.log2 num : Int) - (Nat.log2 den : Int) - 52
    let below : Bool :=
      if 0 ≤ guess then num < den * twoPow (guess.toNat + 52)
      else num * twoPow (-guess).toNat < den * twoPow 52
    let e := max (if below then guess - 1 else guess) (-1074)
    let bits := (e + 1074).toNat * twoPow 52 + unitsOf num den e
    if 2047 * twoPow 52 ≤ bits then infinity isNegative else signed isNegative bits

/-- The number nearest to `digits · 10 ^ power`; powers far outside the range need no arithmetic. -/
def ofDecimal (isNegative : Bool) (digits : Nat) (power : Int) : Binary64 :=
  let size : Int := (Nat.toDigits 10 digits).length
  if digits = 0 || size + power < -330 then signed isNegative 0
  else if 310 < size + power then infinity isNegative
  else if 0 ≤ power then ofRatio isNegative (digits * tenPow power.toNat) 1
  else ofRatio isNegative digits (tenPow (-power).toNat)

def ratio (x : Binary64) : Nat × Nat :=
  if 0 ≤ x.exponent then (x.mantissa * twoPow x.exponent.toNat, 1) else (x.mantissa, twoPow (-x.exponent).toNat)

def product (x y : Binary64) : Binary64 :=
  ofRatio (x.negative ^^ y.negative) (x.ratio.1 * y.ratio.1) (x.ratio.2 * y.ratio.2)

def quotient (x y : Binary64) : Binary64 :=
  ofRatio (x.negative ^^ y.negative) (x.ratio.1 * y.ratio.2) (x.ratio.2 * y.ratio.1)

end Binary64
end SchemaCheck
