import SchemaCheck.Decimal.Binary64
/-! The fewest decimal digits that read back as a given number. Of the decimals with that many digits
inside the interval that rounds to the number, the nearest is taken, a tie going to the even digit. -/
namespace SchemaCheck.Decimal

structure Digits where
  digits : Nat
  power : Int
  deriving DecidableEq, Repr

structure Interval where
  low : Nat
  value : Nat
  high : Nat
  den : Nat
  closed : Bool

def Interval.of (x : Binary64) : Interval :=
  let m := x.mantissa
  let gap := if x.fraction = 0 && 1 < x.scale then 1 else 2
  let e := x.exponent - 2
  let up := twoPow e.toNat
  ⟨(4 * m - gap) * up, 4 * m * up, (4 * m + 2) * up, twoPow (-e).toNat, m % 2 = 0⟩

def Interval.holds (i : Interval) (num : Nat) : Bool :=
  if i.closed then i.low ≤ num && num ≤ i.high else i.low < num && num < i.high

def digitCount (n : Nat) : Nat := if n = 0 then 0 else (Nat.toDigits 10 n).length

def leadingPower (num den : Nat) : Int :=
  if den ≤ num then (digitCount (num / den) : Int) - 1 else -(digitCount ((den - 1) / num) : Int)

def Interval.onGrid (i : Interval) (power : Int) : Interval :=
  if 0 ≤ power then { i with den := i.den * tenPow power.toNat }
  else
    let k := tenPow (-power).toNat
    { i with low := i.low * k, value := i.value * k, high := i.high * k }

def Interval.neighbour (i : Interval) : Option Nat :=
  let d := i.value / i.den
  let down := i.holds (d * i.den)
  let up := i.holds ((d + 1) * i.den)
  let twice := 2 * (i.value % i.den)
  match down, up with
  | false, false => none
  | true, false => some d
  | false, true => some (d + 1)
  | true, true =>
    if twice < i.den then some d else if i.den < twice then some (d + 1) else some (d + d % 2)

def shortestFrom (i : Interval) (first : Int) : Nat → Nat → Digits
  | 0, _ => ⟨0, 0⟩
  | left + 1, count =>
    let power := first - count
    match (i.onGrid power).neighbour with
    | some d => ⟨d, power⟩
    | none => shortestFrom i first left (count + 1)

def Digits.trim : Nat → Digits → Digits
  | 0, d => d
  | fuel + 1, d =>
    if d.digits % 10 = 0 && d.digits ≠ 0 then Digits.trim fuel ⟨d.digits / 10, d.power + 1⟩ else d

def shortest (x : Binary64) : Digits :=
  let i := Interval.of x
  (shortestFrom i (leadingPower i.value i.den) 17 0).trim 17

structure Layout where
  least : Int
  most : Int

def Layout.plain : Layout := ⟨-5, 15⟩

def Layout.writeDigits (layout : Layout) (d : Digits) : String :=
  let ds := Nat.toDigits 10 d.digits
  let first : Int := d.power + ds.length - 1
  if layout.least ≤ first ∧ first ≤ layout.most then
    if 0 ≤ d.power then String.ofList (ds ++ List.replicate d.power.toNat '0') ++ ".0"
    else if first < 0 then
      "0." ++ String.ofList (List.replicate ((-first).toNat - 1) '0' ++ ds)
    else
      let whole := first.toNat + 1
      String.ofList (ds.take whole) ++ "." ++ String.ofList (ds.drop whole)
  else
    let mantissa := match ds with
      | [] => ""
      | [c] => String.ofList [c]
      | c :: cs => String.ofList (c :: '.' :: cs)
    let sign := if first < 0 then "-" else "+"
    mantissa ++ "e" ++ sign ++ toString first.natAbs

def Layout.write (layout : Layout) (x : Binary64) : String :=
  let body := if x.isZero then "0.0" else layout.writeDigits (shortest x)
  if x.negative then "-" ++ body else body

end SchemaCheck.Decimal
