import SchemaCheck.Value
import SchemaCheck.Yaml.Node
/-! What the text of a scalar means where nothing is expected of it, and the words, integers and
decimals that typed fields read. -/
namespace SchemaCheck.Yaml

def nullWord (s : String) : Bool := s ∈ ["null", "Null", "NULL", "~"]

def flag? (s : String) : Option Bool :=
  if s ∈ ["true", "True", "TRUE"] then some true
  else if s ∈ ["false", "False", "FALSE"] then some false
  else none

def digitValue? (radix : Nat) (x : Char) : Option Nat :=
  let n := x.toNat
  let d :=
    if x.isDigit then n - 48
    else if 97 ≤ n && n ≤ 102 then n - 87
    else if 65 ≤ n && n ≤ 70 then n - 55
    else radix
  if d < radix then some d else none

def natural? (radix : Nat) : List Char → Option Nat
  | [] => none
  | cs => cs.foldlM (fun n x => (digitValue? radix x).map (radix * n + ·)) 0

def signed (cs : List Char) : Bool := cs.head? = some '+' || cs.head? = some '-'

def zeroLed (cs : List Char) : Bool :=
  match (if signed cs then cs.drop 1 else cs) with
  | '0' :: x :: rest => (x :: rest).all Char.isDigit
  | _ => false

def magnitude? : List Char → Option Nat
  | '0' :: 'x' :: rest => natural? 16 rest
  | '0' :: 'o' :: rest => natural? 8 rest
  | '0' :: 'b' :: rest => natural? 2 rest
  | cs => natural? 10 cs

def integer? (cs : List Char) : Option Int :=
  if zeroLed cs then none
  else match cs with
    | '-' :: rest => (magnitude? rest).map fun n => -(n : Int)
    | '+' :: rest => (magnitude? rest).map Int.ofNat
    | cs => (magnitude? cs).map Int.ofNat

def decimal? (negative : Bool) (cs : List Char) : Option Binary64 :=
  let whole := cs.takeWhile Char.isDigit
  let rest := cs.dropWhile Char.isDigit
  let (fraction, rest) := match rest with
    | '.' :: rest => (rest.takeWhile Char.isDigit, rest.dropWhile Char.isDigit)
    | rest => ([], rest)
  let digits := whole ++ fraction
  let power? : Option Int := match rest with
    | [] => some 0
    | e :: rest =>
      if e == 'e' || e == 'E' then
        match rest with
        | '-' :: rest => (natural? 10 rest).map fun n => -(n : Int)
        | '+' :: rest => (natural? 10 rest).map Int.ofNat
        | rest => (natural? 10 rest).map Int.ofNat
      else none
  match natural? 10 digits, power? with
  | some n, some power =>
    let x := Binary64.ofDecimal negative n (power - fraction.length)
    if x.isFinite then some x else none
  | _, _ => none

def number? (s : String) : Option Binary64 :=
  if s ∈ [".inf", ".Inf", ".INF", "+.inf", "+.Inf", "+.INF"] then some (.infinity false)
  else if s ∈ ["-.inf", "-.Inf", "-.INF"] then some (.infinity true)
  else if s ∈ [".nan", ".NaN", ".NAN"] then some .nan
  else match s.toList with
    | '-' :: rest => decimal? true rest
    | '+' :: rest => decimal? false rest
    | cs => decimal? false cs

/-- An integer that fits 64 bits; one that fits only twice as many is refused, and one that does not
even fit those is no integer. -/
def integerValue? (n : Int) : Option (Option Value) :=
  if -(twoPow 63 : Int) ≤ n ∧ n < twoPow 64 then some (some (.int n))
  else if -(twoPow 127 : Int) ≤ n ∧ n < twoPow 128 then some none
  else none

def plainValue? (s : String) : Option Value :=
  if s.isEmpty || nullWord s then some .null
  else match flag? s with
    | some b => some (.bool b)
    | none =>
      match (integer? s.toList).bind integerValue? with
      | some v => v
      | none =>
        if zeroLed s.toList then some (.string s)
        else match number? s with
          | some x => some (Value.ofNumber x)
          | none => some (.string s)

def coreTag (name : String) : String := "tag:yaml.org,2002:" ++ name

def isLocalTag (tag : Option String) : Bool := tag.any (·.startsWith "!")

def scalarValue? (tag : Option String) (s : String) (style : Style) : Option Value :=
  match tag with
  | none => if style = .plain then plainValue? s else some (.string s)
  | some t =>
    if isLocalTag tag then none
    else if t = coreTag "bool" then (flag? s).map .bool
    else if t = coreTag "int" then ((integer? s.toList).bind integerValue?).join
    else if t = coreTag "float" then (number? s).map Value.ofNumber
    else if t = coreTag "null" then if nullWord s then some .null else none
    else some (.string s)

end SchemaCheck.Yaml
