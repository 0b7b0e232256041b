import SchemaCheck.Json.Fault
/-! A JSON text as far as it can be read. Reading never fails: where the text breaks, the tree ends in a
`broken` node or a `Stop`, with one fault for a reader that wants the value and one for a reader that
only passes over it, because passing over asks for less. -/
namespace SchemaCheck.Json

abbrev Bytes := List UInt8

structure Stop where
  wanted : Fault
  skipped : Fault
  surplus : Fault
  deriving DecidableEq, Repr

def Stop.same (f surplus : Fault) : Stop := ⟨f, f, surplus⟩

inductive Number where
  | int (n : Int)
  | float (x : Binary64)
  deriving DecidableEq, Repr

/-- A number and a string can be well formed and still hold nothing that can be wanted. -/
inductive Tree where
  | null
  | bool (b : Bool)
  | number (n : Except Fault Number)
  | string (s : Except Fault String)
  | array (items : List Tree) (stop : Option Stop)
  | object (members : List (Tree × Tree)) (stop : Option Stop)
  | broken (wanted skipped : Fault)

def Tree.unreadable (f : Fault) : Tree := .broken f f

/-! ## Leaves -/

def isSpace (b : UInt8) : Bool := b == 32 || b == 10 || b == 9 || b == 13

def dropSpace (bs : Bytes) : Bytes := bs.dropWhile isSpace

def isDigit (b : UInt8) : Bool := 48 ≤ b && b ≤ 57

def digitsValue (bs : Bytes) : Nat := bs.foldl (fun n b => 10 * n + (b.toNat - 48)) 0

def word (t : Tree) : Bytes → Bytes → Tree × Option Bytes
  | [], rest => (t, some rest)
  | _ :: _, [] => (.unreadable (.eof .value), none)
  | e :: es, b :: rest => if e = b then word t es rest else (.unreadable (.malformed .ident), none)

/-- The digits that fit 64 bits, put behind those of `n`, and how many are left. -/
def significand (n : Nat) : Bytes → Nat × Nat
  | [] => (n, 0)
  | b :: rest =>
    let longer := 10 * n + (b.toNat - 48)
    if longer < twoPow 64 then significand longer rest else (n, rest.length + 1)

/-- `digits · 10 ^ power`, rounded at each step: the digits, the powers of ten, which go up to 308, and what is
multiplied or divided by one of them. -/
def scaled (isNegative : Bool) (digits : Nat) (power : Int) : Binary64 :=
  let x := Binary64.ofDecimal isNegative digits 0
  let ten (n : Int) := Binary64.ofDecimal false 1 n
  if digits = 0 || power < -616 then .signed isNegative 0
  else if power < -308 then (x.quotient (ten 308)).quotient (ten (-power - 308))
  else if power < 0 then x.quotient (ten (-power))
  else if power ≤ 308 then x.product (ten power)
  else .infinity isNegative

structure Literal where
  negative : Bool
  whole : Bytes
  fraction : Option Bytes := none
  power : Option Int := none

def Literal.value (l : Literal) : Except Fault Number :=
  let float (digits : Nat) (power : Int) : Except Fault Number :=
    let x := scaled l.negative digits power
    if x.isFinite then .ok (.float x) else .error (.malformed .outOfRange)
  let (n, left) := significand 0 l.whole
  match l.fraction, l.power with
  | none, none =>
    -- Minus zero is a float.
    if 0 < left || l.negative && (n = 0 || twoPow 63 < n) then float n left
    else .ok (.int (if l.negative then -(n : Int) else n))
  | fraction, power =>
    let fs := fraction.getD []
    let (digits, more) := significand n fs
    float digits (left - (fs.length - more : Nat) + power.getD 0)

def badNumber (rest : Bytes) : Tree × Option Bytes :=
  match rest with
  | [] => (.broken (.eof .value) (.malformed .number), none)
  | _ :: _ => (.unreadable (.malformed .number), none)

def exponent (l : Literal) (bs : Bytes) : Tree × Option Bytes :=
  match bs with
  | e :: rest =>
    if e = 101 || e = 69 then
      let (neg, rest) := match rest with
        | 43 :: r => (false, r)
        | 45 :: r => (true, r)
        | r => (false, r)
      let ds := rest.takeWhile isDigit
      if ds.isEmpty then badNumber rest
      else
        let n : Int := digitsValue ds
        (.number { l with power := some (if neg then -n else n) }.value, some (rest.dropWhile isDigit))
    else (.number l.value, some bs)
  | [] => (.number l.value, some bs)

def fraction (l : Literal) (bs : Bytes) : Tree × Option Bytes :=
  match bs with
  | 46 :: rest =>
    let ds := rest.takeWhile isDigit
    if ds.isEmpty then badNumber rest
    else exponent { l with fraction := some ds } (rest.dropWhile isDigit)
  | _ => exponent l bs

def number (negative : Bool) (bs : Bytes) : Tree × Option Bytes :=
  match bs with
  | 48 :: rest =>
    if (rest.head?.map isDigit).getD false then (.unreadable (.malformed .number), none)
    else fraction { negative, whole := [48] } rest
  | _ =>
    let ds := bs.takeWhile isDigit
    if ds.isEmpty then badNumber bs else fraction { negative, whole := ds } (bs.dropWhile isDigit)

def hexDigit? (b : UInt8) : Option Nat :=
  if isDigit b then some (b.toNat - 48)
  else if 97 ≤ b && b ≤ 102 then some (b.toNat - 87)
  else if 65 ≤ b && b ≤ 70 then some (b.toNat - 55)
  else none

def hexUnit : Bytes → Except Fault (Nat × Bytes)
  | a :: b :: c :: d :: rest =>
    match hexDigit? a, hexDigit? b, hexDigit? c, hexDigit? d with
    | some a, some b, some c, some d => .ok (((a * 16 + b) * 16 + c) * 16 + d, rest)
    | _, _, _, _ => .error (.malformed .escape)
  | _ => .error (.eof .string)

def utf8 (c : Nat) : Bytes := (String.singleton (Char.ofNat c)).toUTF8.toList

def isLeading (n : Nat) : Bool := 0xD800 ≤ n && n ≤ 0xDBFF

def isTrailing (n : Nat) : Bool := 0xDC00 ≤ n && n ≤ 0xDFFF

def codePoint (bs : Bytes) : Except Fault (Bytes × Bytes) := do
  let (n, rest) ← hexUnit bs
  if isTrailing n then throw (.malformed .loneSurrogate)
  else if !isLeading n then pure (utf8 n, rest)
  else
    match rest with
    | [] => throw (.eof .string)
    | 92 :: [] => throw (.eof .string)
    | 92 :: 117 :: rest => do
      let (n2, rest) ← hexUnit rest
      if isTrailing n2 then pure (utf8 (0x10000 + (n - 0xD800) * 0x400 + (n2 - 0xDC00)), rest)
      else throw (.malformed .loneSurrogate)
    | _ => throw (.malformed .hexEscapeEnd)

def shortEscape? (b : UInt8) : Option UInt8 :=
  if b = 34 || b = 92 || b = 47 then some b
  else if b = 98 then some 8
  else if b = 102 then some 12
  else if b = 110 then some 10
  else if b = 114 then some 13
  else if b = 116 then some 9
  else none

def skipString : Nat → Bytes → Except Fault Bytes
  | 0, _ => .error (.eof .string)
  | _ + 1, [] => .error (.eof .string)
  | fuel + 1, b :: rest =>
    if b = 34 then .ok rest
    else if b = 92 then
      match rest with
      | [] => .error (.eof .string)
      | e :: rest =>
        if e = 117 then
          match hexUnit rest with
          | .ok (_, rest) => skipString fuel rest
          | .error f => .error f
        else if (shortEscape? e).isSome then skipString fuel rest
        else .error (.malformed .escape)
    else if b < 32 then .error (.malformed .controlCharacter)
    else skipString fuel rest

def stringBytes : Nat → Bytes → Bytes → Except Fault Bytes
  | 0, _, _ => .error (.eof .string)
  | _ + 1, _, [] => .error (.eof .string)
  | fuel + 1, acc, b :: rest =>
    if b = 34 then .ok acc.reverse
    else if b = 92 then
      match rest with
      | [] => .error (.eof .string)
      | e :: rest =>
        if e = 117 then
          match codePoint rest with
          | .ok (cs, rest) => stringBytes fuel (cs.reverse ++ acc) rest
          | .error f => .error f
        else match shortEscape? e with
          | some c => stringBytes fuel (c :: acc) rest
          | none => .error (.malformed .escape)
    else if b < 32 then .error (.malformed .controlCharacter)
    else stringBytes fuel (b :: acc) rest

def decodeUtf8 (bs : Bytes) : Except Fault String :=
  match String.fromUTF8? ⟨bs.toArray⟩ with
  | some s => .ok s
  | none => .error (.malformed .codePoint)

def string (bs : Bytes) : Tree × Option Bytes :=
  let content := stringBytes (bs.length + 1) [] bs >>= decodeUtf8
  match skipString (bs.length + 1) bs with
  | .ok rest => (.string content, some rest)
  | .error f => match content with
    | .ok _ => (.unreadable f, none)
    | .error g => (.broken g f, none)

/-! ## Collections -/

inductive After where
  | more (rest : Bytes)
  | done (rest : Bytes)
  | stop (s : Stop)

def afterItem (bs : Bytes) : After :=
  match dropSpace bs with
  | [] => .stop (.same (.eof .list) (.eof .list))
  | 93 :: rest => .done rest
  | 44 :: rest => match dropSpace rest with
    | [] => .stop (.same (.eof .value) (.malformed .trailingCharacters))
    | 93 :: _ => .stop ⟨.malformed .trailingComma, .malformed .value, .malformed .trailingComma⟩
    | rest => .more rest
  | _ => .stop (.same (.malformed .listEnd) (.malformed .trailingCharacters))

def afterMember (bs : Bytes) : After :=
  match dropSpace bs with
  | [] => .stop (.same (.eof .object) (.eof .object))
  | 125 :: rest => .done rest
  | 44 :: rest => match dropSpace rest with
    | [] => .stop ⟨.eof .value, .eof .object, .eof .value⟩
    | 125 :: _ => .stop ⟨.malformed .trailingComma, .malformed .key, .malformed .trailingComma⟩
    | 34 :: rest => .more rest
    | _ => .stop (.same (.malformed .key) (.malformed .key))
  | _ => .stop (.same (.malformed .objectEnd) (.malformed .objectEnd))

mutual

def tree : Nat → Bytes → Tree × Option Bytes
  | 0, _ => (.unreadable (.eof .value), none)
  | fuel + 1, bs =>
    match dropSpace bs with
    | [] => (.unreadable (.eof .value), none)
    | b :: rest =>
      if b = 110 then word .null [117, 108, 108] rest
      else if b = 116 then word (.bool true) [114, 117, 101] rest
      else if b = 102 then word (.bool false) [97, 108, 115, 101] rest
      else if b = 45 then number true rest
      else if isDigit b then number false (b :: rest)
      else if b = 34 then string rest
      else if b = 91 then
        match dropSpace rest with
        | [] => (.array [] (some (.same (.eof .list) (.eof .list))), none)
        | 93 :: rest => (.array [] none, some rest)
        | rest =>
          let (items, stop, rest) := items fuel rest
          (.array items stop, rest)
      else if b = 123 then
        match dropSpace rest with
        | [] => (.object [] (some (.same (.eof .object) (.eof .object))), none)
        | 125 :: rest => (.object [] none, some rest)
        | 34 :: rest =>
          let (members, stop, rest) := members fuel rest
          (.object members stop, rest)
        | _ => (.object [] (some (.same (.malformed .key) (.malformed .key))), none)
      else (.unreadable (.malformed .value), none)

def items : Nat → Bytes → List Tree × Option Stop × Option Bytes
  | 0, _ => ([.unreadable (.eof .value)], none, none)
  | fuel + 1, bs =>
    match tree fuel bs with
    | (t, none) => ([t], none, none)
    | (t, some rest) =>
      match afterItem rest with
      | .done rest => ([t], none, some rest)
      | .stop s => ([t], some s, none)
      | .more rest =>
        let (ts, stop, rest) := items fuel rest
        (t :: ts, stop, rest)

def members : Nat → Bytes → List (Tree × Tree) × Option Stop × Option Bytes
  | 0, _ => ([(.unreadable (.eof .string), .unreadable (.eof .string))], none, none)
  | fuel + 1, bs =>
    match string bs with
    | (k, none) => ([(k, .unreadable (.eof .object))], none, none)
    | (k, some rest) =>
      match dropSpace rest with
      | [] => ([(k, .unreadable (.eof .object))], none, none)
      | 58 :: rest =>
        match tree fuel rest with
        | (v, none) => ([(k, v)], none, none)
        | (v, some rest) =>
          match afterMember rest with
          | .done rest => ([(k, v)], none, some rest)
          | .stop s => ([(k, v)], some s, none)
          | .more rest =>
            let (ms, stop, rest) := members fuel rest
            ((k, v) :: ms, stop, rest)
      | _ => ([(k, .unreadable (.malformed .colon))], none, none)

end

/-- Every call takes at least a byte or goes to the first item, so this fuel lasts. -/
def Tree.ofBytes (bs : Bytes) : Tree × Option Bytes := tree (2 * bs.length + 2) bs

end SchemaCheck.Json
