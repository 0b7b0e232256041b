import SchemaCheck.Pattern.Flags
import SchemaCheck.Pattern.Expr
import SchemaCheck.Text.Hex
/-! What a backslash stands for, together with what follows it. -/
namespace SchemaCheck.Pattern
open Text (CharSet hexValue? hexNumber?)

inductive Atom where
  | char (c : Char)
  | set (s : CharSet)
  | anchor (a : Anchor)

def isSign (c : Char) : Bool := "\\.+*?()|[]\x7b\x7d^$#&-~".toList.contains c

def isQuotable (c : Char) : Bool :=
  isSign c || (c.toNat < 0x80 && !c.isAlphanum && c ≠ '<' && c ≠ '>')

def scalar? (n : Nat) : Option Char := if n.isValidChar then some (Char.ofNat n) else none

def Flags.fold (fs : Flags) (s : CharSet) : CharSet :=
  if fs.has .caseless then
    if fs.has .unicode then .caseless s else .asciiCaseless s
  else s

def Flags.negate? (fs : Flags) (s : CharSet) : Option CharSet :=
  if fs.has .unicode then some (.compl s) else none

def Flags.alphabet (fs : Flags) : Alphabet := if fs.has .unicode then .unicode else .ascii

/-! ## Characters by number -/

def readFixedHex (fs : Flags) : Nat → List Char → Option (List Char × List Char)
  | 0, cs => some ([], cs)
  | _ + 1, [] => none
  | n + 1, c :: cs => do
    let _ ← hexValue? c
    let (ds, rest) ← readFixedHex fs n (fs.skip cs)
    return (c :: ds, rest)

def readBraced (fs : Flags) (cs : List Char) : Option (List Char × List Char) :=
  match fs.gather (· ≠ '\x7d') (fs.skip cs) with
  | (inner, _ :: rest) => some (inner, rest)
  | (_, []) => none

/-- A number of so many digits, or of any in braces. Without braces and with two digits it is a byte,
which is no character above ASCII unless all characters are known. -/
def readHex (fs : Flags) (digits : Nat) (cs : List Char) : Option (Char × List Char) :=
  match fs.skip cs with
  | '\x7b' :: rest => do
    let (ds, rest) ← readBraced fs rest
    if ds.isEmpty then none else return (← scalar? (← hexNumber? ds), fs.skip rest)
  | cs => do
    let (ds, rest) ← readFixedHex fs digits cs
    let c ← scalar? (← hexNumber? ds)
    if digits = 2 ∧ 0x80 ≤ c.toNat ∧ !fs.has .unicode then none else return (c, rest)

/-! ## Classes -/

def splitAt? (mark : List Char) : List Char → Option (List Char × List Char)
  | [] => none
  | c :: cs =>
    if mark.isPrefixOf (c :: cs) then some ([], (c :: cs).drop mark.length)
    else (splitAt? mark cs).map fun (before, after) => (c :: before, after)

def property? (name : List Char) : Option CharSet :=
  let marked := (splitAt? ['!', '='] name).orElse fun _ =>
    (splitAt? [':'] name).orElse fun _ => splitAt? ['='] name
  match marked with
  | some (kind, value) => Text.Property.valued? kind value
  | none => Text.Property.named? name

def readPropertyName (fs : Flags) (cs : List Char) : Option (List Char × List Char) :=
  match fs.skip cs with
  | [] => none
  | '\\' :: _ => none
  | '\x7b' :: rest => readBraced fs rest
  | c :: rest => some ([c], fs.skip rest)

def readProperty (fs : Flags) (negative : Bool) (cs : List Char) : Option (CharSet × List Char) := do
  let (name, rest) ← readPropertyName fs cs
  let s := fs.fold (← property? name)
  if fs.has .unicode then return (if negative then .compl s else s, rest) else none

def asciiDigit : Text.Ranges := [(0x30, 0x39)]

def asciiBlank : Text.Ranges := [(0x9, 0xd), (0x20, 0x20)]

def letterSet? (a : Alphabet) (c : Char) : Option CharSet :=
  match a, c with
  | .unicode, 'd' => some (.ranges Text.Category.decimalDigits)
  | .ascii, 'd' => some (.ranges asciiDigit)
  | .unicode, 's' => some (.ranges Text.whiteSpace)
  | .ascii, 's' => some (.ranges asciiBlank)
  | a, 'w' => some a.word
  | _, _ => none

/-! ## Anchors -/

def boundaryNamed? (a : Alphabet) (name : List Char) : Option Anchor :=
  let s := String.ofList name
  if s = "start" then some (.wordStart a)
  else if s = "end" then some (.wordEnd a)
  else if s = "start-half" then some (.wordStartHalf a)
  else if s = "end-half" then some (.wordEndHalf a)
  else none

def isBoundaryLetter (c : Char) : Bool := c.isAlpha || c == '-'

def readBoundary (fs : Flags) (cs : List Char) : Option (Anchor × List Char) :=
  match cs with
  | '\x7b' :: rest =>
    match fs.skip rest with
    | [] => none
    | c :: inner =>
      if isBoundaryLetter c then
        match fs.gather isBoundaryLetter (c :: inner) with
        | (name, '\x7d' :: rest) => (boundaryNamed? fs.alphabet name).map (·, rest)
        | _ => none
      else some (.boundary fs.alphabet, cs)
  | _ => some (.boundary fs.alphabet, cs)

def anchorLetter? (a : Alphabet) : Char → Option Anchor
  | 'A' => some .textStart
  | 'z' => some .textEnd
  | 'B' => some (.noBoundary a)
  | '<' => some (.wordStart a)
  | '>' => some (.wordEnd a)
  | _ => none

def controlLetter? : Char → Option Char
  | 'a' => some '\x07'
  | 'f' => some '\x0c'
  | 't' => some '\t'
  | 'n' => some '\n'
  | 'r' => some '\r'
  | 'v' => some '\x0b'
  | _ => none

def hexDigits? : Char → Option Nat
  | 'x' => some 2
  | 'u' => some 4
  | 'U' => some 8
  | _ => none

def plainEscape? (fs : Flags) (c : Char) : Option Atom :=
  if isQuotable c then some (.char c)
  else
    match controlLetter? c, anchorLetter? fs.alphabet c, letterSet? fs.alphabet c with
    | some c, _, _ => some (.char c)
    | _, some a, _ => some (.anchor a)
    | _, _, some s => some (.set s)
    | _, _, _ => (letterSet? fs.alphabet c.toLower).bind fun s => (fs.negate? s).map .set

def readEscape (fs : Flags) : List Char → Option (Atom × List Char)
  | [] => none
  | c :: cs =>
    match hexDigits? c with
    | some n => (readHex fs n cs).map fun (c, rest) => (.char c, rest)
    | none =>
      if c = 'p' ∨ c = 'P' then
        (readProperty fs (c = 'P') cs).map fun (s, rest) => (.set s, rest)
      else if c = 'b' then (readBoundary fs cs).map fun (a, rest) => (.anchor a, rest)
      else (plainEscape? fs c).map (·, cs)

end SchemaCheck.Pattern
