import SchemaCheck.Pattern.Escape
import SchemaCheck.Pattern.Size
/-! Sets of characters in brackets. Brackets nest, and within one the operators take what stands before
them all together, from the left. -/
namespace SchemaCheck.Pattern
open Text (CharSet Ranges)

inductive SetOp where
  | inter | diff | symmDiff
  deriving DecidableEq, Repr

def SetOp.apply : SetOp → CharSet → CharSet → CharSet
  | inter => .inter
  | diff => .diff
  | symmDiff => .symmDiff

structure Bracket where
  negative : Bool
  members : CharSet := .empty
  pending : Option (SetOp × CharSet) := none

namespace Bracket

def add (b : Bracket) (s : CharSet) : Bracket := { b with members := .union b.members s }

def combined (fs : Flags) (b : Bracket) : CharSet :=
  match b.pending with
  | none => b.members
  | some (op, before) => op.apply (fs.fold before) (fs.fold b.members)

def operate (fs : Flags) (op : SetOp) (b : Bracket) : Bracket :=
  { b with members := .empty, pending := some (op, b.combined fs) }

def close (fs : Flags) (b : Bracket) : Option CharSet :=
  let s := fs.fold (b.combined fs)
  if b.negative then fs.negate? s else some s

def leadingHyphens (fs : Flags) (b : Bracket) (cs : List Char) : Bool × Bracket × List Char :=
  match fs.gather (· = '-') cs with
  | ([], rest) => (false, b, rest)
  | (_ :: _, rest) => (true, b.add (.single '-'), rest)

def start (fs : Flags) (cs : List Char) : Bracket × List Char :=
  let (negative, cs) := match fs.skip cs with
    | '^' :: rest => (true, fs.skip rest)
    | rest => (false, rest)
  match leadingHyphens fs { negative } cs with
  | (false, b, ']' :: rest) => (b.add (.single ']'), fs.skip rest)
  | (_, b, rest) => (b, rest)

end Bracket

/-! ## Members -/

def asciiNamed? (name : List Char) : Option Ranges :=
  [("alnum", [(0x30, 0x39), (0x41, 0x5a), (0x61, 0x7a)]),
   ("alpha", [(0x41, 0x5a), (0x61, 0x7a)]),
   ("ascii", [(0, 0x7f)]),
   ("blank", [(0x9, 0x9), (0x20, 0x20)]),
   ("cntrl", [(0, 0x1f), (0x7f, 0x7f)]),
   ("digit", asciiDigit),
   ("graph", [(0x21, 0x7e)]),
   ("lower", [(0x61, 0x7a)]),
   ("print", [(0x20, 0x7e)]),
   ("punct", [(0x21, 0x2f), (0x3a, 0x40), (0x5b, 0x60), (0x7b, 0x7e)]),
   ("space", asciiBlank),
   ("upper", [(0x41, 0x5a)]),
   ("word", asciiWord),
   ("xdigit", Text.Property.asciiHex)].lookup (String.ofList name)

def readAsciiNamed (cs : List Char) : Option (Bool × Ranges × List Char) := do
  let ':' :: cs := cs | none
  let (negative, cs) := match cs with
    | '^' :: rest => (true, rest)
    | rest => (false, rest)
  let name := cs.takeWhile (· ≠ ':')
  let ':' :: ']' :: rest := cs.drop name.length | none
  return (negative, ← asciiNamed? name, rest)

def readMember (fs : Flags) : List Char → Option (Atom × List Char)
  | [] => none
  | '\\' :: cs => readEscape fs cs
  | c :: cs => some (.char c, cs)

def memberSet (fs : Flags) : Atom → Option CharSet
  | .char c => if fs.has .unicode || c.toNat < 0x80 then some (.single c) else none
  | .set s => some s
  | .anchor _ => none

def afterHyphen (fs : Flags) (cs : List Char) : Option Char :=
  if fs.has .verbose then
    match Text.dropBlanks cs with
    | '#' :: rest => (Text.dropBlanks rest).head?
    | rest => rest.head?
  else cs.head?

def readRange (fs : Flags) (cs : List Char) : Option (CharSet × List Char) := do
  let (first, cs) ← readMember fs cs
  match fs.skip cs with
  | [] => none
  | '-' :: rest =>
    -- A hyphen makes no range before a closing bracket or a hyphen.
    let next := afterHyphen fs rest
    if next = some ']' ∨ next = some '-' then return (← memberSet fs first, '-' :: rest)
    else do
      let (last, cs) ← readMember fs (fs.skip rest)
      let (.char a, .char z) := (first, last) | none
      let _ ← memberSet fs first
      let _ ← memberSet fs last
      if a.toNat ≤ z.toNat then return (.ranges [(a.toNat, z.toNat)], cs) else none
  | cs => return (← memberSet fs first, cs)

def setOp? : List Char → Option (SetOp × List Char)
  | '&' :: '&' :: rest => some (.inter, rest)
  | '-' :: '-' :: rest => some (.diff, rest)
  | '~' :: '~' :: rest => some (.symmDiff, rest)
  | _ => none

/-- Reads up to the end of the outermost bracket. `outer` are the brackets around the innermost open
one. The first argument bounds the number of steps; each takes a character. -/
def readBracketFrom (fs : Flags) :
    Nat → List Bracket → Bracket → List Char → Option (CharSet × List Char)
  | 0, _, _, _ => none
  | n + 1, outer, b, cs =>
    let cs := fs.skip cs
    match setOp? cs with
    | some (op, rest) => readBracketFrom fs n outer (b.operate fs op) rest
    | none =>
      match cs with
      | [] => none
      | ']' :: rest =>
        match b.close fs, outer with
        | none, _ => none
        | some s, [] => some (s, rest)
        | some s, parent :: outer => readBracketFrom fs n outer (parent.add s) rest
      | '[' :: rest =>
        match readAsciiNamed rest with
        | some (negative, rs, rest) =>
          let s := fs.fold (.ranges rs)
          match if negative then fs.negate? s else some s with
          | none => none
          | some s => readBracketFrom fs n outer (b.add s) rest
        | none =>
          if outer.length + 2 ≤ depthLimit then
            let (inner, rest) := Bracket.start fs rest
            readBracketFrom fs n (b :: outer) inner rest
          else none
      | cs =>
        match readRange fs cs with
        | none => none
        | some (s, rest) => readBracketFrom fs n outer (b.add s) rest

def readBracket (fs : Flags) (cs : List Char) : Option (CharSet × List Char) :=
  let (b, rest) := Bracket.start fs cs
  readBracketFrom fs (rest.length + 1) [] b rest

end SchemaCheck.Pattern
