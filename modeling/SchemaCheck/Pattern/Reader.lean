import SchemaCheck.Pattern.Bracket
/-! Reading patterns. The reader keeps the groups that are open, and for each the choices and the
sequence it has read. -/
namespace SchemaCheck.Pattern
open Text (CharSet)

structure Level where
  choices : List Expr := []
  items : List Expr := []
  outside : Flags := .initial

namespace Level

def joined (join : Expr → Expr → Expr) : List Expr → Expr
  | [] => .empty
  | last :: before => before.foldl (fun acc e => join e acc) last

def sequence (l : Level) : Expr := joined .concat l.items

def nextChoice (l : Level) : Level := { l with choices := l.sequence :: l.choices, items := [] }

def expr (l : Level) : Expr := joined .alt (l.sequence :: l.choices)

def push (l : Level) (e : Expr) : Level := { l with items := e :: l.items }

def repeatLast (l : Level) (least : Nat) (most : Option Nat) : Option Level :=
  match l.items with
  | [] => none
  | .empty :: _ => none
  | e :: before => some { l with items := .rounds e least most :: before }

end Level

structure State where
  level : Level := {}
  outer : List Level := []
  flags : Flags := .initial
  names : List String := []

/-! ## Groups -/

inductive GroupStart where
  | change (fs : Flags)
  | group (fs : Flags) (name : Option String)

def isNumeric (c : Char) : Bool := (CharSet.ofCategories Text.Category.numbers).holds c.toNat

def isNameStart (c : Char) : Bool := c == '_' || Text.Property.alphabetic.holds c.toNat

def isNamePart (c : Char) : Bool :=
  isNameStart c || isNumeric c || c == '.' || c == '[' || c == ']'

def readName (cs : List Char) : Option (String × List Char) :=
  let name := cs.takeWhile (· ≠ '>')
  match name, cs.drop name.length with
  | c :: more, '>' :: rest =>
    if isNameStart c && more.all isNamePart then some (String.ofList name, rest) else none
  | _, _ => none

def readNamedGroup (fs : Flags) (cs : List Char) : Option (GroupStart × List Char) :=
  (readName cs).map fun (name, rest) => (.group fs (some name), rest)

/-- Reads what follows the parenthesis that opens a group. Marks without an end of group around them
change the flags from there on. -/
def readGroupStart (fs : Flags) (cs : List Char) : Option (GroupStart × List Char) :=
  match fs.skip cs with
  | '?' :: '=' :: _ | '?' :: '!' :: _ | '?' :: '<' :: '=' :: _ | '?' :: '<' :: '!' :: _ => none
  | '?' :: 'P' :: '<' :: rest => readNamedGroup fs rest
  | '?' :: '<' :: rest => readNamedGroup fs rest
  | '?' :: rest => do
    let (changes, stop, rest) ← Flags.readChanges [] rest
    let inner := fs.apply changes
    if stop = ':' then return (.group inner none, rest)
    else if changes.isEmpty then none
    else return (.change inner, rest)
  | rest => some (.group fs none, rest)

def State.enter (s : State) (inner : Flags) (name : Option String) : Option State :=
  if name.any s.names.contains then none
  else some {
    level := { outside := s.flags }
    outer := s.level :: s.outer
    flags := inner
    names := name.toList ++ s.names }

def State.leave (s : State) : Option State :=
  match s.outer with
  | [] => none
  | parent :: outer =>
    some { s with level := parent.push (.group s.level.expr), outer, flags := s.level.outside }

/-! ## Repetitions -/

def roundLimit : Nat := twoPow 32 - 1

def readCount (fs : Flags) (cs : List Char) : Option Nat × List Char :=
  let (ds, rest) := fs.gather Char.isDigit (Text.dropBlanks cs)
  let n := ds.foldl (fun n c => 10 * n + (c.toNat - 48)) 0
  (if ds.isEmpty || roundLimit < n then none else some n, (fs.gather Text.isBlank rest).2)

def dropLazy : List Char → List Char
  | '?' :: rest => rest
  | rest => rest

def readCounts (fs : Flags) (cs : List Char) : Option (Nat × Option Nat × List Char) := do
  let (least, cs) := readCount fs (fs.skip cs)
  let least ← least
  match cs with
  | '\x7d' :: rest => return (least, some least, dropLazy (fs.skip rest))
  | ',' :: rest =>
    match fs.skip rest with
    | '\x7d' :: rest => return (least, none, dropLazy (fs.skip rest))
    | rest =>
      let (most, cs) := readCount fs rest
      let most ← most
      let '\x7d' :: rest := cs | none
      if least ≤ most then return (least, some most, dropLazy (fs.skip rest)) else none
  | _ => none

/-! ## Items -/

def Flags.dot? (fs : Flags) : Option CharSet :=
  if !fs.has .unicode then none
  else if fs.has .dotAll then some .full
  else if fs.has .crlf then some (.compl (.ranges [(0xa, 0xa), (0xd, 0xd)]))
  else some (.compl (.ranges [(0xa, 0xa)]))

def Flags.atStart (fs : Flags) : Anchor :=
  if fs.has .lines then (if fs.has .crlf then .lineStartCrlf else .lineStart) else .textStart

def Flags.atEnd (fs : Flags) : Anchor :=
  if fs.has .lines then (if fs.has .crlf then .lineEndCrlf else .lineEnd) else .textEnd

def Atom.expr (fs : Flags) : Atom → Expr
  | char c => .set (fs.fold (.single c))
  | set s => .set s
  | anchor a => .anchor a

def State.step (s : State) (c : Char) (cs : List Char) : Option (State × List Char) :=
  let fs := s.flags
  let add (e : Expr) (rest : List Char) := some ({ s with level := s.level.push e }, rest)
  let again (least : Nat) (most : Option Nat) (rest : List Char) := do
    return ({ s with level := ← s.level.repeatLast least most }, rest)
  match c with
  | '(' => do
    match ← readGroupStart fs cs with
    | (.change inner, rest) => return ({ s with level := s.level.push .empty, flags := inner }, rest)
    | (.group inner name, rest) => return (← s.enter inner name, rest)
  | ')' => return (← s.leave, cs)
  | '|' => some ({ s with level := s.level.nextChoice }, cs)
  | '[' => do
    let (set, rest) ← readBracket fs cs
    add (.set set) rest
  | '?' => again 0 (some 1) (dropLazy cs)
  | '*' => again 0 none (dropLazy cs)
  | '+' => again 1 none (dropLazy cs)
  | '\x7b' => do
    let (least, most, rest) ← readCounts fs cs
    again least most rest
  | '\\' => do
    let (atom, rest) ← readEscape fs cs
    add (atom.expr fs) rest
  | '.' => do add (.set (← fs.dot?)) cs
  | '^' => add (.anchor fs.atStart) cs
  | '$' => add (.anchor fs.atEnd) cs
  | c => add ((Atom.char c).expr fs) cs

def State.finish (s : State) : Option Expr := if s.outer.isEmpty then some s.level.expr else none

def readFrom : Nat → State → List Char → Option Expr
  | 0, _, _ => none
  | n + 1, s, cs =>
    match s.flags.skip cs with
    | [] => s.finish
    | c :: cs => (s.step c cs).bind fun (s, rest) => readFrom n s rest

def read (cs : List Char) : Option Expr := readFrom (cs.length + 1) {} cs

end SchemaCheck.Pattern
