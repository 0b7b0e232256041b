import SchemaCheck.Yaml.Token.Scalar
/-! Splitting a text into tokens. Indentation is told by tokens that open and close block collections. A
key shows only by the colon after it, so a place where a key may have begun is remembered, and its token
is put there later. -/
namespace SchemaCheck.Yaml

structure Candidate where
  required : Bool
  token : Nat
  index : Nat
  line : Nat
  column : Nat

/-- `candidates` has one place for each open flow collection and one for the block around them. -/
structure Lexer where
  cursor : Cursor
  indent : Int := -1
  outer : List Int := []
  candidate : Option Candidate := none
  candidates : List (Option Candidate) := []
  keyAllowed : Bool := true
  tokens : Array Token := #[]

namespace Lexer

def keyLimit : Nat := 1024

def inFlow (l : Lexer) : Bool := !l.candidates.isEmpty

def push (l : Lexer) (t : Token) : Lexer := { l with tokens := l.tokens.push t }

def insertAt (l : Lexer) (n : Nat) (t : Token) : Lexer :=
  { l with tokens := (l.tokens.extract 0 n).push t ++ l.tokens.extract n l.tokens.size }

def toToken : Nat → Lexer → Lexer
  | 0, l => l
  | fuel + 1, l =>
    let c := l.cursor
    let c := if c.column == 0 && c.sees '\ufeff' then c.skip else c
    let c := c.skipWhile fun x => x == ' ' || ((l.inFlow || !l.keyAllowed) && x == '\t')
    let c := if c.sees '#' then c.skipWhile (!isBreak ·) else c
    if c.seesBreak then
      toToken fuel { l with cursor := c.skipLine, keyAllowed := l.keyAllowed || !l.inFlow }
    else { l with cursor := c }

def expire (c : Cursor) : Option Candidate → Option (Option Candidate)
  | none => some none
  | some k =>
    if k.line < c.line || k.index + keyLimit < c.index then
      if k.required then none else some none
    else some (some k)

def expireAll (l : Lexer) : Option Lexer := do
  let candidate ← expire l.cursor l.candidate
  let candidates ← l.candidates.mapM (expire l.cursor)
  return { l with candidate, candidates }

def dropCandidate (l : Lexer) : Option Lexer :=
  if l.candidate.any Candidate.required then none else some { l with candidate := none }

def remember (l : Lexer) : Option Lexer :=
  if l.keyAllowed then do
    let l ← l.dropCandidate
    let c := l.cursor
    return { l with candidate := some {
      required := !l.inFlow && l.indent == c.column
      token := l.tokens.size, index := c.index, line := c.line, column := c.column } }
  else some l

def close (column : Int) : List Int → Lexer → Lexer
  | [], l => l
  | i :: outer, l =>
    if column < l.indent then close column outer { l.push .blockEnd with indent := i, outer } else l

def unroll (l : Lexer) (column : Int) : Lexer := if l.inFlow then l else close column l.outer l

def roll (l : Lexer) (column : Nat) (n : Nat) (t : Token) : Lexer :=
  if !l.inFlow && l.indent < column then
    { l.insertAt n t with indent := column, outer := l.indent :: l.outer }
  else l

def finish (l : Lexer) : Option Lexer := do
  let l ← (l.unroll (-1)).dropCandidate
  return { l with keyAllowed := false }

def marker (l : Lexer) (t : Token) : Option Lexer := do
  let l ← l.finish
  return { l with cursor := l.cursor.skip 3 }.push t

def flowStart (l : Lexer) (t : Token) : Option Lexer := do
  let l ← l.remember
  return { l with
    candidates := l.candidate :: l.candidates, candidate := none
    keyAllowed := true, cursor := l.cursor.skip }.push t

def flowEnd (l : Lexer) (t : Token) : Option Lexer := do
  let l ← l.dropCandidate
  let (candidate, candidates) := match l.candidates with
    | [] => (l.candidate, [])
    | k :: ks => (k, ks)
  return { l with candidate, candidates, keyAllowed := false, cursor := l.cursor.skip }.push t

def flowEntry (l : Lexer) : Option Lexer := do
  let l ← l.dropCandidate
  return { l with keyAllowed := true, cursor := l.cursor.skip }.push .flowEntry

def blockEntry (l : Lexer) : Option Lexer := do
  if !l.inFlow && !l.keyAllowed then none
  let l ← (l.roll l.cursor.column l.tokens.size .blockSequenceStart).dropCandidate
  return { l with keyAllowed := true, cursor := l.cursor.skip }.push .blockEntry

def key (l : Lexer) : Option Lexer := do
  if !l.inFlow && !l.keyAllowed then none
  let l ← (l.roll l.cursor.column l.tokens.size .blockMappingStart).dropCandidate
  return { l with keyAllowed := !l.inFlow, cursor := l.cursor.skip }.push .key

def value (l : Lexer) : Option Lexer :=
  match l.candidate with
  | some k =>
    let l := (l.insertAt k.token .key).roll k.column k.token .blockMappingStart
    some ({ l with candidate := none, keyAllowed := false, cursor := l.cursor.skip }.push .value)
  | none =>
    if !l.inFlow && !l.keyAllowed then none
    else
      let l := l.roll l.cursor.column l.tokens.size .blockMappingStart
      some ({ l with keyAllowed := !l.inFlow, cursor := l.cursor.skip }.push .value)

def word (l : Lexer) (read : Cursor → Option (Token × Cursor)) : Option Lexer := do
  let l ← l.remember
  let (t, cursor) ← read l.cursor
  return { l with keyAllowed := false, cursor }.push t

def anchor (l : Lexer) (token : String → Token) : Option Lexer :=
  l.word fun c => (anchorName c).map fun (name, c) => (token name, c)

def plain (l : Lexer) : Option Lexer := do
  let l ← l.remember
  let (t, broken, cursor) ← plainScalar l.inFlow l.indent l.cursor
  return { l with keyAllowed := broken, cursor }.push t

def block (l : Lexer) (literal : Bool) : Option Lexer := do
  let l ← l.dropCandidate
  let (t, cursor) ← blockScalar literal l.indent l.cursor
  return { l with keyAllowed := true, cursor }.push t

def directiveLine (l : Lexer) : Option Lexer := do
  let l ← l.finish
  let (t, cursor) ← directive l.cursor
  return { l with cursor }.push t

def startsPlain (l : Lexer) (x : Char) : Bool :=
  let c := l.cursor
  !(isBlank x || "-?:,[]\x7b\x7d#&*!|>'\"%@\x60".contains x) || (x == '-' && !c.seesBlank 1) ||
  (!l.inFlow && (x == '?' || x == ':') && !c.seesGap 1)

def next (l : Lexer) (x : Char) : Option Lexer :=
  let c := l.cursor
  if c.column == 0 && x == '%' then l.directiveLine
  else if c.seesMarker '-' then l.marker .documentStart
  else if c.seesMarker '.' then l.marker .documentEnd
  else if x == '[' then l.flowStart .flowSequenceStart
  else if x == '\x7b' then l.flowStart .flowMappingStart
  else if x == ']' then l.flowEnd .flowSequenceEnd
  else if x == '\x7d' then l.flowEnd .flowMappingEnd
  else if x == ',' then l.flowEntry
  else if x == '-' && c.seesGap 1 then l.blockEntry
  else if x == '?' && (l.inFlow || c.seesGap 1) then l.key
  else if x == ':' && (l.inFlow || c.seesGap 1) then l.value
  else if x == '*' then l.anchor .alias
  else if x == '&' then l.anchor .anchor
  else if x == '!' then l.word (tag l.inFlow)
  else if x == '|' && !l.inFlow then l.block true
  else if x == '>' && !l.inFlow then l.block false
  else if x == '\'' then l.word (quotedScalar true)
  else if x == '"' then l.word (quotedScalar false)
  else if l.startsPlain x then l.plain
  else none

def run : Nat → Lexer → Option (Array Token)
  | 0, _ => none
  | fuel + 1, l => do
    let l ← (l.toToken (l.cursor.rest.length + 1)).expireAll
    let l := l.unroll l.cursor.column
    match l.cursor.peek? 0 with
    | none => do
      let l ← l.finish
      return (l.push .streamEnd).tokens
    | some x => do
      let l ← l.next x
      run fuel l

end Lexer

def Token.ofChars? (cs : List Char) : Option (List Token) :=
  (Lexer.run (cs.length + 1) { cursor := { rest := cs } }).map Array.toList

end SchemaCheck.Yaml
