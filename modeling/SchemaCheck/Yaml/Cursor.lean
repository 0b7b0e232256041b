/-! A place in a text: what is still to come, and where it stands. Columns and lines count from zero, and
every break that the format knows starts a line. -/
namespace SchemaCheck.Yaml

structure Cursor where
  rest : List Char
  index : Nat := 0
  line : Nat := 0
  column : Nat := 0

def isBreak (c : Char) : Bool :=
  c == '\n' || c == '\r' || c == '\x85' || c == '\u2028' || c == '\u2029'

def isBlank (c : Char) : Bool := c == ' ' || c == '\t'

def isWord (c : Char) : Bool := c.isAlphanum || c == '_' || c == '-'

def isAllowed (c : Char) : Bool :=
  let n := c.toNat
  n == 0x9 || n == 0xA || n == 0xD || (0x20 ≤ n && n ≤ 0x7E) || n == 0x85 ||
  (0xA0 ≤ n && n ≤ 0xFFFD) || 0x10000 ≤ n

namespace Cursor

def peek? (c : Cursor) (n : Nat) : Option Char := c.rest[n]?

def sees (c : Cursor) (x : Char) (n : Nat := 0) : Bool := c.peek? n == some x

def seesBlank (c : Cursor) (n : Nat := 0) : Bool := (c.peek? n).any isBlank

def seesBreak (c : Cursor) (n : Nat := 0) : Bool := (c.peek? n).any isBreak

def seesLineEnd (c : Cursor) (n : Nat := 0) : Bool := (c.peek? n).all isBreak

def seesGap (c : Cursor) (n : Nat := 0) : Bool := (c.peek? n).all fun x => isBlank x || isBreak x

def atEnd (c : Cursor) : Bool := c.rest.isEmpty

def skip (c : Cursor) (n : Nat := 1) : Cursor :=
  { c with rest := c.rest.drop n, index := c.index + n, column := c.column + n }

def readLine (c : Cursor) : String × Cursor :=
  let next (rest : List Char) (n : Nat) : Cursor :=
    { rest, index := c.index + n, line := c.line + 1, column := 0 }
  match c.rest with
  | '\r' :: '\n' :: rest => ("\n", next rest 2)
  | x :: rest =>
    if x == '\u2028' || x == '\u2029' then (String.singleton x, next rest 1)
    else if isBreak x then ("\n", next rest 1)
    else ("", c)
  | [] => ("", c)

def skipLine (c : Cursor) : Cursor := c.readLine.2

def takeWhile (c : Cursor) (p : Char → Bool) : List Char × Cursor :=
  let taken := c.rest.takeWhile p
  (taken, c.skip taken.length)

def skipWhile (c : Cursor) (p : Char → Bool) : Cursor := (c.takeWhile p).2

def seesMarker (c : Cursor) (x : Char) : Bool :=
  c.column == 0 && c.sees x && c.sees x 1 && c.sees x 2 && c.seesGap 3

def seesDocumentMarker (c : Cursor) : Bool := c.seesMarker '-' || c.seesMarker '.'

def restOfLine? (c : Cursor) : Option Cursor :=
  let c := c.skipWhile isBlank
  let c := if c.sees '#' then c.skipWhile (!isBreak ·) else c
  if c.seesLineEnd then some c.skipLine else none

end Cursor
end SchemaCheck.Yaml
