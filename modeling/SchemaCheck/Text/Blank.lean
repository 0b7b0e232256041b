import SchemaCheck.Text.Ranges
/-! White space of any script, and the lines of a text. -/
namespace SchemaCheck.Text

def whiteSpace : Ranges :=
  [(0x9, 0xd), (0x20, 0x20), (0x85, 0x85), (0xa0, 0xa0), (0x1680, 0x1680), (0x2000, 0x200a),
   (0x2028, 0x2029), (0x202f, 0x202f), (0x205f, 0x205f), (0x3000, 0x3000)]

def isBlank (c : Char) : Bool := whiteSpace.holds c.toNat

def dropBlanks (cs : List Char) : List Char := cs.dropWhile isBlank

def dropReturn (line : List Char) : List Char :=
  if line.getLast? = some '\r' then line.dropLast else line

def linesFrom : List Char → List Char → List (List Char)
  | [], [] => []
  | line, [] => [line.reverse]
  | line, '\n' :: rest => dropReturn line.reverse :: linesFrom [] rest
  | line, c :: rest => linesFrom (c :: line) rest

def lines (s : String) : List (List Char) := linesFrom [] s.toList

end SchemaCheck.Text
