import SchemaCheck.Decimal.Power
import SchemaCheck.Text.Hex
import SchemaCheck.Yaml.Cursor
import SchemaCheck.Yaml.Token
/-! Reading scalars, names and tags. Each reader starts at the first character of what it reads, and
gives nothing when that is malformed. -/
namespace SchemaCheck.Yaml
open Text (hexNumber?)

structure Draft where
  text : String := ""
  blanks : String := ""
  firstBreak : String := ""
  moreBreaks : String := ""
  broken : Bool := false

/-- Takes blanks and breaks up to the next character. Blanks before the first break are kept, those
after it are dropped; `tabOk` says whether a tab may stand there. -/
def gap (tabOk : Cursor → Bool) : Nat → Draft → Cursor → Option (Draft × Cursor)
  | 0, _, _ => none
  | fuel + 1, d, c =>
    if c.seesBlank then
      if d.broken then
        if c.sees '\t' && !tabOk c then none else gap tabOk fuel d c.skip
      else gap tabOk fuel { d with blanks := d.blanks ++ String.ofList (c.rest.take 1) } c.skip
    else if c.seesBreak then
      let (b, c) := c.readLine
      if d.broken then gap tabOk fuel { d with moreBreaks := d.moreBreaks ++ b } c
      else gap tabOk fuel { d with blanks := "", firstBreak := b, broken := true } c
    else some (d, c)

def Draft.join (d : Draft) : Draft :=
  let filler :=
    if d.broken then
      if d.firstBreak.startsWith "\n" then
        if d.moreBreaks.isEmpty then " " else d.moreBreaks
      else d.firstBreak ++ d.moreBreaks
    else d.blanks
  { text := d.text ++ filler }

/-! ## Plain scalars -/

def isFlowIndicator (x : Char) : Bool := x == ',' || x == '[' || x == ']' || x == '\x7b' || x == '\x7d'

def plainWord (inFlow : Bool) : Nat → String → Cursor → Option (String × Cursor)
  | 0, _, _ => none
  | fuel + 1, text, c =>
    match c.peek? 0 with
    | none => some (text, c)
    | some x =>
      if isBlank x || isBreak x then some (text, c)
      else if inFlow && x == ':' && (c.peek? 1).any (fun y => isFlowIndicator y || y == '?') then none
      else if x == ':' && c.seesGap 1 then some (text, c)
      else if inFlow && isFlowIndicator x then some (text, c)
      else plainWord inFlow fuel (text.push x) c.skip

def plainLines (inFlow : Bool) (indent : Int) : Nat → Draft → Cursor →
    Option (String × Bool × Cursor)
  | 0, _, _ => none
  | fuel + 1, d, c => do
    if c.seesDocumentMarker || c.sees '#' then return (d.text, d.broken, c)
    let (word, next) ← plainWord inFlow (c.rest.length + 1) "" c
    let d := if word.isEmpty then d else { d.join with text := d.join.text ++ word }
    if !(next.seesBlank || next.seesBreak) then return (d.text, d.broken, next)
    let (d, next) ← gap (fun c => indent ≤ c.column) (next.rest.length + 1) d next
    if !inFlow && (next.column : Int) < indent then return (d.text, d.broken, next)
    plainLines inFlow indent fuel d next

def plainScalar (inFlow : Bool) (indent : Int) (c : Cursor) : Option (Token × Bool × Cursor) := do
  let (text, broken, c) ← plainLines inFlow (indent + 1) (c.rest.length + 1) {} c
  return (.scalar text .plain, broken, c)

/-! ## Quoted scalars -/

def shortEscape? (x : Char) : Option Char :=
  match x with
  | '0' => some '\x00'
  | 'a' => some '\x07'
  | 'b' => some '\x08'
  | 't' | '\t' => some '\t'
  | 'n' => some '\n'
  | 'v' => some '\x0b'
  | 'f' => some '\x0c'
  | 'r' => some '\r'
  | 'e' => some '\x1b'
  | ' ' => some ' '
  | '"' => some '"'
  | '/' => some '/'
  | '\\' => some '\\'
  | 'N' => some '\x85'
  | '_' => some '\xa0'
  | 'L' => some '\u2028'
  | 'P' => some '\u2029'
  | _ => none

def escapeDigits : Char → Nat
  | 'x' => 2
  | 'u' => 4
  | 'U' => 8
  | _ => 0

def escape (c : Cursor) : Option (Char × Cursor) := do
  let x ← c.peek? 1
  match shortEscape? x with
  | some y => return (y, c.skip 2)
  | none =>
    let n := escapeDigits x
    if n == 0 then none
    else
      let digits := (c.rest.drop 2).take n
      if digits.length < n then none
      else
        let code ← hexNumber? digits
        if h : code.isValidChar then return (Char.ofNatAux code h, c.skip (2 + n)) else none

def quotedWord (single : Bool) : Nat → String → Cursor → Option (String × Bool × Cursor)
  | 0, _, _ => none
  | fuel + 1, text, c =>
    match c.peek? 0 with
    | none => some (text, false, c)
    | some x =>
      if isBlank x || isBreak x then some (text, false, c)
      else if single && x == '\'' && c.sees '\'' 1 then quotedWord single fuel (text.push '\'') (c.skip 2)
      else if x == (if single then '\'' else '"') then some (text, false, c)
      else if !single && x == '\\' then
        if c.seesBreak 1 then some (text, true, c.skip.skipLine)
        else match escape c with
          | some (y, c) => quotedWord single fuel (text.push y) c
          | none => none
      else quotedWord single fuel (text.push x) c.skip

def quotedLines (single : Bool) : Nat → String → Cursor → Option (String × Cursor)
  | 0, _, _ => none
  | fuel + 1, text, c => do
    if c.seesDocumentMarker || c.atEnd then none
    let (text, broken, c) ← quotedWord single (c.rest.length + 1) text c
    if c.sees (if single then '\'' else '"') then return (text, c.skip)
    let (d, c) ← gap (fun _ => true) (c.rest.length + 1) { text, broken } c
    quotedLines single fuel d.join.text c

def quotedScalar (single : Bool) (c : Cursor) : Option (Token × Cursor) := do
  let (text, c) ← quotedLines single (c.rest.length + 1) "" c.skip
  return (.scalar text (if single then .singleQuoted else .doubleQuoted), c)

/-! ## Block scalars -/

inductive Chomping where
  | strip | clip | keep
  deriving DecidableEq, Repr

def chomping? (c : Cursor) : Option (Chomping × Cursor) :=
  if c.sees '+' then some (.keep, c.skip) else if c.sees '-' then some (.strip, c.skip) else none

def indentDigit (c : Cursor) : Option (Nat × Cursor) :=
  match c.peek? 0 with
  | some x => if x.isDigit then (if x == '0' then none else some (x.toNat - 48, c.skip)) else some (0, c)
  | none => some (0, c)

def blockHeader (c : Cursor) : Option (Chomping × Nat × Cursor) := do
  match chomping? c with
  | some (chomping, c) => do
    let (n, c) ← indentDigit c
    return (chomping, n, c)
  | none => do
    let (n, c) ← indentDigit c
    if n == 0 then return (.clip, 0, c)
    match chomping? c with
    | some (chomping, c) => return (chomping, n, c)
    | none => return (.clip, n, c)

def blockGap (indent : Nat) : Nat → Nat → String → Cursor → Option (Nat × String × Cursor)
  | 0, _, _, _ => none
  | fuel + 1, widest, breaks, c =>
    let room := indent - c.column
    let spaces := (c.rest.takeWhile (· == ' ')).length
    let c := c.skip (if indent = 0 then spaces else min spaces room)
    let widest := max widest c.column
    if (indent = 0 || c.column < indent) && c.sees '\t' then none
    else if c.seesBreak then
      let (b, c) := c.readLine
      blockGap indent fuel widest (breaks ++ b) c
    else some (widest, breaks, c)

structure BlockDraft where
  text : String := ""
  leading : String := ""
  trailing : String
  indented : Bool := false

def blockLines (literal : Bool) (indent : Nat) : Nat → BlockDraft → Cursor →
    Option (BlockDraft × Cursor)
  | 0, _, _ => none
  | fuel + 1, d, c => do
    if c.column ≠ indent || c.atEnd then return (d, c)
    let indented := c.seesBlank
    let joint :=
      if !literal && d.leading.startsWith "\n" && !d.indented && !indented then
        if d.trailing.isEmpty then " " else ""
      else d.leading
    let (line, c) := c.takeWhile (!isBreak ·)
    let (leading, c) := c.readLine
    let text := d.text ++ joint ++ d.trailing ++ String.ofList line
    let (_, trailing, c) ← blockGap indent (c.rest.length + 1) 0 "" c
    blockLines literal indent fuel { text, leading, trailing, indented } c

def blockScalar (literal : Bool) (outer : Int) (c : Cursor) : Option (Token × Cursor) := do
  let (chomping, increment, c) ← blockHeader c.skip
  let c ← c.restOfLine?
  let given : Nat := if increment = 0 then 0 else (max outer 0).toNat + increment
  let (widest, trailing, c) ← blockGap given (c.rest.length + 1) 0 "" c
  let indent := if given = 0 then max widest (max (outer + 1).toNat 1) else given
  let (d, c) ← blockLines literal indent (c.rest.length + 1) { trailing } c
  let text := match chomping with
    | .strip => d.text
    | .clip => d.text ++ d.leading
    | .keep => d.text ++ d.leading ++ d.trailing
  return (.scalar text (if literal then .literal else .folded), c)

/-! ## Names and tags -/

def anchorName (c : Cursor) : Option (String × Cursor) :=
  let (name, c) := c.skip.takeWhile isWord
  let ends := c.seesGap || (c.peek? 0).any (fun x => "?:,]\x7d%@\x60".contains x)
  if name.isEmpty || !ends then none else some (String.ofList name, c)

def isUriChar (full : Bool) (x : Char) : Bool :=
  isWord x || ";/?:@&=+$.!~*'()".contains x || (full && ",[]".contains x)

def followers? (octet : Nat) : Option Nat :=
  if octet < 0x80 then some 0
  else if octet < 0xC0 then none
  else if octet < 0xE0 then some 1
  else if octet < 0xF0 then some 2
  else if octet < 0xF8 then some 3
  else none

def octet? (c : Cursor) : Option (Nat × Cursor) :=
  match c.rest with
  | '%' :: a :: b :: _ => do
    let n ← hexNumber? [a, b]
    return (n, c.skip 3)
  | _ => none

def moreOctets : Nat → Nat → Cursor → Option (Nat × Cursor)
  | 0, code, c => some (code, c)
  | n + 1, code, c => do
    let (o, c) ← octet? c
    if o / 64 = 2 then moreOctets n (64 * code + o % 64) c else none

def uriEscape (c : Cursor) : Option (Char × Cursor) := do
  let (first, c) ← octet? c
  let n ← followers? first
  let (code, c) ← moreOctets n (if n = 0 then first else first % twoPow (6 - n)) c
  return (Char.ofNat code, c)

def uri (full : Bool) : Nat → String → Cursor → Option (String × Cursor)
  | 0, _, _ => none
  | fuel + 1, text, c =>
    match c.peek? 0 with
    | none => some (text, c)
    | some x =>
      if x == '%' then
        match uriEscape c with
        | some (y, c) => uri full fuel (text.push y) c
        | none => none
      else if isUriChar full x then uri full fuel (text.push x) c.skip
      else some (text, c)

def tagHandle (c : Cursor) : Option (String × Cursor) :=
  if !c.sees '!' then none
  else
    let (name, c) := c.skip.takeWhile isWord
    let text := "!" ++ String.ofList name
    some (if c.sees '!' then (text ++ "!", c.skip) else (text, c))

def tagName (c : Cursor) : Option (TagName × Cursor) :=
  if c.sees '<' 1 then do
    let c := c.skip 2
    let (text, c) ← uri true (c.rest.length + 1) "" c
    if text.isEmpty || !c.sees '>' then none else return (⟨"", text⟩, c.skip)
  else do
    let (handle, c) ← tagHandle c
    if handle.length > 1 && handle.endsWith "!" then do
      let (text, c) ← uri false (c.rest.length + 1) "" c
      if text.isEmpty then none else return (⟨handle, text⟩, c)
    else do
      let (text, c) ← uri false (c.rest.length + 1) (String.ofList (handle.toList.drop 1)) c
      return (if text.isEmpty then ⟨"", "!"⟩ else ⟨"!", text⟩, c)

def tag (inFlow : Bool) (c : Cursor) : Option (Token × Cursor) := do
  let (name, c) ← tagName c
  if c.seesGap || (inFlow && c.sees ',') then return (.tag name, c) else none

/-! ## Directives -/

def versionNumber (c : Cursor) : Option (Nat × Cursor) :=
  let (ds, c) := c.takeWhile Char.isDigit
  if ds.isEmpty || 9 < ds.length then none
  else some (ds.foldl (fun n x => 10 * n + (x.toNat - 48)) 0, c)

def versionDirective (c : Cursor) : Option (Token × Cursor) := do
  let (major, c) ← versionNumber (c.skipWhile isBlank)
  if !c.sees '.' then none
  let (minor, c) ← versionNumber c.skip
  return (.version major minor, c)

def tagDirective (c : Cursor) : Option (Token × Cursor) := do
  let (handle, c) ← tagHandle (c.skipWhile isBlank)
  if !handle.endsWith "!" then none
  if !c.seesBlank then none
  let c := c.skipWhile isBlank
  let (lead, c) ← uri true (c.rest.length + 1) "" c
  if lead.isEmpty || !c.seesGap then none
  return (.tagDirective handle lead, c)

def directive (c : Cursor) : Option (Token × Cursor) := do
  let (name, c) := c.skip.takeWhile isWord
  if !c.seesGap then none
  let (token, c) ←
    if name = "YAML".toList then versionDirective c
    else if name = "TAG".toList then tagDirective c
    else none
  return (token, ← c.restOfLine?)

end SchemaCheck.Yaml
