import SchemaCheck.Yaml.Node
/-! From tokens to nodes. Anything that is no single document is malformed. -/
namespace SchemaCheck.Yaml

structure ParseState where
  tokens : List Token
  handles : List (String × String)
  anchors : Anchors := {}

abbrev Parse := StateT ParseState Option

namespace Parse

def peek : Parse (Option Token) := return (← get).tokens.head?

def skip : Parse Unit := modify fun s => { s with tokens := s.tokens.tail }

def accept (t : Token) : Parse Bool := do
  if (← peek) = some t then
    skip
    return true
  return false

def mark : Parse Nat := do
  let place := (← get).anchors.place
  modify fun s => { s with anchors := s.anchors.step }
  return place

def define (name : Option String) : Parse Unit :=
  match name with
  | none => pure ()
  | some name => modify fun s => { s with anchors := s.anchors.define name }

def keep (name : Option String) (place : Nat) (n : Node) : Parse Node := do
  if name.isSome then modify fun s => { s with anchors := s.anchors.keep place n }
  return n

def isOneOf (ts : List Token) : Parse Bool := do
  match ← peek with
  | none => return false
  | some t => return t ∈ ts

def emptyScalar : Parse Node := do
  let _ ← mark
  return .scalar none "" .plain

def anchorToken : Parse (Option String) := do
  match ← peek with
  | some (.anchor name) => do
    skip
    return some name
  | _ => return none

def tagToken : Parse (Option String) := do
  match ← peek with
  | some (.tag name) => do
    skip
    if name.handle.isEmpty then return some name.suffix
    let lead ← (← get).handles.lookup name.handle
    return some (lead ++ name.suffix)
  | _ => return none

def properties : Parse (Option String × Option String) := do
  match ← anchorToken with
  | some a => return (some a, ← tagToken)
  | none =>
    match ← tagToken with
    | some t => return (← anchorToken, some t)
    | none => return (none, none)

def scalarTag (tag : Option String) : Option String := if tag = some "!" then none else tag

mutual

/-- A node; block collections are taken only where `block` says so, and a sequence without an
indentation of its own only where `bare` does. -/
def node (block bare : Bool) : Nat → Parse Node
  | 0 => failure
  | fuel + 1 => do
    match ← peek with
    | some (.alias name) => do
      skip
      let number ← (← get).anchors.number? name
      let _ ← mark
      return .alias number
    | _ => do
      let (anchor, tag) ← properties
      define anchor
      let place ← mark
      let n ← content block bare (anchor.isSome || tag.isSome) tag fuel
      keep anchor place n

def content (block bare named : Bool) (tag : Option String) : Nat → Parse Node
  | 0 => failure
  | fuel + 1 => do
    match ← peek with
    | some .blockEntry =>
      if bare then do
        let items ← bareItems fuel
        let _ ← mark
        return .sequence tag items
      else if named then return .scalar tag "" .plain else failure
    | some (.scalar text style) => do
      skip
      return .scalar (scalarTag tag) text style
    | some .flowSequenceStart => do
      skip
      let items ← flowItems true fuel
      let _ ← mark
      return .sequence tag items
    | some .flowMappingStart => do
      skip
      let entries ← flowEntries true fuel
      let _ ← mark
      return .mapping tag entries
    | some .blockSequenceStart =>
      if block then do
        skip
        let items ← blockItems fuel
        let _ ← mark
        return .sequence tag items
      else if named then return .scalar tag "" .plain else failure
    | some .blockMappingStart =>
      if block then do
        skip
        let entries ← blockEntries fuel
        let _ ← mark
        return .mapping tag entries
      else if named then return .scalar tag "" .plain else failure
    | _ => if named then return .scalar tag "" .plain else failure

def blockItems : Nat → Parse (List Node)
  | 0 => failure
  | fuel + 1 => do
    if ← accept .blockEnd then return []
    if !(← accept .blockEntry) then failure
    let n ← if ← isOneOf [.blockEntry, .blockEnd] then emptyScalar else node true false fuel
    return n :: (← blockItems fuel)

def bareItems : Nat → Parse (List Node)
  | 0 => failure
  | fuel + 1 => do
    if !(← accept .blockEntry) then return []
    let n ← if ← isOneOf [.blockEntry, .key, .value, .blockEnd] then emptyScalar
      else node true false fuel
    return n :: (← bareItems fuel)

def blockEntries : Nat → Parse (List (Node × Node))
  | 0 => failure
  | fuel + 1 => do
    if ← accept .blockEnd then return []
    if !(← accept .key) then failure
    let k ← blockPart fuel
    let v ← if ← accept .value then blockPart fuel else emptyScalar
    return (k, v) :: (← blockEntries fuel)

def blockPart : Nat → Parse Node
  | 0 => failure
  | fuel + 1 => do
    if ← isOneOf [.key, .value, .blockEnd] then emptyScalar else node true true fuel

def flowItems (first : Bool) : Nat → Parse (List Node)
  | 0 => failure
  | fuel + 1 => do
    if ← accept .flowSequenceEnd then return []
    if !first then
      if !(← accept .flowEntry) then failure
    if ← accept .flowSequenceEnd then return []
    let n ← if ← accept .key then pair fuel else node false false fuel
    return n :: (← flowItems false fuel)

def pair : Nat → Parse Node
  | 0 => failure
  | fuel + 1 => do
    let _ ← mark
    let k ← if ← isOneOf [.value, .flowEntry, .flowSequenceEnd] then do
        skip
        emptyScalar
      else node false false fuel
    let v ← if ← accept .value then
        if ← isOneOf [.flowEntry, .flowSequenceEnd] then emptyScalar else node false false fuel
      else emptyScalar
    let _ ← mark
    return .mapping none [(k, v)]

def flowEntries (first : Bool) : Nat → Parse (List (Node × Node))
  | 0 => failure
  | fuel + 1 => do
    if ← accept .flowMappingEnd then return []
    if !first then
      if !(← accept .flowEntry) then failure
    if ← accept .flowMappingEnd then return []
    if ← accept .key then
      let k ← if ← isOneOf [.value, .flowEntry, .flowMappingEnd] then emptyScalar
        else node false false fuel
      let v ← if ← accept .value then
          if ← isOneOf [.flowEntry, .flowMappingEnd] then emptyScalar else node false false fuel
        else emptyScalar
      return (k, v) :: (← flowEntries false fuel)
    else
      let k ← node false false fuel
      let v ← emptyScalar
      return (k, v) :: (← flowEntries false fuel)

end

/-! ## The document -/

def directives (versioned : Bool) (handles : List (String × String)) :
    List Token → Option (Bool × List (String × String) × List Token)
  | .version major minor :: rest =>
    if versioned || major ≠ 1 || (minor ≠ 1 && minor ≠ 2) then none else directives true handles rest
  | .tagDirective handle lead :: rest =>
    if (handles.lookup handle).isSome then none
    else directives versioned ((handle, lead) :: handles) rest
  | rest => some (versioned || !handles.isEmpty, handles, rest)

def defaultHandles : List (String × String) := [("!", "!"), ("!!", "tag:yaml.org,2002:")]

def endsDocument : Option Token → Bool
  | some .documentStart | some .documentEnd | some .streamEnd | some (.version ..)
  | some (.tagDirective ..) => true
  | _ => false

def root (explicit : Bool) (fuel : Nat) : Parse Node := do
  if explicit && endsDocument (← peek) then emptyScalar else node true false fuel

end Parse

def Graph.ofTokens? (tokens : List Token) : Option Graph := do
  if tokens = [.streamEnd] then return ⟨none, {}⟩
  let (directed, handles, rest) ← Parse.directives false [] tokens
  let (explicit, rest) ← match rest with
    | .documentStart :: rest => some (true, rest)
    | rest => if directed then none else some (false, rest)
  let (n, s) ← (Parse.root explicit (4 * tokens.length + 4)).run
    { tokens := rest, handles := handles ++ Parse.defaultHandles }
  if s.tokens.dropWhile (· = .documentEnd) = [.streamEnd] then return ⟨some n, s.anchors⟩ else none

end SchemaCheck.Yaml
