import SchemaCheck.Document.Reader
import SchemaCheck.Yaml.Node.Parser
import SchemaCheck.Yaml.Token.Lexer
import SchemaCheck.Yaml.Plain
/-! Reading documents from YAML texts. A text that gives no document is malformed, and nothing more is
said about it. -/
namespace SchemaCheck.Yaml

inductive Malformed where
  | malformed
  deriving DecidableEq, Repr

abbrev Read := StateT Nat (Except Malformed)

def depthLimit : Nat := 128

def fail : Read α := throw .malformed

def ofOption : Option α → Read α
  | some x => pure x
  | none => fail

def resolve (anchors : Anchors) : Node → Read Node
  | .alias k => do
    match ← get with
    | 0 => fail
    | left + 1 => do
      set left
      ofOption (anchors.node? k)
  | n => pure n

namespace Node

def absent : Node → Read Bool
  | .scalar tag s .plain =>
    if tag = some (coreTag "null") then if nullWord s then pure true else fail
    else pure (tag.isNone && (s.isEmpty || nullWord s))
  | _ => pure false

def text : Node → Read String
  | .scalar _ s _ => pure s
  | _ => fail

def typed (name : String) : Node → Read String
  | .scalar _ s .plain => pure s
  | .scalar tag s .literal => if tag = some (coreTag name) then pure s else fail
  | _ => fail

def float (n : Node) : Read Binary64 := do ofOption (number? (← n.typed "float"))

def flag (n : Node) : Read Bool := do ofOption (flag? (← n.typed "bool"))

def length (n : Node) : Read Int := do
  let k ← ofOption (integer? (← n.typed "int").toList)
  if -(twoPow 63 : Int) ≤ k ∧ k < twoPow 63 then pure k else fail

def listed : Node → Read (Option (Contents Read Node))
  | .sequence _ items => pure (some ⟨items, pure ()⟩)
  | .scalar _ "" .plain => pure none
  | _ => fail

def keyed : Node → Read (Option (Contents Read (Node × Node)))
  | .mapping _ entries => pure (some ⟨entries, pure ()⟩)
  | .scalar _ "" .plain => pure none
  | _ => fail

def record (n : Node) : Read (Option (Record Read Node)) := do
  return (← n.keyed).map .keyed

def shape : Node → Read (Shape Read Node)
  | .scalar tag s style => do
    return .scalar (← ofOption (scalarValue? tag s style))
  | .sequence tag items => if isLocalTag tag then fail else pure (.sequence ⟨items, pure ()⟩)
  | .mapping tag entries => if isLocalTag tag then fail else pure (.map ⟨entries, pure ()⟩)
  | .alias _ => fail

def declarationKey (n : Node) : Read String := do
  match ← n.shape with
  | .scalar (.string s) => pure s
  | _ => fail

end Node

def reader (anchors : Anchors) : Reader Read Malformed Node where
  resolve := resolve anchors
  absent := Node.absent
  text := Node.text
  number := Node.float
  length := Node.length
  sequence := Node.listed
  map := Node.keyed
  record _ := Node.record
  shape := Node.shape
  key := Node.text
  declarationKey := Node.declarationKey
  skip _ := pure ()
  repeated _ := .malformed
  tooDeep := .malformed

def Graph.ofBytes? (bs : List UInt8) : Option Graph := do
  let text ← String.fromUTF8? ⟨bs.toArray⟩
  if !text.toList.all isAllowed then none
  Graph.ofTokens? (← Token.ofChars? text.toList)

theorem graphRead {content : List UInt8} (text : String) (ts : List Token) {g : Graph}
    (bytes : String.fromUTF8? ⟨content.toArray⟩ = some text) (allowed : text.toList.all isAllowed = true)
    (tokens : Token.ofChars? text.toList = some ts) (graph : Graph.ofTokens? ts = some g) :
    Graph.ofBytes? content = some g := by
  simp only [Graph.ofBytes?,bytes,Option.bind_eq_bind,Option.bind_some,allowed,tokens]
  exact graph

def followLimit : Nat := 100

def Graph.read (empty : α) (read : Reader Read Malformed Node → Node → Read α) (g : Graph) :
    Except Malformed α :=
  match g.root with
  | none => .ok empty
  | some n => (·.1) <$> (read (reader g.anchors) n).run (followLimit * g.anchors.place)

def readWith (empty : α) (read : Reader Read Malformed Node → Node → Read α) (bs : List UInt8) :
    Except Malformed α :=
  match Graph.ofBytes? bs with
  | none => .error .malformed
  | some g => g.read empty read

def readDocument (bs : List UInt8) : Except Malformed Document :=
  readWith {} (fun r n => r.readDocument depthLimit n) bs

end SchemaCheck.Yaml
