import SchemaCheck.Yaml.Token
/-! What a text holds: nodes, some of which stand for others by an anchor. -/
namespace SchemaCheck.Yaml

inductive Node where
  | scalar (tag : Option String) (text : String) (style : Style)
  | sequence (tag : Option String) (items : List Node)
  | mapping (tag : Option String) (entries : List (Node × Node))
  | alias (anchor : Nat)
  deriving Inhabited, Repr

/-- Nodes are known by the place where they begin, counting what begins or ends before. An anchor
number given twice means the place it was given last. -/
structure Anchors where
  place : Nat := 0
  names : List (String × Nat) := []
  places : List (Nat × Nat) := []
  nodes : List (Nat × Node) := []

namespace Anchors

def number? (a : Anchors) (name : String) : Option Nat := a.names.lookup name

def define (a : Anchors) (name : String) : Anchors :=
  let n := a.names.length
  { a with
    names := (name, n) :: a.names.filter (·.1 ≠ name)
    places := (n, a.place) :: a.places }

def step (a : Anchors) : Anchors := { a with place := a.place + 1 }

def keep (a : Anchors) (place : Nat) (n : Node) : Anchors := { a with nodes := (place, n) :: a.nodes }

def node? (a : Anchors) (number : Nat) : Option Node := do
  a.nodes.lookup (← a.places.lookup number)

end Anchors

structure Graph where
  root : Option Node
  anchors : Anchors

end SchemaCheck.Yaml
