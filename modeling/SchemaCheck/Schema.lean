import SchemaCheck.Document
/-! A normalized schema: its identifier, its resolved types, one lower and one upper bound, and the
normalized schemas inside it. -/
namespace SchemaCheck

def draft04 : String := "http://json-schema.org/draft-04/hyper-schema"

def knownTypes : List String := ["object", "array", "string", "bool", "boolean", "integer", "number"]

structure Schema where
  id : String
  dialect : String := ""
  types : List String := []
  description : String := ""
  reference : String := ""
  sample : Option Value := none
  pattern : String := ""
  required : List String := []
  minValue : Binary64 := .zero
  maxValue : Binary64 := .zero
  minLength : Int := 0
  maxLength : Int := 0
  definitions : List (String × Schema) := []
  properties : List (String × Schema) := []
  choices : List String := []
  items : Option Schema := none
  links : List (Link Schema) := []
  deriving Inhabited, Repr

namespace Schema

def isReference (s : Schema) : Bool := !s.reference.isEmpty

def hasType (s : Schema) (name : String) : Bool := s.types.any (· == name)

def children (s : Schema) : List Schema :=
  s.definitions.map Prod.snd ++ s.properties.map Prod.snd ++ s.items.toList ++
  s.links.filterMap Link.schema

end Schema

inductive Visit where
  | descend | skip
  deriving DecidableEq, Repr

abbrev Visitor (σ ε : Type) := Schema → σ → σ × Except ε Visit

namespace Schema

def andThen (next : σ → σ × Except ε Unit) : σ × Except ε Unit → σ × Except ε Unit
  | (s, .ok ()) => next s
  | (s, .error e) => (s, .error e)

mutual

def walk (visit : Visitor σ ε) : Schema → σ → σ × Except ε Unit
  | n@{ definitions, properties, items, links, .. }, state =>
    match visit n state with
    | (state, .error e) => (state, .error e)
    | (state, .ok .skip) => (state, .ok ())
    | (state, .ok .descend) =>
      andThen (walkLinks visit links) <|
      andThen (walkOptional visit items) <|
      andThen (walkEntries visit properties) <|
      walkEntries visit definitions state

def walkOptional (visit : Visitor σ ε) : Option Schema → σ → σ × Except ε Unit
  | none, state => (state, .ok ())
  | some n, state => walk visit n state

def walkEntries (visit : Visitor σ ε) : List (String × Schema) → σ → σ × Except ε Unit
  | [], state => (state, .ok ())
  | (_, n) :: rest, state => andThen (walkEntries visit rest) (walk visit n state)

def walkLinks (visit : Visitor σ ε) : List (Link Schema) → σ → σ × Except ε Unit
  | [], state => (state, .ok ())
  | { schema, .. } :: rest, state =>
    andThen (walkLinks visit rest) (walkOptional visit schema state)

end

def walkAll (visit : Visitor σ ε) : List Schema → σ → σ × Except ε Unit
  | [], state => (state, .ok ())
  | n :: rest, state => andThen (walkAll visit rest) (walk visit n state)

end Schema
end SchemaCheck
