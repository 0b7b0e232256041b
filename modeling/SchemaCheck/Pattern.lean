import SchemaCheck.Pattern.Reader
/-! Patterns: regular expressions that choose texts. A text matches if any part of it does. -/
namespace SchemaCheck

structure Pattern where
  expr : Pattern.Expr
  deriving DecidableEq, Repr

namespace Pattern

def parse? (s : String) : Option Pattern := do
  let e ← read s.toList
  if e.fits then some ⟨e⟩ else none

def «matches» (p : Pattern) (text : String) : Bool := p.expr.foundIn text

end Pattern
end SchemaCheck
