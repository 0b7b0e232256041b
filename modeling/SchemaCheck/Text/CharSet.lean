import SchemaCheck.Text.CaseFold
import SchemaCheck.Text.Category
/-! Sets of characters, by code point, and how they are put together. -/
namespace SchemaCheck.Text

inductive CharSet where
  | ranges (rs : Ranges)
  | union (a b : CharSet)
  | inter (a b : CharSet)
  | compl (a : CharSet)
  | caseless (a : CharSet)
  | asciiCaseless (a : CharSet)
  deriving DecidableEq, Repr

namespace CharSet

def holds : CharSet → Nat → Bool
  | ranges rs, n => rs.holds n
  | union a b, n => a.holds n || b.holds n
  | inter a b, n => a.holds n && b.holds n
  | compl a, n => !a.holds n
  | caseless a, n => (caseVariants n).any fun m => a.holds m
  | asciiCaseless a, n => (asciiCaseVariants n).any fun m => a.holds m

def empty : CharSet := ranges []

def full : CharSet := compl empty

def single (c : Char) : CharSet := ranges [(c.toNat, c.toNat)]

def diff (a b : CharSet) : CharSet := inter a (compl b)

def symmDiff (a b : CharSet) : CharSet := union (diff a b) (diff b a)

def ofCategories (gs : List Category) : CharSet := ranges (gs.flatMap Category.ranges)

end CharSet
end SchemaCheck.Text
