import SchemaCheck.Text.Property
/-! Characters that a quoted text shows as they are: not controls, formats, private and unassigned code
points, separators other than the space, nor those that extend the character before them. -/
namespace SchemaCheck.Text

def shown : CharSet :=
  .diff (.ofCategories (Category.except (Category.hidden ++ Category.separators)))
    Property.graphemeExtend

def isPrintable (c : Char) : Bool :=
  if c.toNat < 0x7f then 0x20 ≤ c.toNat else shown.holds c.toNat

end SchemaCheck.Text
