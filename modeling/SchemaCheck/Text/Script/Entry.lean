import SchemaCheck.Text.Ranges
/-! A script: its names, the usual one first, and its characters. -/
namespace SchemaCheck.Text

structure Script where
  names : List String
  ranges : Ranges

end SchemaCheck.Text
