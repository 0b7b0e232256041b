/-! Numbers in hexadecimal. -/
namespace SchemaCheck.Text

def hexValue? (x : Char) : Option Nat :=
  let n := x.toNat
  if x.isDigit then some (n - 48)
  else if 97 ≤ n && n ≤ 102 then some (n - 87)
  else if 65 ≤ n && n ≤ 70 then some (n - 55)
  else none

def hexNumber? (cs : List Char) : Option Nat :=
  cs.foldlM (fun n x => (hexValue? x).map (16 * n + ·)) 0

end SchemaCheck.Text
