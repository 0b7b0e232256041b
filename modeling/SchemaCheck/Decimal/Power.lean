/-! Powers of the two bases in which numbers are held and written. -/
namespace SchemaCheck

def twoPow (n : Nat) : Nat := Nat.pow 2 n

def tenPow (n : Nat) : Nat := Nat.pow 10 n

end SchemaCheck
