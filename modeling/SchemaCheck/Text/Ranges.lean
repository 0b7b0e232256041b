/-! Sets of code points as lists of closed ranges. -/
namespace SchemaCheck.Text

abbrev Ranges := List (Nat × Nat)

def Ranges.holds (rs : Ranges) (n : Nat) : Bool := rs.any fun r => r.1 ≤ n && n ≤ r.2

def Ranges.joined : Ranges → Ranges
  | [] => []
  | [r] => [r]
  | r :: s :: rest =>
    if s.1 ≤ r.2 + 1 then joined ((r.1, max r.2 s.2) :: rest) else r :: joined (s :: rest)
termination_by rs => rs.length

def Ranges.merged (rs : Ranges) : Ranges := joined (rs.mergeSort fun r s => r.1 ≤ s.1)

end SchemaCheck.Text
