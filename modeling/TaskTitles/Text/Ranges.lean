/-!
# Ranges of code points

A character class is given by the closed ranges of its code points, in ascending order.
-/

namespace TaskTitles.Text

/-- Closed ranges of code points. -/
abbrev Ranges := List (Nat × Nat)

def Ranges.holds (ranges : Ranges) (c : Char) : Bool :=
  ranges.any fun r => r.1 ≤ c.toNat && c.toNat ≤ r.2

end TaskTitles.Text
