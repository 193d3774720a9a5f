/-!
# Ranges of code points

A set of characters is given by its ranges of code points, both ends included, in increasing
order.
-/

namespace CodeBehind.Text

/-- Ranges of code points, first and last of each. -/
abbrev Ranges := List (Nat × Nat)

def Ranges.contains (ranges : Ranges) (c : Char) : Bool :=
  ranges.any fun (first, last) ↦ first ≤ c.toNat && c.toNat ≤ last

end CodeBehind.Text
