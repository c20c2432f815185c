/-!
# Code point ranges

Properties of characters that no short rule describes are kept as lists of closed ranges of code
points, in ascending order.
-/

namespace CaseScript.Text

/-- A set of characters: closed ranges of code points. -/
abbrev Ranges := List (Nat × Nat)

/-- The character lies in one of the ranges. -/
def Ranges.covers (ranges : Ranges) (c : Char) : Bool :=
  ranges.any fun range => range.1 ≤ c.toNat && c.toNat ≤ range.2

end CaseScript.Text
