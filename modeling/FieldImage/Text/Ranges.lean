/-! Sets of characters as ranges of code points. -/

namespace FieldImage.Text

/-- Membership of a code point in a list of ranges, both ends included. -/
def inRanges (ranges : List (Nat × Nat)) (n : Nat) : Bool :=
  ranges.any fun (low, high) => low ≤ n && n ≤ high

end FieldImage.Text
