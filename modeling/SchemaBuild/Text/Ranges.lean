/-!
# Classes of characters as ranges

A class of characters given by ranges of code points in rising order. Membership is decided by
halving the table.
-/

namespace SchemaBuild.Text

/-- Is the number in one of the ranges from index `low` up to, but not including, `high`? The ranges
rise, and `fuel` halvings suffice to come down to one. -/
def inRanges (ranges : Array (Nat × Nat)) (n : Nat) : (fuel low high : Nat) → Bool
  | 0, _, _ => false
  | fuel + 1, low, high =>
    if low < high then
      let middle := (low + high) / 2
      match ranges[middle]? with
      | none => false
      | some (first, last) =>
        if n < first then inRanges ranges n fuel low middle
        else if last < n then inRanges ranges n fuel (middle + 1) high
        else true
    else false

/-- Is the character's number in one of the ranges? -/
def isIn (ranges : Array (Nat × Nat)) (c : Char) : Bool :=
  inRanges ranges c.toNat (ranges.size + 1) 0 ranges.size

end SchemaBuild.Text
