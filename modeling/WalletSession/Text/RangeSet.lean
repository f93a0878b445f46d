set_option autoImplicit false

/-! # Sets of code points

A set of code points is kept as the ascending list of the points where membership changes: the first bound
starts a range that is in the set, the second ends it, and so on. A point is in the set when an odd number of
bounds lie at or below it. -/

namespace WalletSession

/-- A set of code points, by the points where membership changes. -/
structure RangeSet where
  /-- The bounds, ascending; ranges include their first bound and exclude their second. -/
  bounds : Array Nat

namespace RangeSet

/-- The number of bounds at or below `point`, given that it lies between `low` and `high`. -/
def rank (s : RangeSet) (point low high : Nat) : Nat :=
  if _ : low < high then
    let middle := (low + high) / 2
    if s.bounds.getD middle 0 ≤ point then s.rank point (middle + 1) high
    else s.rank point low middle
  else low
termination_by high - low

/-- Whether the set holds `point`. -/
def contains (s : RangeSet) (point : Nat) : Bool :=
  s.rank point 0 s.bounds.size % 2 == 1

end RangeSet
end WalletSession
