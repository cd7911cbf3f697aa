/-!
# Ranges of code points

Unicode properties are kept as lists of closed ranges of code points.  Table entries are the
data of the standard; `inRanges` decides membership.
-/

namespace FleetQuery

/-- Membership of a code point in a list of closed ranges. -/
def inRanges (n : Nat) (ranges : List (Nat × Nat)) : Bool :=
  ranges.any fun r => r.1 ≤ n && n ≤ r.2

theorem inRanges_iff {n : Nat} {ranges : List (Nat × Nat)} :
    inRanges n ranges = true ↔ ∃ r ∈ ranges, r.1 ≤ n ∧ n ≤ r.2 := by
  simp [inRanges]

end FleetQuery
