/-!
# Sets of code points as lists of ranges

The character classes of this library that reach beyond ASCII are tables of closed ranges of code
points in increasing order.
-/

namespace Conformance.Text

def inRanges (table : List (Nat × Nat)) (n : Nat) : Bool :=
  table.any fun range => range.1 ≤ n && n ≤ range.2

theorem inRanges_iff (table : List (Nat × Nat)) (n : Nat) :
    inRanges table n = true ↔ ∃ range ∈ table, range.1 ≤ n ∧ n ≤ range.2 := by
  simp [inRanges, List.any_eq_true]

end Conformance.Text
