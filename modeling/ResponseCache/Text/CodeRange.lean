/-!
# Tables of code point ranges

A character class of the Unicode standard is given as a table of closed ranges of code points,
each written `(first, last)`, in increasing order and without overlaps. A code point belongs to
the class when it lies in one of the ranges.
-/

namespace ResponseCache
namespace Text

/-- Whether `n` lies in one of the closed ranges `(first, last)` of a table. -/
def inRanges (table : Array (Nat × Nat)) (n : Nat) : Bool :=
  table.any fun r => r.1 ≤ n && n ≤ r.2

/-- A code point is in a table exactly when one of its ranges holds it. -/
theorem inRanges_iff (table : Array (Nat × Nat)) (n : Nat) :
    inRanges table n = true ↔ ∃ r ∈ table, r.1 ≤ n ∧ n ≤ r.2 := by
  unfold inRanges
  rw [Array.any_eq_true']
  simp only [Bool.and_eq_true, decide_eq_true_eq]

end Text
end ResponseCache
