import GodotSurvey.Text.Basic

/-!
# Sets of code points

A property of characters is given by the ranges of code points that have it.
-/

namespace GodotSurvey.Text

/-- The code point lies in one of the ranges. -/
def inRanges (ranges : List (Nat × Nat)) (p : Nat) : Bool :=
  ranges.any fun (lo, hi) => lo ≤ p && p ≤ hi

/-- The code point lies in one of the ranges, each of which has only every `stride`-th code point. -/
def inStrides (ranges : List (Nat × Nat × Nat)) (p : Nat) : Bool :=
  ranges.any fun (lo, hi, stride) => lo ≤ p && p ≤ hi && (p - lo) % stride == 0

end GodotSurvey.Text
