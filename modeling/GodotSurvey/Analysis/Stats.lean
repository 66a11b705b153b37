import GodotSurvey.Document.Basic

/-!
# Distributions of counts

How a count is spread over the scripts of a project: total, mean, median, ninetieth percentile and
maximum.
-/

namespace GodotSurvey.Stats

/-- The position of the `p`-th percentile in a sorted list of length `n`; it is the last position
at most, and none below the first. The product of `p` and `n` is a 64-bit integer: it wraps
around. -/
def percentileIndex? (p : Int) (n : Nat) : Option Nat :=
  match Int.tdiv (Int64.ofInt (p * n)).toInt 100 with
  | .ofNat i => some (min i (n - 1))
  | .negSucc _ => none

/-- The `p`-th percentile of a sorted list; that of an empty list is the given value. -/
def percentile? {α : Type} (ifEmpty : α) (sorted : List α) (p : Int) : Option α :=
  if sorted.isEmpty then some ifEmpty
  else (percentileIndex? p sorted.length).bind (sorted[·]?)

/-- The distribution of a count, in numbers of some type. -/
structure Summary (α : Type) where
  count : Nat
  total : α
  mean : Float
  p50 : α
  p90 : α
  max : α

/-- The nearest multiple of a hundredth; a half goes away from zero. -/
def roundHundredths (x : Float) : Float := (x * 100).round / 100

section
variable {α : Type} [LE α] [DecidableLE α]

/-- Ascending order. -/
def sorted (values : List α) : List α := values.mergeSort fun a b => a ≤ b

/-- The distribution of values in any order. Only the mean leaves the numbers of the values, through
`toFloat`. -/
def Summary.ofValues [Add α] [OfNat α 0] (toFloat : α → Float) (values : List α) : Summary α :=
  let vs := sorted values
  let total := vs.foldl (· + ·) 0
  { count := vs.length
    total
    mean := if vs.isEmpty then 0 else roundHundredths (toFloat total / Float.ofNat vs.length)
    p50 := (percentile? 0 vs 50).getD 0
    p90 := (percentile? 0 vs 90).getD 0
    max := vs.getLastD 0 }

end

/-- The distribution of doubles. -/
def summarize (values : List Float) : Summary Float := .ofValues id values

/-- The distribution of integers, counted in doubles. -/
def summarizeInts (counts : List Int) : Summary Float := summarize (counts.map Float.ofInt)

open Document in
def Summary.document (s : Summary Float) : Document :=
  ofFields [field "count" (nat s.count), field "total" (.float s.total),
    field "mean" (.float s.mean), field "p50" (.float s.p50), field "p90" (.float s.p90),
    field "max" (.float s.max)]

end GodotSurvey.Stats
