import GodotSurvey.Analysis.Stats
import Mathlib.Algebra.BigOperators.Group.List.Basic
import Mathlib.Algebra.Ring.Int.Defs
import Mathlib.Data.List.Sort
import Mathlib.Order.Defs.LinearOrder

/-!
# Ranks in a distribution

A percentile is the element at some position of the sorted list, so what is known about it is its
rank: what is smaller stands before that position, and what stands up to it is not larger. Sorting
forgets the order in which the values came, so a summary does too.

The position comes from the product of the percentage and the length. That is a product of 64-bit
integers, and all of this holds as long as it is one: where it wraps around, a larger percentage
can have an earlier position.

* `countP_lt_getElem_le`, `lt_countP_le_getElem` — the rank of an element of a sorted list.
* `percentile?_of_fits` — which element a percentile is.
* `ofValues_ranks` — **what a summary says about its values.**
-/

namespace GodotSurvey.Stats

/-! ## Positions -/

/-- The position of a percentile, where the product is a 64-bit integer. -/
theorem percentileIndex?_of_fits {p n : ℕ} (h : p * n < 2 ^ 63) :
    percentileIndex? p n = some (min (p * n / 100) (n - 1)) := by
  have hword : (Int64.ofInt ((p * n : ℕ) : Int)).toInt = ((p * n : ℕ) : Int) :=
    Int64.toInt_ofInt_of_le (by omega) (by omega)
  have hquotient : Int.tdiv ((p * n : ℕ) : Int) 100 = Int.ofNat (p * n / 100) := rfl
  rw [percentileIndex?, ← Int.natCast_mul, hword, hquotient]

section Order

variable {α : Type} [LinearOrder α] {vs : List α}

/-! ## Sorting -/

theorem sorted_perm (values : List α) : (sorted values).Perm values :=
  List.mergeSort_perm _ _

theorem pairwise_sorted (values : List α) : (sorted values).Pairwise (· ≤ ·) := by
  have htrans (a b c : α) (hab : decide (a ≤ b) = true) (hbc : decide (b ≤ c) = true) :
      decide (a ≤ c) = true := by
    rw [decide_eq_true_eq] at hab hbc ⊢
    exact le_trans hab hbc
  have htotal (a b : α) : (decide (a ≤ b) || decide (b ≤ a)) = true := by
    rw [Bool.or_eq_true, decide_eq_true_eq, decide_eq_true_eq]
    exact le_total a b
  exact (List.pairwise_mergeSort htrans htotal values).imp fun hab => of_decide_eq_true hab

/-- There is one way to sort values. -/
theorem sorted_eq {values : List α} (h : vs.Perm values) (hsorted : vs.Pairwise (· ≤ ·)) :
    sorted values = vs :=
  ((sorted_perm values).trans h.symm).eq_of_pairwise (fun _ _ _ _ => le_antisymm)
    (pairwise_sorted values) hsorted

/-- Values in another order are sorted alike. -/
theorem sorted_congr {values other : List α} (h : other.Perm values) :
    sorted other = sorted values :=
  sorted_eq ((sorted_perm values).trans h.symm) (pairwise_sorted values)

/-! ## Ranks -/

theorem getElem_le_getElem (h : vs.Pairwise (· ≤ ·)) {i j : ℕ} (hij : i ≤ j)
    (hj : j < vs.length) : vs[i] ≤ vs[j] := by
  obtain hlt | rfl := Nat.lt_or_eq_of_le hij
  · exact List.pairwise_iff_getElem.1 h i j _ hj hlt
  · exact le_rfl

/-- What is smaller than the element at a position stands before it. -/
theorem countP_lt_getElem_le (h : vs.Pairwise (· ≤ ·)) {i : ℕ} (hi : i < vs.length) :
    vs.countP (· < vs[i]) ≤ i := by
  have hbehind : (vs.drop i).countP (· < vs[i]) = 0 := by
    rw [List.countP_eq_zero]
    intro x hx
    obtain ⟨j, hj, rfl⟩ := List.mem_iff_getElem.1 hx
    rw [List.getElem_drop]
    simpa using getElem_le_getElem h (Nat.le_add_right i j) (by rw [List.length_drop] at hj; omega)
  calc vs.countP (· < vs[i])
      = (vs.take i ++ vs.drop i).countP (· < vs[i]) := by rw [List.take_append_drop]
    _ = (vs.take i).countP (· < vs[i]) := by rw [List.countP_append, hbehind, Nat.add_zero]
    _ ≤ (vs.take i).length := List.countP_le_length
    _ ≤ i := List.length_take_le i vs

/-- What stands up to a position is at most the element there. -/
theorem lt_countP_le_getElem (h : vs.Pairwise (· ≤ ·)) {i : ℕ} (hi : i < vs.length) :
    i < vs.countP (· ≤ vs[i]) := by
  have hbefore : (vs.take (i + 1)).countP (· ≤ vs[i]) = (vs.take (i + 1)).length := by
    rw [List.countP_eq_length]
    intro x hx
    obtain ⟨j, hj, rfl⟩ := List.mem_iff_getElem.1 hx
    rw [List.length_take] at hj
    rw [List.getElem_take, decide_eq_true_eq]
    exact getElem_le_getElem h (by omega) hi
  have hlength : i < (vs.take (i + 1)).length := by
    rw [List.length_take]
    omega
  rw [← hbefore] at hlength
  exact hlength.trans_le (List.take_sublist _ _).countP_le

omit [LinearOrder α] in
/-- A percentile is the element at its position. -/
theorem percentile?_of_fits (ifEmpty : α) {p : ℕ} (hpos : 0 < vs.length)
    (h : p * vs.length < 2 ^ 63) :
    percentile? ifEmpty vs p =
      some (vs.get ⟨min (p * vs.length / 100) (vs.length - 1), by omega⟩) := by
  have hne : vs.isEmpty = false := List.isEmpty_eq_false_iff.2 (List.ne_nil_of_length_pos hpos)
  rw [percentile?, hne, percentileIndex?_of_fits h]
  simp

/-- A larger percentage has no smaller percentile. -/
theorem percentile?_mono (h : vs.Pairwise (· ≤ ·)) (ifEmpty : α) {p q : ℕ} (hpq : p ≤ q)
    (hpos : 0 < vs.length) (hq : q * vs.length < 2 ^ 63) :
    ∃ x y, percentile? ifEmpty vs p = some x ∧ percentile? ifEmpty vs q = some y ∧ x ≤ y := by
  have hproduct : p * vs.length ≤ q * vs.length := Nat.mul_le_mul_right _ hpq
  refine ⟨_, _, percentile?_of_fits ifEmpty hpos (hproduct.trans_lt hq),
    percentile?_of_fits ifEmpty hpos hq, getElem_le_getElem h ?_ (by omega)⟩
  have hquotient := Nat.div_le_div_right (c := 100) hproduct
  omega

/-- The rank of a percentile. -/
theorem percentile?_rank (h : vs.Pairwise (· ≤ ·)) (ifEmpty : α) {p : ℕ} (hpos : 0 < vs.length)
    (hp : p * vs.length < 2 ^ 63) {x : α} (hx : percentile? ifEmpty vs p = some x) :
    vs.countP (· < x) ≤ p * vs.length / 100 ∧
      min (p * vs.length / 100 + 1) vs.length ≤ vs.countP (· ≤ x) := by
  rw [percentile?_of_fits ifEmpty hpos hp, List.get_eq_getElem, Option.some_inj] at hx
  subst hx
  constructor
  · exact (countP_lt_getElem_le h _).trans (Nat.min_le_left _ _)
  · have hrank := lt_countP_le_getElem h
      (i := min (p * vs.length / 100) (vs.length - 1)) (by omega)
    exact le_trans (by omega) (Nat.succ_le_of_lt hrank)

omit [LinearOrder α] in
theorem mem_of_percentile? {ifEmpty x : α} {p : ℕ} (hpos : 0 < vs.length)
    (hp : p * vs.length < 2 ^ 63) (hx : percentile? ifEmpty vs p = some x) : x ∈ vs := by
  rw [percentile?_of_fits ifEmpty hpos hp, List.get_eq_getElem, Option.some_inj] at hx
  exact hx ▸ List.getElem_mem _

/-- Nothing comes behind the last element. -/
theorem le_getLastD (h : vs.Pairwise (· ≤ ·)) (ifEmpty : α) {x : α} (hx : x ∈ vs) :
    x ≤ vs.getLastD ifEmpty := by
  obtain ⟨i, hi, rfl⟩ := List.mem_iff_getElem.1 hx
  rw [List.getLastD_eq_getLast?, List.getLast?_eq_getElem?,
    List.getElem?_eq_getElem (by omega), Option.getD_some]
  exact getElem_le_getElem h (by omega) _

end Order

/-! ## Summaries -/

theorem ofValues_congr {α : Type} [LinearOrder α] [Add α] [OfNat α 0] (toFloat : α → Float)
    {values other : List α} (h : other.Perm values) :
    Summary.ofValues toFloat other = Summary.ofValues toFloat values := by
  rw [Summary.ofValues, Summary.ofValues, sorted_congr h]

theorem ofValues_total (toFloat : Int → Float) (values : List Int) :
    (Summary.ofValues toFloat values).total = values.sum :=
  List.sum_eq_foldl.symm.trans (sorted_perm values).sum_eq

/-- **What a summary says about its values.** The order in which they come does not matter; the
total is their sum, and the maximum is the largest of them. As long as products of a percentage and
the number of values are 64-bit integers, every percentile is one of the values, a larger percentage
has no smaller one, and it has the rank that the percentage says: no more values are smaller than it
than that part of all, rounded down, and more than that are at most it, or all of them are. The
median and the ninetieth percentile of the summary are the percentiles of these percentages. -/
theorem ofValues_ranks (toFloat : Int → Float) {values : List Int} (hne : values ≠ []) :
    let s := Summary.ofValues toFloat values
    let vs := sorted values
    let n := vs.length
    vs.Perm values ∧ vs.Pairwise (· ≤ ·) ∧
      (∀ other, other.Perm values → Summary.ofValues toFloat other = s) ∧
      s.total = values.sum ∧ s.max ∈ values ∧ (∀ x ∈ values, x ≤ s.max) ∧
      (90 * n < 2 ^ 63 → percentile? 0 vs 50 = some s.p50 ∧ percentile? 0 vs 90 = some s.p90 ∧
        s.p50 ∈ values ∧ s.p90 ∈ values ∧ s.p50 ≤ s.p90 ∧ s.p90 ≤ s.max) ∧
      ∀ p q : ℕ, p ≤ q → q * n < 2 ^ 63 → ∃ x y : Int,
        percentile? 0 vs p = some x ∧ percentile? 0 vs q = some y ∧ x ≤ y ∧
          vs.countP (· < x) ≤ p * n / 100 ∧ min (p * n / 100 + 1) n ≤ vs.countP (· ≤ x) := by
  intro s vs n
  have hperm : vs.Perm values := sorted_perm values
  have hsorted : vs.Pairwise (· ≤ ·) := pairwise_sorted values
  have hpos : 0 < vs.length := hperm.length_eq ▸ List.length_pos_iff.2 hne
  have hmax : ∀ x ∈ values, x ≤ s.max := fun x hx => le_getLastD hsorted 0 (hperm.mem_iff.2 hx)
  refine ⟨hperm, hsorted, fun other => ofValues_congr toFloat, ofValues_total toFloat values,
    ?_, hmax, ?_, ?_⟩
  · have hlast : s.max = vs.getLast (List.ne_nil_of_length_pos hpos) := by
      have hmax : s.max = vs.getLastD 0 := rfl
      rw [hmax, List.getLastD_eq_getLast?, List.getLast?_eq_some_getLast, Option.getD_some]
    exact hperm.mem_iff.1 (hlast ▸ List.getLast_mem _)
  · intro hfits
    have hfits50 : 50 * vs.length < 2 ^ 63 := by omega
    obtain ⟨x, y, hx, hy, hxy⟩ :=
      percentile?_mono hsorted 0 (p := 50) (q := 90) (by decide) hpos hfits
    have hp50 : s.p50 = x := congrArg (Option.getD · 0) hx
    have hp90 : s.p90 = y := congrArg (Option.getD · 0) hy
    have hx' : x ∈ values := hperm.mem_iff.1 (mem_of_percentile? hpos hfits50 hx)
    have hy' : y ∈ values := hperm.mem_iff.1 (mem_of_percentile? hpos hfits hy)
    rw [hp50, hp90]
    exact ⟨hx, hy, hx', hy', hxy, hmax y hy'⟩
  · intro p q hpq hq
    obtain ⟨x, y, hx, hy, hxy⟩ := percentile?_mono hsorted 0 hpq hpos hq
    have hp : p * vs.length < 2 ^ 63 := (Nat.mul_le_mul_right _ hpq).trans_lt hq
    exact ⟨x, y, hx, hy, hxy, percentile?_rank hsorted 0 hpos hp hx⟩

/-- Four values, one of them twice: what is at most 3 is three quarters of them, so with that
percentage the largest is reached. -/
theorem ofValues_ranks_repeated :
    let values : List Int := [5, 1, 3, 1]
    let s := Summary.ofValues Float.ofInt values
    values ≠ [] ∧ 90 * (sorted values).length < 2 ^ 63 ∧
      74 ≤ 75 ∧ 75 * (sorted values).length < 2 ^ 63 ∧
      s.total = 10 ∧ s.p50 = 3 ∧ s.p50 ≤ s.p90 ∧ s.p90 ≤ s.max ∧
      percentile? 0 (sorted values) 74 = some 3 ∧ percentile? 0 (sorted values) 75 = some 5 ∧
      min (74 * 4 / 100 + 1) 4 ≤ (sorted values).countP (· ≤ 3) := by
  intro values s
  have hne : values ≠ [] := List.cons_ne_nil _ _
  have hvs : sorted values = [1, 1, 3, 5] := sorted_eq (by decide) (by decide)
  obtain ⟨-, -, -, htotal, -, -, hranks, hall⟩ := ofValues_ranks Float.ofInt hne
  rw [hvs] at hranks hall ⊢
  obtain ⟨h50, -, -, -, hle, hmax⟩ := hranks (by decide)
  obtain ⟨x, -, hx, -, -, -, hrank⟩ := hall 74 75 (by decide) (by decide)
  have h50' : percentile? (0 : Int) [1, 1, 3, 5] 50 = some 3 := by decide
  have hx' : percentile? (0 : Int) [1, 1, 3, 5] (74 : ℕ) = some 3 := by decide
  have hy' : percentile? (0 : Int) [1, 1, 3, 5] (75 : ℕ) = some 5 := by decide
  obtain rfl : 3 = x := Option.some.inj (hx'.symm.trans hx)
  have hp50 : 3 = s.p50 := Option.some.inj (h50'.symm.trans h50)
  exact ⟨hne, by decide, by decide, by decide, htotal, hp50.symm, hle, hmax, hx, hy', hrank⟩

/-- The product of a large percentage and the length wraps around, here to nothing: the percentile
is the smallest value, where that of a hundred is the largest. -/
theorem percentile?_wraps :
    [1, 2, 3, 4].Pairwise (fun a b : Int => a ≤ b) ∧ (100 : Int) ≤ 4611686018427387904 ∧
      percentile? 0 [(1 : Int), 2, 3, 4] 100 = some 4 ∧
      percentile? 0 [(1 : Int), 2, 3, 4] 4611686018427387904 = some 1 := by
  decide

end GodotSurvey.Stats
