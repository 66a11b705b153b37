import GodotSurvey.Text.Basic
import Mathlib.Data.Ordering.Basic

/-!
# The order of texts

Comparing texts byte by byte is the lexicographic order of the standard library, so it is a total
order. Records that are sorted by a text key with distinct values come out strictly ascending, and
a strictly ascending list is known by its members.
-/

namespace GodotSurvey.Text

/-! ## Comparison -/

theorem compare_eq (a b : Text) : compare a b = Ord.compare a b := by
  induction a generalizing b with
  | nil => cases b <;> rfl
  | cons x as ih =>
    cases b with
    | nil => rfl
    | cons y bs =>
      rw [compare, List.compare_cons_cons, ih]
      by_cases hxy : x < y
      · rw [if_pos hxy, Std.compare_eq_lt.2 hxy]
        rfl
      · by_cases hyx : y < x
        · rw [if_neg hxy, if_pos hyx, Std.compare_eq_gt.2 hyx]
          rfl
        · have heq : x = y := UInt8.le_antisymm (UInt8.not_lt.1 hyx) (UInt8.not_lt.1 hxy)
          rw [if_neg hxy, if_neg hyx, heq, Std.compare_self]
          rfl

theorem le_iff {a b : Text} : le a b ↔ (Ord.compare a b).isLE := by
  rw [le, compare_eq]
  cases Ord.compare a b <;> decide

theorem lt_iff {a b : Text} : lt a b ↔ Ord.compare a b = .lt := by
  rw [lt, compare_eq, beq_iff_eq]

theorem le_trans {a b c : Text} (hab : le a b) (hbc : le b c) : le a c :=
  le_iff.2 (Std.TransCmp.isLE_trans (le_iff.1 hab) (le_iff.1 hbc))

theorem le_total (a b : Text) : (le a b || le b a) = true := by
  have hswap : Ord.compare b a = (Ord.compare a b).swap := Std.OrientedOrd.eq_swap
  rw [Bool.or_eq_true, le_iff, le_iff, hswap]
  cases Ord.compare a b <;> decide

theorem le_antisymm {a b : Text} (hab : le a b) (hba : le b a) : a = b :=
  Std.LawfulEqCmp.eq_of_compare (Std.OrientedCmp.isLE_antisymm (le_iff.1 hab) (le_iff.1 hba))

theorem lt_irrefl (a : Text) : ¬ lt a a := by
  rw [lt_iff, Std.compare_self]
  decide

theorem lt_asymm {a b : Text} (h : lt a b) : ¬ lt b a := by
  intro h'
  have hswap : Ord.compare b a = (Ord.compare a b).swap := Std.OrientedOrd.eq_swap
  rw [lt_iff.1 h, lt_iff.1 h'] at hswap
  cases hswap

theorem ne_of_lt {a b : Text} (h : lt a b) : a ≠ b := fun hab => lt_irrefl b (hab ▸ h)

theorem le_of_lt {a b : Text} (h : lt a b) : le a b := le_iff.2 (by rw [lt_iff.1 h]; rfl)

theorem lt_of_le_of_ne {a b : Text} (h : le a b) (hne : a ≠ b) : lt a b := by
  have hle := le_iff.1 h
  cases hc : Ord.compare a b with
  | lt => exact lt_iff.2 hc
  | eq => exact absurd (Std.LawfulEqCmp.eq_of_compare hc) hne
  | gt => simp [hc] at hle

/-! ## Sorting -/

/-- Records sorted by a key that tells them apart ascend strictly. -/
theorem ascending_mergeSort {α : Type} {key : α → Text} {xs : List α} (h : (xs.map key).Nodup) :
    (xs.mergeSort fun a b => le (key a) (key b)).Pairwise fun a b => lt (key a) (key b) := by
  have hsorted := @List.pairwise_mergeSort _ (fun a b => le (key a) (key b))
    (fun _ _ _ => le_trans) (fun _ _ => le_total _ _) xs
  have hperm := List.mergeSort_perm xs fun a b => le (key a) (key b)
  have hdistinct := List.pairwise_map.1 ((hperm.map key).nodup_iff.2 h)
  exact hsorted.imp₂ (fun _ _ => lt_of_le_of_ne) hdistinct

/-- The texts ascend strictly: a set in the order in which it is kept. -/
def Ascending (ts : List Text) : Prop := ts.Pairwise fun a b => lt a b

instance (ts : List Text) : Decidable (Ascending ts) :=
  inferInstanceAs (Decidable (ts.Pairwise fun a b => lt a b = true))

theorem Ascending.nodup {ts : List Text} (h : Ascending ts) : ts.Nodup := h.imp ne_of_lt

/-- An ascending list is known by its members. -/
theorem Ascending.ext {as bs : List Text} (ha : Ascending as) (hb : Ascending bs)
    (h : ∀ t, t ∈ as ↔ t ∈ bs) : as = bs := by
  have hperm := (List.perm_ext_iff_of_nodup ha.nodup hb.nodup).2 h
  exact hperm.eq_of_pairwise (fun _ _ _ _ => le_antisymm) (ha.imp le_of_lt) (hb.imp le_of_lt)

theorem ascending_sort {ts : List Text} (h : ts.Nodup) : Ascending (sort ts) :=
  ascending_mergeSort (by simpa using h)

theorem mem_sort {ts : List Text} {t : Text} : t ∈ sort ts ↔ t ∈ ts := List.mem_mergeSort

theorem Ascending.sort_eq {ts : List Text} (h : Ascending ts) : sort ts = ts :=
  (ascending_sort h.nodup).ext h fun _ => mem_sort

end GodotSurvey.Text
