import GodotSurvey.Analysis.Insights
import GodotSurvey.Proofs.Text.Order
import Mathlib.Data.List.Induction
import Mathlib.Data.List.Nodup

/-!
# Lists of distinct texts

Appending the texts that are new is a union that keeps the order in which texts were first seen:
it is associative on all lists, and on lists of distinct texts the empty list is neutral and the
operands may be swapped up to order. Sorting such a union gives the ascending list of its members,
so there the operands may be swapped altogether.
-/

namespace GodotSurvey.Text

variable {as bs cs ts : List Text} {t u : Text}

/-! ## Adding what is new -/

theorem insertNew_of_mem (h : t ∈ ts) : insertNew ts t = ts := if_pos (List.contains_iff_mem.2 h)

theorem insertNew_of_not_mem (h : t ∉ ts) : insertNew ts t = ts ++ [t] :=
  if_neg fun hc => h (List.contains_iff_mem.1 hc)

theorem mem_insertNew : u ∈ insertNew ts t ↔ u ∈ ts ∨ u = t := by
  by_cases ht : t ∈ ts
  · rw [insertNew_of_mem ht]
    exact ⟨.inl, fun h => h.elim id fun hu => hu ▸ ht⟩
  · rw [insertNew_of_not_mem ht, List.mem_append, List.mem_singleton]

theorem nodup_insertNew (h : ts.Nodup) : (insertNew ts t).Nodup := by
  by_cases ht : t ∈ ts
  · rwa [insertNew_of_mem ht]
  · rw [insertNew_of_not_mem ht]
    exact List.concat_eq_append ▸ h.concat ht

theorem filter_insertNew (p : Text → Bool) :
    (insertNew ts t).filter p = if p t then insertNew (ts.filter p) t else ts.filter p := by
  by_cases ht : t ∈ ts
  · rw [insertNew_of_mem ht]
    split_ifs with hp
    · rw [insertNew_of_mem (List.mem_filter.2 ⟨ht, hp⟩)]
    · rfl
  · rw [insertNew_of_not_mem ht, List.filter_append]
    split_ifs with hp
    · rw [insertNew_of_not_mem fun h => ht (List.mem_of_mem_filter h), List.filter_singleton]
      simp [hp]
    · simp [hp]

/-! ## The union in first-seen order -/

theorem appendNew_append : appendNew as (bs ++ cs) = appendNew (appendNew as bs) cs :=
  List.foldl_append

theorem mem_appendNew : t ∈ appendNew as bs ↔ t ∈ as ∨ t ∈ bs := by
  induction bs generalizing as with
  | nil => simp [appendNew]
  | cons b bs ih =>
    rw [appendNew, List.foldl_cons, ← appendNew, ih, mem_insertNew, List.mem_cons, or_assoc]

theorem nodup_appendNew (h : as.Nodup) : (appendNew as bs).Nodup := by
  induction bs generalizing as with
  | nil => exact h
  | cons b bs ih => exact ih (nodup_insertNew h)

theorem appendNew_insertNew : appendNew as (insertNew bs t) = insertNew (appendNew as bs) t := by
  by_cases ht : t ∈ bs
  · rw [insertNew_of_mem ht, insertNew_of_mem (mem_appendNew.2 (.inr ht))]
  · rw [insertNew_of_not_mem ht, appendNew, List.foldl_append]
    rfl

theorem appendNew_assoc : appendNew (appendNew as bs) cs = appendNew as (appendNew bs cs) := by
  induction cs generalizing bs with
  | nil => rfl
  | cons c cs ih =>
    change appendNew (insertNew (appendNew as bs) c) cs = appendNew as (appendNew (insertNew bs c) cs)
    rw [← appendNew_insertNew, ih]

/-- Nothing is left out if all is new. -/
theorem appendNew_of_nodup (h : (as ++ bs).Nodup) : appendNew as bs = as ++ bs := by
  induction bs generalizing as with
  | nil => exact (List.append_nil as).symm
  | cons b bs ih =>
    have hb : b ∉ as := fun hb => (List.nodup_append.1 h).2.2 b hb b List.mem_cons_self rfl
    rw [appendNew, List.foldl_cons, insertNew_of_not_mem hb, ← appendNew,
      ih (by simpa using h), List.append_assoc, List.singleton_append]

/-- Unions of the same texts differ in order only. -/
theorem perm_appendNew {as' bs' : List Text} (ha : as.Nodup) (ha' : as'.Nodup)
    (h : ∀ t, t ∈ as ∨ t ∈ bs ↔ t ∈ as' ∨ t ∈ bs') :
    (appendNew as bs).Perm (appendNew as' bs') :=
  (List.perm_ext_iff_of_nodup (nodup_appendNew ha) (nodup_appendNew ha')).2 fun t => by
    rw [mem_appendNew, mem_appendNew, h]

/-! ## Removing repetitions -/

theorem mem_dedup : t ∈ dedup ts ↔ t ∈ ts := by
  simpa [appendNew, dedup] using @mem_appendNew [] ts t

theorem nodup_dedup : (dedup ts).Nodup := nodup_appendNew List.nodup_nil

theorem dedup_concat : dedup (ts ++ [t]) = insertNew (dedup ts) t := List.foldl_append

theorem appendNew_dedup : appendNew as (dedup bs) = appendNew as bs :=
  (@appendNew_assoc as [] bs).symm

/-- Only what the first list does not hold is added. -/
theorem appendNew_eq_append_filter :
    appendNew as bs = as ++ (dedup bs).filter (fun t => !as.contains t) := by
  induction bs using List.reverseRecOn with
  | nil => exact (List.append_nil as).symm
  | append_singleton bs b ih =>
    rw [appendNew_append, ih, dedup_concat, filter_insertNew]
    change insertNew _ b = _
    by_cases ha : b ∈ as
    · rw [insertNew_of_mem (List.mem_append_left _ ha)]
      simp [ha]
    · rw [if_pos (by simpa using ha)]
      by_cases hb : b ∈ (dedup bs).filter (fun t => !as.contains t)
      · rw [insertNew_of_mem hb, insertNew_of_mem (List.mem_append_right _ hb)]
      · rw [insertNew_of_not_mem hb, insertNew_of_not_mem, List.append_assoc]
        intro h
        exact (List.mem_append.1 h).elim ha hb

theorem dedup_append :
    dedup (as ++ bs) = dedup as ++ (dedup bs).filter (fun t => !as.contains t) := by
  have h : dedup (as ++ bs) = appendNew (dedup as) bs := appendNew_append
  rw [h, appendNew_eq_append_filter]
  congr 2
  funext t
  rw [Bool.not_inj_iff, Bool.eq_iff_iff, List.contains_iff_mem, List.contains_iff_mem, mem_dedup]

/-- Repetitions may be removed from the pieces of a list first. -/
theorem dedup_flatMap_dedup {α : Type} (f : α → List Text) (xs : List α) :
    dedup (xs.flatMap fun x => dedup (f x)) = dedup (xs.flatMap f) := by
  suffices h : ∀ as, appendNew as (xs.flatMap fun x => dedup (f x)) = appendNew as (xs.flatMap f) from
    h []
  induction xs with
  | nil => intro as; rfl
  | cons x xs ih =>
    intro as
    rw [List.flatMap_cons, List.flatMap_cons, appendNew_append, appendNew_append, appendNew_dedup, ih]

theorem dedup_replicate (n : Nat) : dedup (List.replicate n t) = if n = 0 then [] else [t] := by
  induction n with
  | zero => rfl
  | succ n ih =>
    rw [List.replicate_succ', dedup_concat, ih, if_neg (Nat.succ_ne_zero n)]
    split_ifs
    · rfl
    · exact insertNew_of_mem List.mem_cons_self

/-! ## The sorted union -/

theorem mem_unionSorted : t ∈ unionSorted as bs ↔ t ∈ as ∨ t ∈ bs := mem_sort.trans mem_appendNew

theorem ascending_unionSorted (h : as.Nodup) : Ascending (unionSorted as bs) :=
  ascending_sort (nodup_appendNew h)

/-- Sorted unions of the same texts are equal. -/
theorem unionSorted_eq {as' bs' : List Text} (ha : as.Nodup) (ha' : as'.Nodup)
    (h : ∀ t, t ∈ as ∨ t ∈ bs ↔ t ∈ as' ∨ t ∈ bs') : unionSorted as bs = unionSorted as' bs' :=
  (ascending_unionSorted ha).ext (ascending_unionSorted ha') fun t => by
    rw [mem_unionSorted, mem_unionSorted, h]

theorem unionSorted_comm (ha : Ascending as) (hb : Ascending bs) :
    unionSorted as bs = unionSorted bs as :=
  unionSorted_eq ha.nodup hb.nodup fun _ => or_comm

theorem unionSorted_assoc (ha : Ascending as) :
    unionSorted (unionSorted as bs) cs = unionSorted as (unionSorted bs cs) :=
  unionSorted_eq (ascending_unionSorted ha.nodup).nodup ha.nodup fun t => by
    rw [mem_unionSorted, mem_unionSorted, or_assoc]

theorem unionSorted_nil (ha : Ascending as) : unionSorted as [] = as := ha.sort_eq

theorem nil_unionSorted (ha : Ascending as) : unionSorted [] as = as := by
  rw [unionSorted_comm List.Pairwise.nil ha, unionSorted_nil ha]

end GodotSurvey.Text
