import GodotSurvey.Text.Basic
import Mathlib.Data.List.Nodup

/-!
# Tables

A table lists names with values. Of several entries of one name the first counts. A table in which
no name stands twice is known by its entries, in whatever order they stand.

* `lookup_put`, `lookup_filter_key` — what is found after an entry has been set, or some left out.
* `lookup_eq_some_iff_mem`, `lookup_perm` — with distinct names, an entry is found wherever it is.
-/

namespace GodotSurvey.Text

variable {α : Type} {table other : List (Text × α)} {name : Text} {value : α}

/-- The table with this value under the name: in place of its first entry, or at the end. -/
def put (name : Text) (value : α) : List (Text × α) → List (Text × α)
  | [] => [(name, value)]
  | (n, v) :: rest => if n == name then (name, value) :: rest else (n, v) :: put name value rest

theorem lookup_put (name x : Text) (value : α) (table : List (Text × α)) :
    (put name value table).lookup x = if x = name then some value else table.lookup x := by
  induction table with
  | nil =>
    rw [put, List.lookup_cons, List.lookup_nil]
    by_cases hx : x = name
    · simp [hx]
    · simp [hx, beq_false_of_ne hx]
  | cons entry table ih =>
    obtain ⟨n, v⟩ := entry
    rw [put]
    by_cases hn : n = name
    · subst hn
      by_cases hx : x = n
      · simp [hx]
      · simp [hx, List.lookup_cons, beq_false_of_ne hx]
    · rw [if_neg (by simpa using hn), List.lookup_cons, List.lookup_cons, ih]
      by_cases hx : x = n
      · simp [hx, hn]
      · simp [beq_false_of_ne hx]

/-- Entries of other names can be left out. -/
theorem lookup_filter_key (keep : Text → Bool) (h : keep name = true)
    (table : List (Text × α)) :
    (table.filter fun entry => keep entry.1).lookup name = table.lookup name := by
  induction table with
  | nil => rfl
  | cons entry table ih =>
    obtain ⟨n, v⟩ := entry
    by_cases hn : name = n
    · subst hn
      simp [h]
    · have hne : (name == n) = false := by simpa using hn
      cases hkeep : keep n <;> simp [hkeep, List.lookup_cons, hne, ih]

/-- What is not listed is not found. -/
theorem lookup_eq_none_iff_not_mem : table.lookup name = none ↔ name ∉ table.map Prod.fst := by
  rw [List.lookup_eq_none_iff]
  constructor
  · intro h hmem
    obtain ⟨entry, hentry, rfl⟩ := List.mem_map.1 hmem
    simpa using h entry hentry
  · intro h entry hentry
    have hne : name ≠ entry.1 := fun heq => h (heq ▸ List.mem_map_of_mem hentry)
    simpa using hne

/-- Where no name stands twice, what is found is what is listed. -/
theorem lookup_eq_some_iff_mem (h : (table.map Prod.fst).Nodup) :
    table.lookup name = some value ↔ (name, value) ∈ table := by
  induction table with
  | nil => simp
  | cons entry table ih =>
    obtain ⟨n, v⟩ := entry
    obtain ⟨hn, htable⟩ := List.nodup_cons.1 h
    rw [List.lookup_cons, List.mem_cons]
    by_cases hname : name = n
    · subst hname
      have hnot : (name, value) ∉ table := fun hmem =>
        hn (List.mem_map.2 ⟨_, hmem, rfl⟩)
      simp [hnot, eq_comm]
    · simp [beq_false_of_ne hname, ih htable, hname]

/-- Where no name stands twice, the order of the entries does not count. -/
theorem lookup_perm (hperm : table.Perm other) (h : (table.map Prod.fst).Nodup) :
    table.lookup name = other.lookup name := by
  have hother : (other.map Prod.fst).Nodup := (hperm.map Prod.fst).nodup_iff.1 h
  refine Option.ext fun value => ?_
  rw [lookup_eq_some_iff_mem h, lookup_eq_some_iff_mem hother, hperm.mem_iff]

end GodotSurvey.Text
