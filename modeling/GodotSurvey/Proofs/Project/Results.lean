import GodotSurvey.Project.FanOut
import GodotSurvey.Proofs.Text.Order
import Mathlib.Data.List.Induction

/-!
# The results of a batch

Merging the values while the failures are set aside is one pass over the values and one over the
failures (`fold_eq`, `mapFiles_eq`), every path is in one of the two (`length_values_failures`), and
the failures are sorted by path without a change to the order of those with the same path
(`sortedStably_mergeSort`).
-/

namespace GodotSurvey.Batch

variable {α β : Type}

/-! ## Values and failures -/

@[simp] theorem values_cons_ok (path : Text) (v : α) (rest : List (Text × Except Text α)) :
    values ((path, .ok v) :: rest) = (path, v) :: values rest := rfl

@[simp] theorem values_cons_error (path cause : Text) (rest : List (Text × Except Text α)) :
    values ((path, .error cause) :: rest) = values rest := rfl

@[simp] theorem failures_cons_ok (path : Text) (v : α) (rest : List (Text × Except Text α)) :
    failures ((path, .ok v) :: rest) = failures rest := rfl

@[simp] theorem failures_cons_error (path cause : Text) (rest : List (Text × Except Text α)) :
    failures ((path, .error cause) :: rest) = ⟨path, cause⟩ :: failures rest := rfl

@[simp] theorem values_append (xs ys : List (Text × Except Text α)) :
    values (xs ++ ys) = values xs ++ values ys := List.filterMap_append

@[simp] theorem failures_append (xs ys : List (Text × Except Text α)) :
    failures (xs ++ ys) = failures xs ++ failures ys := List.filterMap_append

theorem mem_values {results : List (Text × Except Text α)} {v : Text × α} :
    v ∈ values results ↔ (v.1, .ok v.2) ∈ results := by
  rw [values, List.mem_filterMap]
  constructor
  · rintro ⟨⟨path, outcome⟩, hmem, h⟩
    cases outcome with
    | error => cases h
    | ok r =>
      cases h
      exact hmem
  · intro h
    exact ⟨_, h, rfl⟩

/-- Every path has a value or a failure. -/
theorem length_values_failures (results : List (Text × Except Text α)) :
    (values results).length + (failures results).length = results.length := by
  induction results with
  | nil => rfl
  | cons r rest ih =>
    obtain ⟨path, cause | v⟩ := r
    · rw [values_cons_error, failures_cons_error, List.length_cons, List.length_cons]
      omega
    · rw [values_cons_ok, failures_cons_ok, List.length_cons, List.length_cons]
      omega

/-! ## One pass over the results -/

theorem fold_concat (merge : β → Text → α → β) (start : β) (results : List (Text × Except Text α))
    (path : Text) (r : Except Text α) :
    fold merge start (results ++ [(path, r)]) = match r with
      | .error cause =>
        ((fold merge start results).1, (fold merge start results).2 ++ [⟨path, cause⟩])
      | .ok v => (merge (fold merge start results).1 path v, (fold merge start results).2) := by
  rw [fold, List.foldl_append]
  rfl

theorem fold_eq (merge : β → Text → α → β) (start : β) (results : List (Text × Except Text α)) :
    fold merge start results =
      ((values results).foldl (fun acc v => merge acc v.1 v.2) start, failures results) := by
  induction results using List.reverseRecOn with
  | nil => rfl
  | append_singleton rest r ih =>
    obtain ⟨path, cause | v⟩ := r
    · rw [fold_concat, ih, values_append, failures_append, values_cons_error, failures_cons_error,
        show values ([] : List (Text × Except Text α)) = [] from rfl, List.append_nil]
      rfl
    · rw [fold_concat, ih, values_append, failures_append, values_cons_ok, failures_cons_ok,
        show failures ([] : List (Text × Except Text α)) = [] from rfl, List.append_nil,
        List.foldl_append]
      rfl

theorem mapFiles_eq (results : List (Text × Except Text α)) :
    mapFiles results = ((values results).map (·.2), sortedFailures results) := by
  rw [mapFiles, fold_eq]
  simp [sortedFailures, ← List.flatMap_def, ← List.map_eq_flatMap]

/-! ## Failures by path -/

/-- A list is sorted by path, and what has the same path stays in order. -/
structure SortedStably (before after : List Failed) : Prop where
  perm : after.Perm before
  ascending : after.Pairwise fun a b => Text.le a.path b.path
  stable : ∀ path, after.filter (·.path == path) = before.filter (·.path == path)

theorem Failed.le_trans (a b c : Failed) : Text.le a.path b.path → Text.le b.path c.path →
    Text.le a.path c.path := Text.le_trans

theorem Failed.le_total (a b : Failed) : Text.le a.path b.path || Text.le b.path a.path :=
  Text.le_total a.path b.path

theorem ascending_mergeSort (failed : List Failed) :
    (failed.mergeSort fun a b => Text.le a.path b.path).Pairwise
      fun a b => Text.le a.path b.path :=
  List.pairwise_mergeSort Failed.le_trans Failed.le_total failed

theorem sortedStably_mergeSort (failed : List Failed) :
    SortedStably failed (failed.mergeSort fun a b => Text.le a.path b.path) := by
  have hperm := List.mergeSort_perm failed fun a b => Text.le a.path b.path
  refine ⟨hperm, ascending_mergeSort failed, ?_⟩
  intro path
  -- what has one path is a sublist that is sorted already, so that sorting leaves it together
  have hsame : (failed.filter (·.path == path)).Pairwise
      fun a b => Text.le a.path b.path := by
    apply List.pairwise_of_forall_mem_list
    intro a ha b hb
    have haq := beq_iff_eq.1 (List.mem_filter.1 ha).2
    have hbq := beq_iff_eq.1 (List.mem_filter.1 hb).2
    rw [haq, hbq]
    simpa using Text.le_total path path
  have hsub := List.sublist_mergeSort Failed.le_trans Failed.le_total hsame List.filter_sublist
  have hfilter := hsub.filter (·.path == path)
  simp only [List.filter_filter, Bool.and_self] at hfilter
  exact (hfilter.eq_of_length (hperm.filter _).length_eq.symm).symm

/-! ## What a batch is used for -/

/-- What is done with the results of a batch: the values are merged and listed in the order of the
paths, the failures are collected in that order or sorted by path, and none is lost. -/
structure Collected (work : Text → Except Text α) (paths : List Text)
    (results : List (Text × Except Text α)) : Prop where
  fold_eq : ∀ {β : Type} (merge : β → Text → α → β) (start : β), fold merge start results =
    ((values (run false work paths)).foldl (fun acc v => merge acc v.1 v.2) start,
      failures (run false work paths))
  values_eq : (mapFiles results).1 = (values (run false work paths)).map (·.2)
  failures_sorted : SortedStably (failures (run false work paths)) (mapFiles results).2
  length_eq : (mapFiles results).1.length + (mapFiles results).2.length = paths.length

theorem collected_run (work : Text → Except Text α) (paths : List Text) :
    Collected work paths (run false work paths) := by
  refine ⟨fun _ _ => fold_eq _ _ _, by rw [mapFiles_eq], ?_, ?_⟩
  · rw [mapFiles_eq]
    exact sortedStably_mergeSort _
  · have hlength := length_values_failures (run false work paths)
    rw [run, List.length_map, ← run] at hlength
    rw [mapFiles_eq, List.length_map, sortedFailures, List.length_mergeSort, hlength]

end GodotSurvey.Batch
