import GodotSurvey.Graph.Metrics
import Mathlib.Data.List.Nodup
import Mathlib.Data.List.Perm.Subperm
import Mathlib.Logic.Relation

/-!
# Searching a graph

The search from a position goes round by round: each round takes a position from the queue and adds
its successors that are new. As no position is queued twice, one round for every position is enough,
and what is found then is closed under successors. So the search finds the positions that can be
reached, and no others. Splitting positions by a relation that is an equivalence on them gives its
classes.

* `Explored` — the invariant of the search; `Explored.round`, `Explored.reachFrom` — a round and a
  run keep it.
* `mem_reach` — **the search finds what can be reached.**
* `classes_perm`, `mem_class_iff` — **the classes hold every position once, together with all that
  are equivalent to it.**
-/

namespace GodotSurvey.Graph

/-! ## Rounds -/

theorem nodup_eraseDups {α : Type} [BEq α] [LawfulBEq α] (xs : List α) : xs.eraseDups.Nodup := by
  -- The rest of the list is filtered before it is looked at, so the induction is on its length.
  induction hn : xs.length using Nat.strongRecOn generalizing xs with
  | ind n ih =>
    cases xs with
    | nil => exact List.nodup_nil
    | cons x xs =>
      rw [List.eraseDups_cons]
      refine List.nodup_cons.2 ⟨fun hx => ?_, ?_⟩
      · have hmem := (List.mem_filter.1 (List.mem_eraseDups.1 hx)).2
        simp at hmem
      · have hlength := List.length_filter_le (fun b => !b == x) xs
        rw [List.length_cons] at hn
        exact ih _ (by omega) _ rfl

/-- One position leads to another directly. -/
def Leads (next : Array (List Nat)) (i j : Nat) : Prop := j ∈ next.getD i []

/-- Every successor is a position. -/
def IsBounded (next : Array (List Nat)) : Prop := ∀ i j, Leads next i j → j < next.size

theorem getD_map_range {α : Type} (f : Nat → α) (n i : Nat) (d : α) :
    ((List.range n).map f).toArray.getD i d = if i < n then f i else d := by
  by_cases hi : i < n
  · simp [hi]
  · simp [hi]

theorem leads_successors {n i j : Nat} {edges : List (Nat × Nat)} :
    Leads (successors n edges) i j ↔ i < n ∧ (i, j) ∈ edges := by
  rw [Leads, successors, getD_map_range]
  by_cases hi : i < n
  · rw [if_pos hi, List.mem_map]
    refine ⟨?_, fun ⟨_, hmem⟩ => ⟨(i, j), List.mem_filter.2 ⟨hmem, beq_self_eq_true i⟩, rfl⟩⟩
    rintro ⟨⟨k, l⟩, hmem, rfl⟩
    obtain ⟨hedge, hk⟩ := List.mem_filter.1 hmem
    obtain rfl : k = i := beq_iff_eq.1 hk
    exact ⟨hi, hedge⟩
  · rw [if_neg hi]
    exact iff_of_false List.not_mem_nil fun h => hi h.1

@[simp] theorem size_successors (n : Nat) (edges : List (Nat × Nat)) :
    (successors n edges).size = n := by
  simp [successors]

variable {next : Array (List Nat)} {start : Nat} {found queue : List Nat}

/-- What is found can be reached from the start, and all of it but the queue has been followed up. -/
structure Explored (next : Array (List Nat)) (start : Nat) (found queue : List Nat) : Prop where
  start_mem : start ∈ found
  distinct : found.Nodup
  bounded : ∀ j ∈ found, j < next.size
  reached : ∀ j ∈ found, Relation.ReflTransGen (Leads next) start j
  queued : ∀ j ∈ queue, j ∈ found
  closed : ∀ j ∈ found, j ∈ queue ∨ ∀ k, Leads next j k → k ∈ found

/-- The successors of a position that are new. -/
def newFrom (next : Array (List Nat)) (found : List Nat) (i : Nat) : List Nat :=
  ((next.getD i []).filter (!found.contains ·)).eraseDups

theorem mem_newFrom {i j : Nat} : j ∈ newFrom next found i ↔ Leads next i j ∧ j ∉ found := by
  rw [newFrom, List.mem_eraseDups, List.mem_filter, Leads]
  simp

theorem explored_start (h : start < next.size) : Explored next start [start] [start] where
  start_mem := List.mem_singleton_self start
  distinct := List.nodup_singleton start
  bounded := by simpa using h
  reached := by
    intro j hj
    rw [List.mem_singleton.1 hj]
  queued := fun _ hj => hj
  closed := fun _ hj => .inl hj

namespace Explored

theorem round (hnext : IsBounded next) {i : Nat} (h : Explored next start found (i :: queue)) :
    Explored next start (found ++ newFrom next found i) (queue ++ newFrom next found i) where
  start_mem := List.mem_append_left _ h.start_mem
  distinct := by
    refine List.nodup_append.2 ⟨h.distinct, nodup_eraseDups _, ?_⟩
    intro j hj k hk hjk
    exact (mem_newFrom.1 hk).2 (hjk ▸ hj)
  bounded := by
    intro j hj
    obtain hj | hj := List.mem_append.1 hj
    · exact h.bounded j hj
    · exact hnext i j (mem_newFrom.1 hj).1
  reached := by
    intro j hj
    obtain hj | hj := List.mem_append.1 hj
    · exact h.reached j hj
    · exact (h.reached i (h.queued i List.mem_cons_self)).tail (mem_newFrom.1 hj).1
  queued := by
    intro j hj
    obtain hj | hj := List.mem_append.1 hj
    · exact List.mem_append_left _ (h.queued j (List.mem_cons_of_mem i hj))
    · exact List.mem_append_right _ hj
  closed := by
    intro j hj
    obtain hj | hj := List.mem_append.1 hj
    · obtain hqueue | hclosed := h.closed j hj
      · obtain rfl | hqueue := List.mem_cons.1 hqueue
        · -- The position of this round is followed up now.
          refine .inr fun k hk => ?_
          by_cases hfound : k ∈ found
          · exact List.mem_append_left _ hfound
          · exact List.mem_append_right _ (mem_newFrom.2 ⟨hk, hfound⟩)
        · exact .inl (List.mem_append_left _ hqueue)
      · exact .inr fun k hk => List.mem_append_left _ (hclosed k hk)
    · exact .inl (List.mem_append_right _ hj)

theorem length_found_le (h : Explored next start found queue) : found.length ≤ next.size := by
  have hsub : found ⊆ List.range next.size := fun j hj => List.mem_range.2 (h.bounded j hj)
  simpa using (List.subperm_of_subset h.distinct hsub).length_le

/-- With one round for every position that is queued or not found yet, the search empties the
queue. -/
theorem reachFrom (hnext : IsBounded next) {fuel : Nat} (h : Explored next start found queue)
    (hfuel : next.size + queue.length ≤ fuel + found.length) :
    Explored next start (reachFrom next fuel found queue) [] := by
  induction fuel generalizing found queue with
  | zero =>
    have hlength := h.length_found_le
    have hqueue : queue = [] := List.length_eq_zero_iff.1 (by omega)
    subst hqueue
    exact h
  | succ fuel ih =>
    cases queue with
    | nil => exact h
    | cons i queue =>
      refine ih (h.round hnext) ?_
      rw [List.length_append, List.length_append]
      rw [List.length_cons] at hfuel
      omega

end Explored

/-- **The search finds what can be reached.** -/
theorem mem_reach (hnext : IsBounded next) (hstart : start < next.size) {j : Nat} :
    j ∈ reach next start ↔ Relation.ReflTransGen (Leads next) start j := by
  have h : Explored next start (reach next start) [] :=
    (explored_start hstart).reachFrom hnext (by simp)
  constructor
  · exact h.reached j
  · intro hj
    induction hj with
    | refl => exact h.start_mem
    | tail _ hlast ih => exact ((h.closed _ ih).resolve_left List.not_mem_nil) _ hlast

/-! ## Classes -/

section Classes

variable {related : Nat → Nat → Bool} {fuel : Nat} {is : List Nat}

theorem classes_cons (i : Nat) :
    classes related (fuel + 1) (i :: is) =
      (i :: is.filter (related i)) :: classes related fuel (is.filter (!related i ·)) := by
  simp [classes, List.partition_eq_filter_filter, Function.comp_def]

/-- The classes hold every position once. -/
theorem classes_perm (hfuel : is.length ≤ fuel) : (classes related fuel is).flatten.Perm is := by
  induction fuel generalizing is with
  | zero =>
    rw [List.length_eq_zero_iff.1 (Nat.le_zero.1 hfuel)]
    exact .nil
  | succ fuel ih =>
    cases is with
    | nil => exact .nil
    | cons i is =>
      have hlength := List.length_filter_le (!related i ·) is
      rw [List.length_cons] at hfuel
      have hrest := @ih (is.filter (!related i ·)) (by omega)
      rw [classes_cons, List.flatten_cons, List.cons_append]
      exact ((hrest.append_left _).trans (List.filter_append_perm (related i) is)).cons i

theorem ne_nil_of_mem_classes {c : List Nat} (hc : c ∈ classes related fuel is) : c ≠ [] := by
  induction fuel generalizing is with
  | zero => cases hc
  | succ fuel ih =>
    cases is with
    | nil => cases hc
    | cons i is =>
      rw [classes_cons] at hc
      obtain rfl | hc := List.mem_cons.1 hc
      · exact List.cons_ne_nil _ _
      · exact ih hc

theorem mem_of_mem_class (hfuel : is.length ≤ fuel) {c : List Nat}
    (hc : c ∈ classes related fuel is) {i : Nat} (hi : i ∈ c) : i ∈ is :=
  (classes_perm hfuel).mem_iff.1 (List.mem_flatten.2 ⟨c, hc, hi⟩)

section Equivalence

variable {R : Nat → Nat → Prop} {k : Nat}
  (hrelated : ∀ i ∈ k :: is, ∀ j ∈ k :: is, related i j = true ↔ R i j)

include hrelated

/-- What is left after the first class is not equivalent to its first member. -/
theorem mem_filter_not_related {l : Nat} :
    l ∈ is.filter (!related k ·) ↔ l ∈ is ∧ ¬ R k l := by
  rw [List.mem_filter]
  refine and_congr_right fun hl => ?_
  rw [Bool.not_eq_true', Bool.eq_false_iff, Ne,
    hrelated k List.mem_cons_self l (List.mem_cons_of_mem k hl)]

/-- The first class is told from its first member. -/
theorem mem_first_class (hR : Equivalence R) {l : Nat} :
    l ∈ k :: is.filter (related k) ↔ l ∈ k :: is ∧ R k l := by
  rw [List.mem_cons, List.mem_cons, List.mem_filter]
  constructor
  · rintro (rfl | ⟨hl, hkl⟩)
    · exact ⟨.inl rfl, hR.refl l⟩
    · exact ⟨.inr hl, (hrelated k List.mem_cons_self l (List.mem_cons_of_mem k hl)).1 hkl⟩
  · rintro ⟨rfl | hl, hkl⟩
    · exact .inl rfl
    · exact .inr ⟨hl, (hrelated k List.mem_cons_self l (List.mem_cons_of_mem k hl)).2 hkl⟩

end Equivalence

/-- If positions are related by an equivalence, each class is that of any of its members. -/
theorem mem_class_iff {R : Nat → Nat → Prop} (hR : Equivalence R)
    (hrelated : ∀ i ∈ is, ∀ j ∈ is, related i j = true ↔ R i j) (hfuel : is.length ≤ fuel)
    {c : List Nat} (hc : c ∈ classes related fuel is) {i j : Nat} (hi : i ∈ c) (hj : j ∈ is) :
    j ∈ c ↔ R i j := by
  induction fuel generalizing is with
  | zero => cases hc
  | succ fuel ih =>
    cases is with
    | nil => cases hc
    | cons k is =>
      rw [classes_cons] at hc
      obtain rfl | hc := List.mem_cons.1 hc
      · have hki := ((mem_first_class hrelated hR).1 hi).2
        rw [mem_first_class hrelated hR, and_iff_right hj]
        exact ⟨hR.trans (hR.symm hki), hR.trans hki⟩
      · have hlength := List.length_filter_le (!related k ·) is
        rw [List.length_cons] at hfuel
        have hrest {l : Nat} (hl : l ∈ c) : l ∈ is ∧ ¬ R k l :=
          (mem_filter_not_related hrelated).1 (mem_of_mem_class (by omega) hc hl)
        by_cases hkj : R k j
        · -- The member `j` of the first class is not in `c`, whose members are not equivalent to it.
          refine iff_of_false (fun hjc => (hrest hjc).2 hkj) fun hij => ?_
          exact (hrest hi).2 (hR.trans hkj (hR.symm hij))
        · have hj' : j ∈ is := (List.mem_cons.1 hj).resolve_left fun h => hkj (h ▸ hR.refl j)
          refine ih (fun l hl m hm => ?_) (by omega) hc
            ((mem_filter_not_related hrelated).2 ⟨hj', hkj⟩)
          exact hrelated l (List.mem_cons_of_mem k (List.mem_of_mem_filter hl)) m
            (List.mem_cons_of_mem k (List.mem_of_mem_filter hm))

end Classes

end GodotSurvey.Graph
