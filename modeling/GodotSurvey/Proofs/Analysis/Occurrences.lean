import GodotSurvey.Analysis.Interaction

/-!
# Shapes found from left to right

A text is read from left to right: where a shape begins it is taken as a whole, elsewhere one byte is
passed. The reading may therefore step over a place, and a shape that begins there is not found.

* `Reads` — where the reading stands.
* `mem_occurrences_iff` — the shapes found are those that begin where it stands.
* `reads_iff` — it stands at every place that no shape found before reaches over.
-/

namespace GodotSurvey.Interaction

variable {r : Recogniser} {u v x w t : Text}

/-- The shape `x` begins behind `u`. -/
structure IsShape (r : Recogniser) (u x t : Text) : Prop where
  ne_nil : x ≠ []
  length : r u.getLast? (x ++ t) = x.length

/-- The reading of `u ++ t` stands between `u` and `t`. -/
inductive Reads (r : Recogniser) : Text → Text → Prop
  | start (t : Text) : Reads r [] t
  | pass {u t : Text} {c : UInt8} (h : Reads r u (c :: t)) (hc : r u.getLast? (c :: t) = 0) :
      Reads r (u ++ [c]) t
  | take {u x t : Text} (h : Reads r u (x ++ t)) (hx : IsShape r u x t) : Reads r (u ++ x) t

/-- The shape `x` begins behind `u`, where the reading stands. -/
structure Finds (r : Recogniser) (u x t : Text) : Prop extends IsShape r u x t where
  reads : Reads r u (x ++ t)

theorem IsShape.ne_zero (h : IsShape r u x t) : r u.getLast? (x ++ t) ≠ 0 := by
  rw [h.length]
  exact fun hnil => h.ne_nil (List.eq_nil_of_length_eq_zero hnil)

/-- No shape is longer than the text it begins. -/
def Bounded (r : Recogniser) : Prop := ∀ before s, r before s ≤ s.length

theorem bounded_of_ne_zero (h : ∀ before s, r before s ≠ 0 → r before s ≤ s.length) :
    Bounded r := by
  intro before s
  by_cases hnone : r before s = 0
  · rw [hnone]
    exact Nat.zero_le _
  · exact h before s hnone

/-! ## The list of shapes -/

/-- The shapes found in `t` once `u` is read. -/
def shapesBehind (r : Recogniser) (u t : Text) : List (Nat × Nat) :=
  occurrencesFrom r u.getLast? u.length 0 t

theorem occurrencesFrom_skip (before : Option UInt8) (i : Nat) (x t : Text) :
    occurrencesFrom r before i x.length (x ++ t) =
      occurrencesFrom r (x.getLast?.or before) (i + x.length) 0 t := by
  induction x generalizing before i with
  | nil => rfl
  | cons c x ih =>
    have hlast : (c :: x).getLast?.or before = x.getLast?.or (some c) := by
      rw [List.getLast?_cons]
      cases x.getLast? <;> rfl
    rw [List.length_cons, List.cons_append, occurrencesFrom, ih, hlast, Nat.add_right_comm,
      Nat.add_assoc]

theorem shapesBehind_pass {c : UInt8} (hc : r u.getLast? (c :: t) = 0) :
    shapesBehind r u (c :: t) = shapesBehind r (u ++ [c]) t := by
  rw [shapesBehind, occurrencesFrom, hc, shapesBehind, List.getLast?_concat, List.length_append]
  rfl

theorem shapesBehind_take (h : IsShape r u x t) :
    shapesBehind r u (x ++ t) = (u.length, x.length) :: shapesBehind r (u ++ x) t := by
  have hshape := h.length
  have hnext := occurrencesFrom_skip (r := r) u.getLast? u.length x t
  rw [← List.getLast?_append, ← List.length_append] at hnext
  rw [shapesBehind, shapesBehind, ← hnext]
  obtain ⟨c, x, rfl⟩ := List.exists_cons_of_ne_nil h.ne_nil
  rw [List.cons_append] at hshape ⊢
  rw [occurrencesFrom, hshape]
  rfl

/-- A text begins with a shape, or its first byte is passed. -/
theorem passes_or_takes (hr : Bounded r) (u : Text) (c : UInt8) (t : Text) :
    r u.getLast? (c :: t) = 0 ∨ ∃ x w, c :: t = x ++ w ∧ IsShape r u x w := by
  cases hn : r u.getLast? (c :: t) with
  | zero => exact .inl rfl
  | succ n =>
    have hlength : ((c :: t).take (n + 1)).length = n + 1 := by
      rw [List.length_take, ← hn]
      exact Nat.min_eq_left (hr _ _)
    refine .inr ⟨_, _, (List.take_append_drop (n + 1) (c :: t)).symm, ?_, ?_⟩
    · exact fun hnil => by simp at hnil
    · rw [List.take_append_drop, hn, hlength]

theorem Reads.finds_of_mem (hr : Bounded r) (h : Reads r u t) {o : Nat × Nat}
    (ho : o ∈ shapesBehind r u t) :
    ∃ v x w, u ++ t = v ++ (x ++ w) ∧ Finds r v x w ∧ o = (v.length, x.length) := by
  induction hn : t.length using Nat.strongRecOn generalizing u t with
  | ind n ih =>
    cases t with
    | nil => cases ho
    | cons c t =>
      rcases passes_or_takes hr u c t with hc | ⟨x, w, heq, hx⟩
      · rw [shapesBehind_pass hc] at ho
        have hlt : t.length < n := by rw [← hn]; exact Nat.lt_succ_self _
        obtain ⟨v, x, w, hsplit, hfinds⟩ := ih _ hlt (h.pass hc) ho rfl
        exact ⟨v, x, w, by rw [← hsplit, List.append_assoc]; rfl, hfinds⟩
      · rw [heq] at h ho ⊢
        rw [shapesBehind_take hx, List.mem_cons] at ho
        rcases ho with rfl | ho
        · exact ⟨u, x, w, rfl, ⟨hx, h⟩, rfl⟩
        · have hlt : w.length < n := by
            rw [← hn, heq, List.length_append]
            exact Nat.lt_add_of_pos_left (List.length_pos_iff.2 hx.ne_nil)
          obtain ⟨v, y, z, hsplit, hfinds⟩ := ih _ hlt (h.take hx) ho rfl
          exact ⟨v, y, z, by rw [← hsplit, List.append_assoc], hfinds⟩

/-- What is found later is found in the whole text. -/
theorem Reads.mem_occurrences (h : Reads r u t) {o : Nat × Nat} (ho : o ∈ shapesBehind r u t) :
    o ∈ occurrences r (u ++ t) := by
  induction h with
  | start => exact ho
  | pass h hc ih =>
    rw [← shapesBehind_pass hc] at ho
    rw [List.append_assoc]
    exact ih ho
  | take h hx ih =>
    rw [List.append_assoc]
    refine ih ?_
    rw [shapesBehind_take hx]
    exact List.mem_cons_of_mem _ ho

/-- The shapes found are those that begin where the reading stands. -/
theorem mem_occurrences_iff (hr : Bounded r) {s : Text} {o : Nat × Nat} :
    o ∈ occurrences r s ↔
      ∃ u x t, s = u ++ (x ++ t) ∧ Finds r u x t ∧ o = (u.length, x.length) := by
  constructor
  · intro h
    exact (Reads.start s).finds_of_mem hr h
  · rintro ⟨u, x, t, rfl, h, rfl⟩
    apply h.reads.mem_occurrences
    rw [shapesBehind_take h.toIsShape]
    exact List.mem_cons_self

/-! ## Places the reading steps over -/

/-- The reading does not stand within a shape it has found. -/
theorem Reads.le_of_finds (h : Reads r u t) (hf : Finds r v x w) (heq : u ++ t = v ++ (x ++ w))
    (hlt : v.length < u.length) : v.length + x.length ≤ u.length := by
  induction hn : u.length using Nat.strongRecOn generalizing u t v x w with
  | ind n ih =>
    subst hn
    cases h with
    | start => cases hlt
    | @pass u _ c h hc =>
      rw [List.append_assoc] at heq
      rw [List.length_append, List.length_singleton] at ih hlt ⊢
      by_cases hv : v.length < u.length
      · exact Nat.le_succ_of_le (ih _ (Nat.lt_succ_self _) h hf heq hv rfl)
      · obtain ⟨rfl, hrest⟩ := List.append_inj heq (by omega)
        have hzero : x.length = 0 := by
          rw [← hf.length, ← hrest]
          exact hc
        exact absurd (List.eq_nil_of_length_eq_zero hzero) hf.ne_nil
    | @take u y _ h hy =>
      rw [List.append_assoc] at heq
      rw [List.length_append] at ih hlt ⊢
      have hpos := List.length_pos_iff.2 hy.ne_nil
      rcases Nat.lt_trichotomy v.length u.length with hv | hv | hv
      · exact Nat.le_add_right_of_le (ih _ (by omega) h hf heq hv rfl)
      · obtain ⟨rfl, hrest⟩ := List.append_inj heq hv.symm
        have hsame : x.length = y.length := by rw [← hf.length, ← hrest, hy.length]
        exact Nat.le_of_eq (by rw [hsame])
      · have hover := ih _ hlt hf.reads ⟨hy, h⟩ heq.symm hv rfl
        omega

/-- The shape `x`, found behind `v`, reaches over the place between `u` and `t`. -/
structure Covers (r : Recogniser) (u t v x w : Text) : Prop where
  eq : u ++ t = v ++ (x ++ w)
  finds : Finds r v x w
  before : v.length < u.length
  beyond : u.length < v.length + x.length

/-- The shape is cut in two at the place it reaches over. -/
theorem Covers.exists_split (h : Covers r u t v x w) :
    ∃ a b, u = v ++ a ∧ x = a ++ b ∧ t = b ++ w ∧ a ≠ [] ∧ b ≠ [] := by
  have hbefore := h.before
  have hbeyond := h.beyond
  rcases List.append_eq_append_iff.1 h.eq with ⟨a, rfl, -⟩ | ⟨a, rfl, hrest⟩
  · rw [List.length_append] at hbefore
    omega
  · rw [List.length_append] at hbefore hbeyond
    rcases List.append_eq_append_iff.1 hrest with ⟨b, rfl, -⟩ | ⟨b, rfl, ht⟩
    · rw [List.length_append] at hbeyond
      omega
    · rw [List.length_append] at hbeyond
      refine ⟨a, b, rfl, rfl, ht, ?_, ?_⟩
      · rintro rfl
        simp at hbefore
      · rintro rfl
        simp at hbeyond

theorem reads_or_covered (hr : Bounded r) (u t : Text) :
    Reads r u t ∨ ∃ v x w, Covers r u t v x w := by
  induction hn : u.length generalizing u t with
  | zero =>
    rw [List.eq_nil_of_length_eq_zero hn]
    exact .inl (.start t)
  | succ n ih =>
    obtain ⟨u, c, rfl⟩ := (List.eq_nil_or_concat u).resolve_left (by rintro rfl; cases hn)
    rw [List.concat_eq_append] at hn ⊢
    have hlength : (u ++ [c]).length = u.length + 1 := by simp
    rcases ih u (c :: t) (by omega) with h | ⟨v, x, w, h⟩
    · rcases passes_or_takes hr u c t with hc | ⟨x, w, heq, hx⟩
      · exact .inl (h.pass hc)
      · rw [heq] at h
        have hsplit : (u ++ [c]) ++ t = u ++ (x ++ w) := by rw [← heq, List.append_assoc]; rfl
        by_cases hone : x.length = 1
        · rw [← List.append_assoc] at hsplit
          obtain ⟨hu, rfl⟩ := List.append_inj hsplit (by rw [hlength, List.length_append, hone])
          exact .inl (hu ▸ h.take hx)
        · have hpos := List.length_pos_iff.2 hx.ne_nil
          exact .inr ⟨u, x, w, hsplit, ⟨hx, h⟩, by omega, by omega⟩
    · have hbefore := h.before
      have hbeyond := h.beyond
      have hsplit : (u ++ [c]) ++ t = v ++ (x ++ w) := by rw [← h.eq, List.append_assoc]; rfl
      by_cases hend : v.length + x.length = u.length + 1
      · rw [← List.append_assoc] at hsplit
        obtain ⟨hu, rfl⟩ := List.append_inj hsplit (by rw [hlength, List.length_append, hend])
        exact .inl (hu ▸ h.finds.reads.take h.finds.toIsShape)
      · exact .inr ⟨v, x, w, hsplit, h.finds, by omega, by omega⟩

/-- The reading stands at every place that no shape found before reaches over. -/
theorem reads_iff (hr : Bounded r) : Reads r u t ↔ ¬∃ v x w, Covers r u t v x w := by
  constructor
  · rintro h ⟨v, x, w, hcover⟩
    have hle := h.le_of_finds hcover.finds hcover.eq hcover.before
    exact absurd hcover.beyond (Nat.not_lt.2 hle)
  · exact (reads_or_covered hr u t).resolve_right

end GodotSurvey.Interaction
