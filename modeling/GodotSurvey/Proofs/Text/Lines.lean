import GodotSurvey.Text.Basic
import Mathlib.Algebra.GroupWithZero.Nat

/-!
# Splitting what was joined

Splitting at a byte undoes joining with it, as long as the pieces do not hold the byte themselves.
-/

namespace GodotSurvey.Text

/-! ## Pieces -/

theorem splitByte_of_not_mem {sep : UInt8} {s : Text} (h : sep ∉ s) : splitByte sep s = [s] := by
  induction s with
  | nil => rfl
  | cons c s ih =>
    simp only [List.mem_cons, not_or] at h
    obtain ⟨hc, hs⟩ := h
    simp [splitByte, Ne.symm hc, ih hs]

theorem splitByte_ne_nil (sep : UInt8) (s : Text) : splitByte sep s ≠ [] := by
  cases s with
  | nil => simp [splitByte]
  | cons c s =>
    rw [splitByte]
    split
    · simp
    · split <;> simp

theorem splitByte_append_sep (sep : UInt8) (s t : Text) :
    splitByte sep (s ++ sep :: t) = splitByte sep s ++ splitByte sep t := by
  induction s with
  | nil => simp [splitByte]
  | cons c s ih =>
    rw [List.cons_append, splitByte, splitByte, ih]
    split
    · rfl
    · obtain ⟨piece, pieces, h⟩ := List.exists_cons_of_ne_nil (splitByte_ne_nil sep s)
      rw [h]
      rfl

theorem splitByte_append {sep : UInt8} {s : Text} (h : sep ∉ s) (t : Text) :
    splitByte sep (s ++ sep :: t) = s :: splitByte sep t := by
  rw [splitByte_append_sep, splitByte_of_not_mem h]
  rfl

theorem join_cons (sep t : Text) {ts : List Text} (h : ts ≠ []) :
    join sep (t :: ts) = t ++ sep ++ join sep ts := by
  cases ts with
  | nil => contradiction
  | cons => rfl

theorem join_append (sep : Text) {ts us : List Text} (hts : ts ≠ []) (hus : us ≠ []) :
    join sep (ts ++ us) = join sep ts ++ sep ++ join sep us := by
  induction ts with
  | nil => contradiction
  | cons t ts ih =>
    cases ts with
    | nil => exact join_cons sep t hus
    | cons u ts =>
      have hcons : join sep (t :: (u :: ts ++ us)) = t ++ sep ++ join sep (u :: ts ++ us) := rfl
      have hcons' : join sep (t :: u :: ts) = t ++ sep ++ join sep (u :: ts) := rfl
      rw [List.cons_append, hcons, hcons', ih (by simp)]
      simp only [List.append_assoc]

theorem mem_join {sep : Text} {ts : List Text} {c : UInt8} (h : c ∈ join sep ts) :
    c ∈ sep ∨ ∃ t ∈ ts, c ∈ t := by
  induction ts with
  | nil => contradiction
  | cons t ts ih =>
    cases ts with
    | nil => exact .inr ⟨t, List.mem_cons_self, h⟩
    | cons u ts =>
      rw [join_cons _ _ (by simp), List.mem_append, List.mem_append] at h
      rcases h with (h | h) | h
      · exact .inr ⟨t, List.mem_cons_self, h⟩
      · exact .inl h
      · rcases ih h with h | ⟨v, hv, h⟩
        · exact .inl h
        · exact .inr ⟨v, List.mem_cons_of_mem t hv, h⟩

theorem splitByte_join {sep : UInt8} {ts : List Text} (hne : ts ≠ []) (h : ∀ t ∈ ts, sep ∉ t) :
    splitByte sep (join [sep] ts) = ts := by
  induction ts with
  | nil => contradiction
  | cons t ts ih =>
    have ht := h t List.mem_cons_self
    cases ts with
    | nil => exact splitByte_of_not_mem ht
    | cons u us =>
      have htail := ih (by simp) fun v hv => h v (List.mem_cons_of_mem t hv)
      rw [join_cons _ _ (by simp), List.append_assoc, List.singleton_append, splitByte_append ht,
        htail]

/-- Non-empty texts can be told from what they are joined to. -/
theorem join_inj {sep : UInt8} {ts us : List Text} (hts : ∀ t ∈ ts, t ≠ [] ∧ sep ∉ t)
    (hus : ∀ u ∈ us, u ≠ [] ∧ sep ∉ u) (h : join [sep] ts = join [sep] us) : ts = us := by
  have hnonempty {ts : List Text} (hts : ∀ t ∈ ts, t ≠ [] ∧ sep ∉ t) (hjoin : join [sep] ts = []) :
      ts = [] := by
    cases ts with
    | nil => rfl
    | cons t ts =>
      obtain ⟨hne, -⟩ := hts t List.mem_cons_self
      cases ts with
      | nil => exact absurd hjoin hne
      | cons u ts => simp [join, hne] at hjoin
  by_cases hne : ts = []
  · subst hne
    exact (hnonempty hus h.symm).symm
  · by_cases hne' : us = []
    · subst hne'
      exact hnonempty hts h
    · rw [← splitByte_join hne fun t ht => (hts t ht).2, h,
        splitByte_join hne' fun u hu => (hus u hu).2]

/-- What precedes the first separator can be told from the whole. -/
theorem append_first_inj {sep : UInt8} {a a' b b' : Text} (ha : sep ∉ a) (ha' : sep ∉ a')
    (h : a ++ sep :: b = a' ++ sep :: b') : a = a' ∧ b = b' := by
  have hsplit := congrArg (splitByte sep) h
  rw [splitByte_append ha, splitByte_append ha'] at hsplit
  obtain ⟨rfl, -⟩ := List.cons.inj hsplit
  exact ⟨rfl, (List.cons.inj (List.append_cancel_left h)).2⟩

/-- What follows the last separator can be told from the whole. -/
theorem append_last_inj {sep : UInt8} {a a' b b' : Text} (hb : sep ∉ b) (hb' : sep ∉ b')
    (h : a ++ sep :: b = a' ++ sep :: b') : a = a' ∧ b = b' := by
  have hsplit := congrArg (splitByte sep) h
  rw [splitByte_append_sep, splitByte_append_sep, splitByte_of_not_mem hb,
    splitByte_of_not_mem hb'] at hsplit
  obtain rfl : b = b' := by simpa using (List.append_inj' hsplit rfl).2
  exact ⟨List.append_cancel_right h, rfl⟩

/-- No piece holds the byte that separates them. -/
theorem not_mem_of_mem_splitByte {sep : UInt8} {s piece : Text} (h : piece ∈ splitByte sep s) :
    sep ∉ piece := by
  induction s generalizing piece with
  | nil =>
    obtain rfl := List.mem_singleton.mp h
    exact List.not_mem_nil
  | cons c s ih =>
    rw [splitByte] at h
    obtain ⟨first, pieces, hs⟩ := List.exists_cons_of_ne_nil (splitByte_ne_nil sep s)
    rw [hs] at ih h
    by_cases hc : c = sep
    · rw [if_pos (by simpa using hc)] at h
      rcases List.mem_cons.mp h with rfl | h
      · exact List.not_mem_nil
      · exact ih h
    · rw [if_neg (by simpa using hc)] at h
      rcases List.mem_cons.mp h with rfl | h
      · intro hmem
        rcases List.mem_cons.mp hmem with rfl | hmem
        · exact hc rfl
        · exact ih List.mem_cons_self hmem
      · exact ih (List.mem_cons_of_mem first h)

/-- A byte of a text separates pieces or lies in one of them. -/
theorem mem_splitByte (sep : UInt8) {c : UInt8} {s : Text} (h : c ∈ s) :
    c = sep ∨ ∃ piece ∈ splitByte sep s, c ∈ piece := by
  induction s with
  | nil => contradiction
  | cons d s ih =>
    rw [splitByte]
    obtain ⟨piece, pieces, hs⟩ := List.exists_cons_of_ne_nil (splitByte_ne_nil sep s)
    rw [hs] at ih ⊢
    by_cases hd : d = sep
    · rcases List.mem_cons.mp h with rfl | h
      · exact .inl hd
      · rcases ih h with hc | ⟨q, hq, hc⟩
        · exact .inl hc
        · exact .inr ⟨q, by simpa [hd] using .inr (List.mem_cons.mp hq), hc⟩
    · rcases List.mem_cons.mp h with rfl | h
      · exact .inr ⟨c :: piece, by simp [hd], List.mem_cons_self⟩
      · rcases ih h with hc | ⟨q, hq, hc⟩
        · exact .inl hc
        · rcases List.mem_cons.mp hq with rfl | hq
          · exact .inr ⟨d :: q, by simp [hd], List.mem_cons_of_mem d hc⟩
          · exact .inr ⟨q, by simp [hd, hq], hc⟩

/-- There is one piece more than separators. -/
theorem length_splitByte (sep : UInt8) (s : Text) : (splitByte sep s).length = s.count sep + 1 := by
  induction s with
  | nil => rfl
  | cons c s ih =>
    rw [splitByte, List.count_cons]
    split
    · rw [List.length_cons, ih]
    · obtain ⟨piece, pieces, hs⟩ := List.exists_cons_of_ne_nil (splitByte_ne_nil sep s)
      rw [hs] at ih ⊢
      exact ih

/-- A byte that the separator does not hold occurs as often as in the pieces. -/
theorem count_join {sep : Text} {c : UInt8} (h : c ∉ sep) (ts : List Text) :
    (join sep ts).count c = (ts.map (List.count c)).sum := by
  induction ts with
  | nil => rfl
  | cons t ts ih =>
    cases ts with
    | nil => exact (Nat.add_zero _).symm
    | cons u ts =>
      rw [join_cons _ _ (by simp), List.count_append, List.count_append, List.count_eq_zero.2 h, ih,
        Nat.add_zero]
      rfl

/-- Pieces joined by a byte and a blank come back, all but the first with the blank. -/
theorem splitByte_join_blank {sep : UInt8} {t : Text} {ts : List Text} (ht : sep ∉ t)
    (hts : ∀ u ∈ ts, sep ∉ u) (hsep : sep ≠ 32) :
    splitByte sep (join [sep, 32] (t :: ts)) = t :: ts.map (32 :: ·) := by
  induction ts generalizing t with
  | nil => simp [join, splitByte_of_not_mem ht]
  | cons u us ih =>
    have hu := hts u List.mem_cons_self
    have hus := fun v hv => hts v (List.mem_cons_of_mem u hv)
    rw [join_cons _ _ (by simp), List.append_assoc]
    simp only [List.cons_append, List.nil_append]
    rw [splitByte_append ht, splitByte]
    simp [Ne.symm hsep, ih hu hus]

/-! ## Lines -/

/-- The text holds no line feed and no carriage return. -/
structure IsOneLine (s : Text) : Prop where
  lineFeed : 10 ∉ s
  carriageReturn : 13 ∉ s

instance (s : Text) : Decidable (IsOneLine s) :=
  decidable_of_iff (10 ∉ s ∧ 13 ∉ s) ⟨fun ⟨h₁, h₂⟩ => ⟨h₁, h₂⟩, fun ⟨h₁, h₂⟩ => ⟨h₁, h₂⟩⟩

theorem isOneLine_append {s t : Text} : IsOneLine (s ++ t) ↔ IsOneLine s ∧ IsOneLine t := by
  constructor
  · rintro ⟨h₁, h₂⟩
    simp only [List.mem_append, not_or] at h₁ h₂
    exact ⟨⟨h₁.1, h₂.1⟩, ⟨h₁.2, h₂.2⟩⟩
  · rintro ⟨⟨h₁, h₂⟩, ⟨h₃, h₄⟩⟩
    exact ⟨by simp [h₁, h₃], by simp [h₂, h₄]⟩

/-- The lines of texts that stand one below the other are those of each text. -/
theorem splitLines_lines_flatMap (ts : List Text) :
    splitLines (lines ts) = ts.flatMap splitLines ++ [[]] := by
  induction ts with
  | nil => rfl
  | cons t ts ih =>
    have hcons : lines (t :: ts) = t ++ 10 :: lines ts := by
      simp [lines, Text.ofString, String.utf8EncodeChar]
    have hsplit := splitByte_append_sep 10 t (lines ts)
    rw [hcons, List.flatMap_cons, List.append_assoc, ← ih]
    exact hsplit

/-- Texts are their own lines exactly if none holds a line feed. -/
theorem flatMap_splitLines_eq_iff {ts : List Text} :
    ts.flatMap splitLines = ts ↔ ∀ t ∈ ts, 10 ∉ t := by
  constructor
  · intro h
    have hlength : (ts.flatMap splitLines).length = (ts.map (List.count 10)).sum + ts.length := by
      clear h
      induction ts with
      | nil => rfl
      | cons t ts ih =>
        have ht : (splitLines t).length = t.count 10 + 1 := length_splitByte 10 t
        rw [List.flatMap_cons, List.length_append, ih, ht, List.map_cons, List.sum_cons,
          List.length_cons]
        omega
    have hsum : (ts.map (List.count 10)).sum = 0 := by
      rw [h] at hlength
      omega
    intro t ht
    exact List.count_eq_zero.1 (List.sum_eq_zero_iff_forall_eq_nat.1 hsum _ (List.mem_map_of_mem ht))
  · intro h
    induction ts with
    | nil => rfl
    | cons t ts ih =>
      have ht : splitLines t = [t] := splitByte_of_not_mem (h t List.mem_cons_self)
      rw [List.flatMap_cons, ht, ih fun u hu => h u (List.mem_cons_of_mem t hu),
        List.singleton_append]

theorem splitLines_lines {ts : List Text} (h : ∀ t ∈ ts, 10 ∉ t) :
    splitLines (lines ts) = ts ++ [[]] := by
  rw [splitLines_lines_flatMap, flatMap_splitLines_eq_iff.2 h]

/-- Without carriage returns, line ends stay as they are. -/
theorem replaceAll_crlf {s : Text} (h : 13 ∉ s) : replaceAll s "\r\n" "\n" = s := by
  rw [replaceAll, replace]
  induction s with
  | nil => rfl
  | cons c s ih =>
    simp only [List.mem_cons, not_or] at h
    obtain ⟨hc, hs⟩ := h
    have hmatch : firstMatch? [("\r\n", "\n")] (c :: s) = none := by
      simp [firstMatch?, startsWith, Text.ofString, String.utf8EncodeChar, hc]
    simp [replaceFrom, hmatch, ih hs]

theorem stripStart_of_head {c d : UInt8} (h : c ≠ d) (s p : Text) :
    stripStart (c :: s) (d :: p) = c :: s := by
  simp [stripStart, dropStart?, h]

end GodotSurvey.Text
