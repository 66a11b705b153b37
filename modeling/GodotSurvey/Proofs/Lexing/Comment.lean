import GodotSurvey.Proofs.Lexing.Literal
import GodotSurvey.Proofs.Text.Trim

/-!
# Comments

The code on a line ends at the first `#` outside literals. White space holds neither `#` nor quotes,
so it does not matter whether a line is trimmed before its comment is taken off or only after it.

* `stripComment_eq` — the search for the `#` as a recursion along the line, `codeFrom`.
* `trim_stripComment_trim` — **trimming before the comment is taken off changes nothing.**
-/

namespace GodotSurvey.Lexing

open Text

/-- The bytes before the first `#` outside literals. -/
def codeFrom (st : QuoteState) : Text → Text
  | [] => []
  | c :: rest => if st.outer c && c == 35 then [] else c :: codeFrom (st.step c) rest

theorem findUnquotedFrom_hash (st : QuoteState) (i : Nat) (s : Text) :
    match findUnquotedFrom [35] st i s with
    | some j => ∃ k, j = i + k ∧ s.take k = codeFrom st s
    | none => codeFrom st s = s := by
  induction s generalizing st i with
  | nil => rfl
  | cons c s ih =>
    have hhash : startsWith (c :: s) [35] = (c == 35) := by
      rw [startsWith, List.isPrefixOf, List.isPrefixOf_nil_left, Bool.and_true, BEq.comm]
    rw [findUnquotedFrom, codeFrom, hhash]
    by_cases hc : (st.outer c && c == 35) = true
    · rw [if_pos hc, if_pos hc]
      exact ⟨0, rfl, rfl⟩
    · rw [if_neg hc, if_neg hc]
      have hrest := ih (st.step c) (i + 1)
      cases hfind : findUnquotedFrom [35] (st.step c) (i + 1) s with
      | none =>
        rw [hfind] at hrest
        exact congrArg (c :: ·) hrest
      | some j =>
        rw [hfind] at hrest
        obtain ⟨k, hj, hk⟩ := hrest
        exact ⟨k + 1, by omega, by rw [List.take_succ_cons, hk]⟩

theorem stripComment_eq (s : Text) : stripComment s = codeFrom .outside s := by
  have hhash : Text.ofString "#" = [35] := by decide
  have h := findUnquotedFrom_hash .outside 0 s
  rw [stripComment, findUnquoted?, hhash, if_neg (by simp)]
  cases hfind : findUnquotedFrom [35] .outside 0 s with
  | none =>
    rw [hfind] at h
    exact h.symm
  | some j =>
    rw [hfind] at h
    obtain ⟨k, hj, hk⟩ := h
    rw [Nat.zero_add] at hj
    rw [← hk, hj]

/-- Behind a text that shows no `#`, the code goes on. -/
theorem codeFrom_append {st : QuoteState} {s : Text} (h : 35 ∉ outerBytes st s) (t : Text) :
    codeFrom st (s ++ t) = s ++ codeFrom (st.run s) t := by
  induction s generalizing st with
  | nil => rfl
  | cons c s ih =>
    have hrun : st.run (c :: s) = (st.step c).run s := rfl
    rw [outerBytes] at h
    rw [List.cons_append, codeFrom, hrun]
    cases hc : st.outer c with
    | false =>
      rw [hc] at h
      rw [Bool.false_and, if_neg (by simp), ih (by simpa using h), List.cons_append]
    | true =>
      rw [hc, if_pos rfl, List.mem_cons, not_or] at h
      rw [if_neg (by simpa using Ne.symm h.1), ih h.2, List.cons_append]

/-- Behind a text that shows a `#`, nothing belongs to the code. -/
theorem codeFrom_append_of_mem {st : QuoteState} {s : Text} (h : 35 ∈ outerBytes st s) (t : Text) :
    codeFrom st (s ++ t) = codeFrom st s := by
  induction s generalizing st with
  | nil => cases h
  | cons c s ih =>
    rw [outerBytes] at h
    rw [List.cons_append, codeFrom, codeFrom]
    by_cases hc : (st.outer c && c == 35) = true
    · rw [if_pos hc, if_pos hc]
    · rw [if_neg hc, if_neg hc, ih]
      split at h
      · rename_i houter
        refine (List.mem_cons.1 h).resolve_left fun heq => hc ?_
        rw [houter, ← heq]
        rfl
      · exact h

theorem codeFrom_of_not_mem {s : Text} (h : 35 ∉ s) (st : QuoteState) : codeFrom st s = s := by
  induction s generalizing st with
  | nil => rfl
  | cons c s ih =>
    rw [List.mem_cons, not_or] at h
    have hc : (st.outer c && c == 35) = false := by simp [Ne.symm h.1]
    rw [codeFrom, hc, if_neg (by simp), ih h.2]

theorem exists_codeFrom_append (st : QuoteState) (s : Text) : ∃ t, s = codeFrom st s ++ t := by
  induction s generalizing st with
  | nil => exact ⟨[], rfl⟩
  | cons c s ih =>
    obtain ⟨t, ht⟩ := ih (st.step c)
    rw [codeFrom]
    split
    · exact ⟨c :: s, rfl⟩
    · exact ⟨t, by rw [List.cons_append, ← ht]⟩

/-- A line is its code, and its comment if there is one. -/
theorem exists_stripComment_append (s : Text) : ∃ t, s = stripComment s ++ t := by
  rw [stripComment_eq]
  exact exists_codeFrom_append .outside s

/-- The code shows no `#`. -/
theorem not_mem_outerBytes_codeFrom (st : QuoteState) (s : Text) :
    35 ∉ outerBytes st (codeFrom st s) := by
  induction s generalizing st with
  | nil => exact List.not_mem_nil
  | cons c s ih =>
    rw [codeFrom]
    by_cases hc : (st.outer c && c == 35) = true
    · rw [if_pos hc]
      exact List.not_mem_nil
    · rw [if_neg hc, outerBytes]
      split
      · rename_i houter
        rw [List.mem_cons, not_or]
        refine ⟨?_, ih (st.step c)⟩
        rintro rfl
        exact hc (by rw [houter]; rfl)
      · exact ih (st.step c)

/-- There is no second comment before the first. -/
theorem stripComment_stripComment (s : Text) : stripComment (stripComment s) = stripComment s := by
  have h := codeFrom_append (not_mem_outerBytes_codeFrom .outside s) []
  rw [List.append_nil, codeFrom, List.append_nil] at h
  rw [stripComment_eq, stripComment_eq, h]

theorem not_hash_of_not_isSolid {s : Text} (h : ∀ c ∈ s, isSolid c = false) : 35 ∉ s :=
  fun hc => absurd (h 35 hc) (by decide)

theorem isQuote_of_not_isSolid {c : UInt8} (hc : isSolid c = false) : isQuote c = false := by
  rw [Bool.eq_false_iff]
  intro hquote
  rw [isSolid_of_isQuote hquote] at hc
  cases hc

theorem shows_of_not_isSolid {s : Text} (h : ∀ c ∈ s, isSolid c = false) : Shows s s :=
  shows_of_no_quote fun c hc => isQuote_of_not_isSolid (h c hc)

/-- Trimming before the comment is taken off changes nothing. -/
theorem trim_stripComment_trim (s : Text) :
    trim (stripComment (trim s)) = trim (stripComment s) := by
  obtain ⟨w, w', hw, hw', hs⟩ := exists_trim s
  have hshows := shows_of_not_isSolid hw.not_isSolid
  have hfront : 35 ∉ outerBytes .outside w := by
    rw [hshows.seen]
    exact not_hash_of_not_isSolid hw.not_isSolid
  have hcode := codeFrom_append hfront (trim s ++ w')
  rw [hshows.run, ← hs] at hcode
  rw [stripComment_eq, stripComment_eq, hcode, hw.trim_append]
  by_cases hhash : 35 ∈ outerBytes .outside (trim s)
  · rw [codeFrom_append_of_mem hhash]
  · -- Without a comment, both sides are the trimmed text.
    have hself : codeFrom .outside (trim s) = trim s := by
      have h := codeFrom_append hhash []
      rwa [List.append_nil, codeFrom, List.append_nil] at h
    have hend := codeFrom_of_not_mem (not_hash_of_not_isSolid hw'.not_isSolid)
    rw [codeFrom_append hhash, hend, hself, ← hw.trim_append (trim s ++ w'), ← hs]
    exact isTrimmed_trim s

end GodotSurvey.Lexing
