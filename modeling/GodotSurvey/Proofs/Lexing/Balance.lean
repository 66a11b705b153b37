import GodotSurvey.Proofs.Lexing.Comment

/-!
# Balanced brackets

A text is balanced in one kind of brackets if, outside its literals, every bracket that is opened is
closed and none is closed that was not opened. A scanner that looks for a closing bracket passes
over balanced text without seeing anything of it, so a balanced text between brackets is what is
read between them.

* `depthFrom_eq_some_iff` — what is open behind a text, counted.
* `closeFrom_depth`, `exists_balanced_of_closeFrom` — what the scanner has open behind a text, told
  from its visible brackets, and what precedes the bracket that it finds.
* `inner_group` — **a group is read as it was written.**
-/

namespace GodotSurvey.Lexing

open Text

/-! ## Code -/

/-- A piece of a line of code: it closes the literals it opens, and no comment begins in it. -/
structure IsCode (s : Text) : Prop where
  run : QuoteState.outside.run s = .outside
  noHash : 35 ∉ outerBytes .outside s

instance (s : Text) : Decidable (IsCode s) :=
  decidable_of_iff (QuoteState.outside.run s = .outside ∧ 35 ∉ outerBytes .outside s)
    ⟨fun ⟨h₁, h₂⟩ => ⟨h₁, h₂⟩, fun ⟨h₁, h₂⟩ => ⟨h₁, h₂⟩⟩

theorem isCode_nil : IsCode [] := ⟨rfl, List.not_mem_nil⟩

theorem isCode_of_forall {s : Text} (h : ∀ c ∈ s, isQuote c = false ∧ c ≠ 35) : IsCode s := by
  have hshows := shows_of_no_quote fun c hc => (h c hc).1
  refine ⟨hshows.run, fun hc => ?_⟩
  rw [hshows.seen] at hc
  exact (h 35 hc).2 rfl

theorem IsCode.append {s t : Text} (hs : IsCode s) (ht : IsCode t) : IsCode (s ++ t) := by
  constructor
  · rw [run_append, hs.run, ht.run]
  · rw [outerBytes_append, hs.run, List.mem_append, not_or]
    exact ⟨hs.noHash, ht.noHash⟩

theorem isCode_of_white {w : Text} (hw : White w) : IsCode w := by
  have hshows := shows_of_not_isSolid hw.not_isSolid
  refine ⟨hshows.run, ?_⟩
  rw [hshows.seen]
  exact not_hash_of_not_isSolid hw.not_isSolid

theorem isCode_literal (s : Text) : IsCode (literal s) :=
  ⟨(shows_literal s).run, by rw [(shows_literal s).seen]; exact List.not_mem_nil⟩

/-- Behind code, a comment is looked for in the rest of the line. -/
theorem IsCode.stripComment_front {s : Text} (hs : IsCode s) (t : Text) :
    stripComment (s ++ t) = s ++ Lexing.stripComment t := by
  rw [stripComment_eq, stripComment_eq, codeFrom_append hs.noHash, hs.run]

/-- Nothing is stripped from a line of code. -/
theorem IsCode.stripComment_append {s : Text} (hs : IsCode s) {t : Text}
    (ht : 35 ∉ outerBytes .outside t) : stripComment (s ++ t) = s ++ t := by
  have hself := codeFrom_append ht []
  rw [List.append_nil, codeFrom, List.append_nil] at hself
  rw [hs.stripComment_front, stripComment_eq, hself]

theorem IsCode.stripComment {s : Text} (hs : IsCode s) : stripComment s = s := by
  have h := hs.stripComment_append (t := []) List.not_mem_nil
  rwa [List.append_nil] at h

theorem IsCode.onlyIf {s : Text} (hs : IsCode s) (b : Bool) : IsCode (Text.onlyIf b s) := by
  cases b with
  | false => exact isCode_nil
  | true => exact hs

/-! ## Depth -/

variable {opener closer : UInt8}

/-- The number of brackets open behind a text, where `n` are open before it; `none` if a bracket is
closed that was not opened. -/
def depthFrom (opener closer : UInt8) : (n : Nat) → Text → Option Nat
  | n, [] => some n
  | n, c :: rest =>
    if c == opener then depthFrom opener closer (n + 1) rest
    else if c == closer then
      if n = 0 then none else depthFrom opener closer (n - 1) rest
    else depthFrom opener closer n rest

/-- Every bracket outside literals has its partner. -/
def IsBalanced (opener closer : UInt8) (s : Text) : Prop :=
  depthFrom opener closer 0 (outerBytes .outside s) = some 0

instance (s : Text) : Decidable (IsBalanced opener closer s) :=
  inferInstanceAs (Decidable (_ = _))

theorem depthFrom_append {n m : Nat} {s : Text} (h : depthFrom opener closer n s = some m)
    (t : Text) : depthFrom opener closer n (s ++ t) = depthFrom opener closer m t := by
  induction s generalizing n with
  | nil =>
    obtain rfl := Option.some.inj h
    rfl
  | cons c s ih =>
    rw [depthFrom] at h
    rw [List.cons_append, depthFrom]
    by_cases ho : (c == opener) = true
    · rw [if_pos ho] at h ⊢
      exact ih h
    · by_cases hc : (c == closer) = true
      · rw [if_neg ho, if_pos hc] at h ⊢
        by_cases hn : n = 0
        · rw [if_pos hn] at h
          cases h
        · rw [if_neg hn] at h ⊢
          exact ih h
      · rw [if_neg ho, if_neg hc] at h ⊢
        exact ih h

/-- Depth is the excess of brackets that are opened, as long as no beginning has more that are
closed. -/
theorem depthFrom_eq_some_iff (hne : opener ≠ closer) {n m : Nat} {s : Text} :
    depthFrom opener closer n s = some m ↔
      (∀ t, t <+: s → t.count closer ≤ n + t.count opener) ∧
        n + s.count opener = m + s.count closer := by
  induction s generalizing n with
  | nil => simp [depthFrom, eq_comm]
  | cons c s ih =>
    -- A beginning of the text is empty, or the first byte and a beginning of the rest.
    have hsplit (P : Text → Prop) :
        (∀ t, t <+: c :: s → P t) ↔ P [] ∧ ∀ t, t <+: s → P (c :: t) := by
      constructor
      · exact fun h => ⟨h [] List.nil_prefix, fun t ht => h _ (List.cons_prefix_cons.2 ⟨rfl, ht⟩)⟩
      · rintro ⟨hnil, hcons⟩ t ht
        obtain rfl | ⟨u, rfl, hu⟩ := List.prefix_cons_iff.1 ht
        · exact hnil
        · exact hcons u hu
    rw [hsplit, depthFrom]
    by_cases ho : c = opener
    · subst ho
      simp only [beq_self_eq_true, if_true, ih, List.count_cons_self, List.count_nil,
        List.count_cons_of_ne hne]
      grind
    · by_cases hc : c = closer
      · subst hc
        simp only [beq_iff_eq, ho, if_false, if_true, List.count_cons_self, List.count_nil,
          List.count_cons_of_ne ho]
        cases n with
        | zero =>
          rw [if_pos rfl]
          constructor
          · rintro ⟨⟩
          · rintro ⟨⟨-, h⟩, -⟩
            exact absurd (h [] List.nil_prefix) (by simp)
        | succ n =>
          rw [if_neg (Nat.succ_ne_zero n), Nat.add_sub_cancel, ih]
          grind
      · simp only [beq_iff_eq, ho, hc, if_false, ih, List.count_nil, List.count_cons_of_ne ho,
          List.count_cons_of_ne hc]
        grind

theorem IsBalanced.append {s t : Text} (hs : IsBalanced opener closer s)
    (hrun : QuoteState.outside.run s = .outside) (ht : IsBalanced opener closer t) :
    IsBalanced opener closer (s ++ t) := by
  rw [IsBalanced, outerBytes_append, hrun, depthFrom_append hs]
  exact ht

theorem depthFrom_of_not_mem {s : Text} (ho : opener ∉ s) (hc : closer ∉ s) (n : Nat) :
    depthFrom opener closer n s = some n := by
  induction s with
  | nil => rfl
  | cons c s ih =>
    rw [List.mem_cons, not_or] at ho hc
    rw [depthFrom, if_neg (by simpa using Ne.symm ho.1), if_neg (by simpa using Ne.symm hc.1)]
    exact ih ho.2 hc.2

theorem isBalanced_of_not_mem {s : Text} (ho : opener ∉ outerBytes .outside s)
    (hc : closer ∉ outerBytes .outside s) : IsBalanced opener closer s :=
  depthFrom_of_not_mem ho hc 0

/-! ## Groups -/

/-- Behind a text that closes only what it opens, the search goes on with what is open there. -/
theorem closeFrom_depth {st : QuoteState} {n m : Nat} {s : Text}
    (h : depthFrom opener closer n (outerBytes st s) = some m) (i : Nat) (rest : Text) :
    closeFrom opener closer st (n + 1) i (s ++ rest) =
      closeFrom opener closer (st.run s) (m + 1) (i + s.length) rest := by
  induction s generalizing st n i with
  | nil =>
    obtain rfl := Option.some.inj h
    rfl
  | cons c s ih =>
    have hlen : i + (c :: s).length = i + 1 + s.length := by
      rw [List.length_cons]
      omega
    have hrun : st.run (c :: s) = (st.step c).run s := rfl
    rw [List.cons_append, closeFrom, hlen, hrun]
    rw [outerBytes] at h
    cases hv : st.outer c with
    | false =>
      rw [hv] at h
      simpa using ih h (i + 1)
    | true =>
      rw [hv, if_pos rfl, depthFrom] at h
      by_cases ho : (c == opener) = true
      · rw [if_pos ho] at h
        simpa [ho] using ih h (i + 1)
      · by_cases hc : (c == closer) = true
        · rw [if_neg ho, if_pos hc] at h
          cases n with
          | zero => cases h
          | succ n => simpa [ho, hc] using ih h (i + 1)
        · rw [if_neg ho, if_neg hc] at h
          simpa [ho, hc] using ih h (i + 1)

/-- The bracket that is found stands there, outside literals. -/
theorem exists_of_closeFrom {st : QuoteState} {depth i j : Nat} {s : Text}
    (h : closeFrom opener closer st depth i s = some j) :
    ∃ u t, s = u ++ closer :: t ∧ j = i + u.length ∧ st.run (u ++ [closer]) = .outside := by
  induction s generalizing st depth i with
  | nil => cases h
  | cons c s ih =>
    have hlater {depth : Nat} (h : closeFrom opener closer (st.step c) depth (i + 1) s = some j) :
        ∃ u t, c :: s = u ++ closer :: t ∧ j = i + u.length ∧
          st.run (u ++ [closer]) = .outside := by
      obtain ⟨u, t, rfl, rfl, hrun⟩ := ih h
      exact ⟨c :: u, t, rfl, by rw [List.length_cons]; omega, hrun⟩
    rw [closeFrom] at h
    split at h
    · exact hlater h
    · rename_i houter
      rw [Bool.not_eq_true', Bool.not_eq_false] at houter
      obtain rfl := eq_outside_of_outer houter
      split at h
      · exact hlater h
      · split at h
        · rename_i hcloser
          rw [beq_iff_eq] at hcloser
          split at h
          · have hquote : isQuote c = false := by
              simpa [QuoteState.outer, QuoteState.isOutside] using houter
            refine ⟨[], s, by rw [hcloser]; rfl, by simpa using h.symm, ?_⟩
            rw [← hcloser]
            exact step_outside hquote
          · exact hlater h
        · exact hlater h

/-- What precedes the bracket that is found closes its literals and all that is open. -/
theorem exists_balanced_of_closeFrom {st : QuoteState} {n i j : Nat} {s : Text}
    (h : closeFrom opener closer st (n + 1) i s = some j) :
    ∃ u t, s = u ++ closer :: t ∧ j = i + u.length ∧ st.run u = .outside ∧
      depthFrom opener closer n (outerBytes st u) = some 0 := by
  induction s generalizing st n i with
  | nil => cases h
  | cons c s ih =>
    have hlater {m : Nat} (h : closeFrom opener closer (st.step c) (m + 1) (i + 1) s = some j)
        (hdepth : ∀ u, depthFrom opener closer n (outerBytes st (c :: u)) =
          depthFrom opener closer m (outerBytes (st.step c) u)) :
        ∃ u t, c :: s = u ++ closer :: t ∧ j = i + u.length ∧ st.run u = .outside ∧
          depthFrom opener closer n (outerBytes st u) = some 0 := by
      obtain ⟨u, t, rfl, rfl, hrun, hu⟩ := ih h
      exact ⟨c :: u, t, rfl, by rw [List.length_cons]; omega, hrun, (hdepth u).trans hu⟩
    rw [closeFrom] at h
    cases hv : st.outer c with
    | false =>
      rw [hv] at h
      exact hlater h fun u => by rw [outerBytes, hv, if_neg Bool.false_ne_true]
    | true =>
      have hseen (u : Text) : outerBytes st (c :: u) = c :: outerBytes (st.step c) u := by
        rw [outerBytes, hv, if_pos rfl]
      rw [hv, if_neg (by decide)] at h
      by_cases ho : (c == opener) = true
      · rw [if_pos ho] at h
        exact hlater h fun u => by rw [hseen, depthFrom, if_pos ho]
      · by_cases hc : (c == closer) = true
        · rw [if_neg ho, if_pos hc] at h
          cases n with
          | zero =>
            obtain rfl := eq_outside_of_outer hv
            exact ⟨[], s, by rw [beq_iff_eq.1 hc]; rfl, (Option.some.inj h).symm, rfl, rfl⟩
          | succ n =>
            rw [if_neg (by omega)] at h
            exact hlater h fun u => by
              rw [hseen, depthFrom, if_neg ho, if_pos hc, if_neg (Nat.succ_ne_zero n)]
              rfl
        · rw [if_neg ho, if_neg hc] at h
          exact hlater h fun u => by rw [hseen, depthFrom, if_neg ho, if_neg hc]

theorem closer?_cases (h : closer? opener = some closer) :
    (opener = 40 ∧ closer = 41) ∨ (opener = 91 ∧ closer = 93) ∨ (opener = 123 ∧ closer = 125) := by
  have hparen : '('.toUInt8 = 40 ∧ ')'.toUInt8 = 41 := ⟨rfl, rfl⟩
  have hsquare : '['.toUInt8 = 91 ∧ ']'.toUInt8 = 93 := ⟨rfl, rfl⟩
  have hbrace : '{'.toUInt8 = 123 ∧ '}'.toUInt8 = 125 := ⟨rfl, rfl⟩
  unfold closer? at h
  grind

/-- A group ends with the bracket behind its balanced content. -/
theorem closeOfFirst?_group (hbrackets : closer? opener = some closer) {s : Text}
    (hrun : QuoteState.outside.run s = .outside) (hs : IsBalanced opener closer s) (rest : Text) :
    closeOfFirst? (opener :: (s ++ closer :: rest)) = some (s.length + 1) := by
  have hopen (t : Text) : closeFrom opener closer .outside 0 0 (opener :: t) =
      closeFrom opener closer .outside 1 1 t := by
    rcases closer?_cases hbrackets with ⟨rfl, rfl⟩ | ⟨rfl, rfl⟩ | ⟨rfl, rfl⟩ <;> rfl
  have hclose (i : Nat) : closeFrom opener closer .outside 1 i (closer :: rest) = some i := by
    rcases closer?_cases hbrackets with ⟨rfl, rfl⟩ | ⟨rfl, rfl⟩ | ⟨rfl, rfl⟩ <;> rfl
  rw [closeOfFirst?, hbrackets, Option.bind_some, hopen, closeFrom_depth hs, hrun, hclose,
    Nat.add_comm]

/-- A group is read as it was written. -/
theorem inner_group (hbrackets : closer? opener = some closer) {s : Text}
    (hrun : QuoteState.outside.run s = .outside) (hs : IsBalanced opener closer s)
    (before rest : Text) :
    inner (before ++ opener :: (s ++ closer :: rest)) before.length =
      (s, some (before.length + (s.length + 1))) := by
  have hmatch : matchingClose? (before ++ opener :: (s ++ closer :: rest)) before.length =
      some (before.length + (s.length + 1)) := by
    rw [matchingClose?, List.drop_left, closeOfFirst?_group hbrackets hrun hs, Option.map_some]
  have hslice : slice (before ++ opener :: (s ++ closer :: rest)) (before.length + 1)
      (before.length + (s.length + 1)) = s := by
    have hlength : before.length + (s.length + 1) - (before.length + 1) = s.length := by omega
    rw [slice, hlength, List.drop_length_add_append, List.drop_succ_cons, List.drop_zero,
      List.take_left]
  simp only [inner, hmatch, hslice]

end GodotSurvey.Lexing
