import GodotSurvey.Proofs.Lexing.Header
import GodotSurvey.Proofs.Text.Search

/-!
# Masked text

Masking keeps a text as long as it is and blanks what its literals hold. What is left tells where
literals begin and end: a byte that is neither a space nor a quote is the byte of the text itself and
lies outside literals, and two texts that look alike when masked are read in the same states, but for
the escapes inside literals. So a scanner that only asks for bytes outside literals goes the same way
through both.

* `exists_of_mask`, `getElem?_mask_iff` — what a masked text shows stands in the text, outside
  literals.
* `exists_of_mask_literal` — two equal quotes without a third between them enclose a literal.
* `closeFrom_alike`, `mask_groupContent` — brackets are closed in the same places.
-/

namespace GodotSurvey.Lexing

open Text

/-! ## Masking piece by piece -/

theorem maskFrom_append (st : QuoteState) (s t : Text) :
    maskFrom st (s ++ t) = maskFrom st s ++ maskFrom (st.run s) t := by
  induction s generalizing st with
  | nil => rfl
  | cons c s ih =>
    have hrun : st.run (c :: s) = (st.step c).run s := rfl
    simp only [List.cons_append, maskFrom, ih, hrun]

theorem mask_append {s : Text} (hs : QuoteState.outside.run s = .outside) (t : Text) :
    mask (s ++ t) = mask s ++ mask t := by
  rw [mask, maskFrom_append, hs]
  rfl

theorem mask_of_no_quote {s : Text} (h : ∀ c ∈ s, isQuote c = false) : mask s = s := by
  induction s with
  | nil => rfl
  | cons c s ih =>
    have hs := ih fun d hd => h d (List.mem_cons_of_mem c hd)
    rw [mask] at hs ⊢
    simp [maskFrom, step_outside (h c List.mem_cons_self), QuoteState.isOutside, hs]

theorem maskFrom_escape (s : Text) : ∀ c ∈ maskFrom (.inside 34 false) (escape s), c = 32 := by
  have hspace : ' '.toUInt8 = 32 := rfl
  induction s with
  | nil => simp [escape, maskFrom]
  | cons c s ih =>
    rw [escape_cons]
    split
    · have hpair : maskFrom (.inside 34 false) (92 :: c :: escape s) =
          32 :: 32 :: maskFrom (.inside 34 false) (escape s) := rfl
      rw [hpair]
      simpa using ih
    · rename_i hc
      have hbyte : maskFrom (.inside 34 false) (c :: escape s) =
          32 :: maskFrom (.inside 34 false) (escape s) := by
        rw [maskFrom, step_inside hc]
        rfl
      rw [hbyte]
      simpa using ih

theorem getLast?_maskFrom (st : QuoteState) (s : Text) :
    ∀ d ∈ (maskFrom st s).getLast?, d = 32 ∨ d ∈ s.getLast? := by
  rcases List.eq_nil_or_concat s with rfl | ⟨v, c, rfl⟩
  · simp [maskFrom]
  · intro d hd
    rw [List.concat_eq_append] at *
    rw [maskFrom_append, maskFrom, maskFrom, List.getLast?_concat, Option.mem_some_iff] at hd
    rw [List.getLast?_concat, Option.mem_some_iff]
    split at hd
    · exact .inr hd
    · exact .inl hd.symm

/-- Of a literal, only its quotes are left. -/
theorem exists_mask_literal (s : Text) :
    ∃ blanks : Text, mask (literal s) = 34 :: (blanks ++ [34]) ∧ ∀ c ∈ blanks, c = 32 := by
  have hopen (t : Text) : mask (34 :: t) = 34 :: maskFrom (.inside 34 false) t := rfl
  have hclose : maskFrom (.inside 34 false) [34] = [34] := rfl
  refine ⟨_, ?_, maskFrom_escape s⟩
  rw [literal_eq, hopen, maskFrom_append, run_escape, hclose]

theorem length_maskFrom (st : QuoteState) (s : Text) : (maskFrom st s).length = s.length := by
  induction s generalizing st with
  | nil => rfl
  | cons c s ih => rw [maskFrom, List.length_cons, List.length_cons, ih]

theorem length_mask (s : Text) : (mask s).length = s.length := length_maskFrom .outside s

theorem mask_take (s : Text) (n : Nat) : mask (s.take n) = (mask s).take n := by
  suffices h : ∀ st, maskFrom st (s.take n) = (maskFrom st s).take n from h .outside
  induction s generalizing n with
  | nil =>
    intro st
    rw [List.take_nil, maskFrom, List.take_nil]
  | cons c s ih =>
    intro st
    cases n with
    | zero => rfl
    | succ n => rw [List.take_succ_cons, maskFrom, maskFrom, List.take_succ_cons, ih]

/-! ## What a masked text shows -/

/-- Masking neither makes nor hides such a byte. -/
def IsPlain (c : UInt8) : Prop := c ≠ 32 ∧ isQuote c = false

instance : DecidablePred IsPlain := fun _ => inferInstanceAs (Decidable (_ ∧ _))

theorem isPlain_of_isIdent {c : UInt8} (hc : isIdent c = true) : IsPlain c := by
  refine ⟨?_, isQuote_of_isIdent hc⟩
  rintro rfl
  cases hc

theorem step_of_isPlain {c : UInt8} (hc : IsPlain c) : QuoteState.outside.step c = .outside :=
  step_outside hc.2

/-- A literal is closed by the quote that opened it, and goes on with any other byte. -/
theorem step_inside_cases (q : UInt8) (e : Bool) (c : UInt8) :
    ((QuoteState.inside q e).step c = .outside ∧ c = q) ∨
      ∃ f, (QuoteState.inside q e).step c = .inside q f := by
  cases e with
  | true => exact .inr ⟨false, rfl⟩
  | false =>
    rw [QuoteState.step]
    split
    · exact .inr ⟨true, rfl⟩
    · split
      · rename_i hq
        exact .inl ⟨rfl, by simpa using hq⟩
      · exact .inr ⟨false, rfl⟩

/-- A literal goes on over what does not hold its quote. -/
theorem run_inside_of_not_mem {q : UInt8} {s : Text} (h : q ∉ s) (e : Bool) :
    ∃ f, (QuoteState.inside q e).run s = .inside q f := by
  induction s generalizing e with
  | nil => exact ⟨e, rfl⟩
  | cons c s ih =>
    rw [List.mem_cons, not_or] at h
    rcases step_inside_cases q e c with ⟨-, rfl⟩ | ⟨f, hf⟩
    · exact absurd rfl h.1
    · obtain ⟨g, hg⟩ := ih h.2 f
      exact ⟨g, by rw [← hg, ← hf]; rfl⟩

/-- Only quotes open literals. -/
def IsOpened (st : QuoteState) : Prop := ∀ q e, st = .inside q e → isQuote q = true

theorem isOpened_outside : IsOpened .outside := fun _ _ h => by cases h

theorem isOpened_inside {q : UInt8} (hq : isQuote q = true) (e : Bool) : IsOpened (.inside q e) := by
  intro r f h
  cases h
  exact hq

theorem IsOpened.step {st : QuoteState} (h : IsOpened st) (c : UInt8) : IsOpened (st.step c) := by
  cases st with
  | outside =>
    rw [QuoteState.step]
    split
    · rename_i hc
      exact isOpened_inside hc false
    · exact isOpened_outside
  | inside q e =>
    rcases step_inside_cases q e c with ⟨hnext, -⟩ | ⟨f, hnext⟩
    · exact hnext ▸ isOpened_outside
    · exact hnext ▸ isOpened_inside (h q e rfl) f

theorem IsOpened.run {st : QuoteState} (h : IsOpened st) (s : Text) : IsOpened (st.run s) := by
  induction s generalizing st with
  | nil => exact h
  | cons c s ih => exact ih (h.step c)

/-- The byte of a masked text: outside and where a literal is closed it is the byte itself. -/
theorem maskFrom_cons (st : QuoteState) (c : UInt8) (s : Text) :
    maskFrom st (c :: s) =
      (if st.isOutside || (st.step c).isOutside then c else 32) :: maskFrom (st.step c) s := rfl

/-- Within a literal, the quote that closes it is seen, and a space for every other byte. -/
theorem maskFrom_inside_cases (q : UInt8) (e : Bool) (c : UInt8) (s : Text) :
    ((QuoteState.inside q e).step c = .outside ∧ c = q ∧
      maskFrom (.inside q e) (c :: s) = q :: maskFrom .outside s) ∨
    ∃ f, (QuoteState.inside q e).step c = .inside q f ∧
      maskFrom (.inside q e) (c :: s) = 32 :: maskFrom (.inside q f) s := by
  rw [maskFrom_cons]
  rcases step_inside_cases q e c with ⟨hnext, rfl⟩ | ⟨f, hnext⟩
  · rw [hnext]
    exact .inl ⟨rfl, rfl, rfl⟩
  · rw [hnext]
    exact .inr ⟨f, rfl, rfl⟩

/-- Of a byte outside literals the masked text shows the byte, of any other a space or a quote. -/
theorem maskFrom_cons_cases {st : QuoteState} (hst : IsOpened st) (c : UInt8) (s : Text) :
    (st.outer c = true ∧ maskFrom st (c :: s) = c :: maskFrom (st.step c) s) ∨
      (st.outer c = false ∧ ∃ m, (m = 32 ∨ isQuote m = true) ∧
        maskFrom st (c :: s) = m :: maskFrom (st.step c) s) := by
  cases st with
  | outside =>
    cases hc : isQuote c with
    | false => exact .inl ⟨outer_outside hc, rfl⟩
    | true => exact .inr ⟨by simp [QuoteState.outer, hc], c, .inr hc, rfl⟩
  | inside q e =>
    refine .inr ⟨rfl, ?_⟩
    rcases maskFrom_inside_cases q e c s with ⟨hnext, -, hmask⟩ | ⟨f, hnext, hmask⟩
    · exact ⟨q, .inr (hst q e rfl), by rw [hmask, hnext]⟩
    · exact ⟨32, .inl rfl, by rw [hmask, hnext]⟩

/-- What is not blanked within a literal closes it. -/
theorem outside_of_mask_inside {q c d : UInt8} {e : Bool} {s m : Text}
    (h : maskFrom (.inside q e) (c :: s) = d :: m) (hd : d ≠ 32) :
    d = q ∧ (QuoteState.inside q e).step c = .outside ∧ maskFrom .outside s = m := by
  rcases maskFrom_inside_cases q e c s with ⟨hnext, -, hmask⟩ | ⟨f, -, hmask⟩
  · rw [hmask] at h
    obtain ⟨rfl, rfl⟩ := List.cons.inj h
    exact ⟨rfl, hnext, rfl⟩
  · rw [hmask] at h
    exact absurd (List.cons.inj h).1.symm hd

theorem ne_space_of_isQuote {q : UInt8} (hq : isQuote q = true) : q ≠ 32 := by
  rintro rfl
  cases hq

/-- A plain byte of a masked text is the byte of the text itself, outside literals. -/
theorem outside_of_isPlain {st : QuoteState} (hst : IsOpened st) {c d : UInt8} {s m : Text}
    (h : maskFrom st (c :: s) = d :: m) (hd : IsPlain d) : st = .outside ∧ c = d := by
  cases st with
  | outside => exact ⟨rfl, (List.cons.inj h).1⟩
  | inside q e =>
    obtain ⟨rfl, -, -⟩ := outside_of_mask_inside h hd.1
    have hquote := hst d e rfl
    rw [hd.2] at hquote
    cases hquote

/-- A masked text is cut where the text itself can be cut. -/
theorem exists_of_maskFrom_append {st : QuoteState} {s u v : Text} (h : maskFrom st s = u ++ v) :
    ∃ a b, s = a ++ b ∧ maskFrom st a = u ∧ maskFrom (st.run a) b = v := by
  have hlength : u.length ≤ s.length := by
    rw [← length_maskFrom st s, h, List.length_append]
    exact Nat.le_add_right _ _
  have hsplit := maskFrom_append st (s.take u.length) (s.drop u.length)
  rw [List.take_append_drop, h] at hsplit
  obtain ⟨hu, hv⟩ := List.append_inj hsplit
    (by rw [length_maskFrom, List.length_take, Nat.min_eq_left hlength])
  exact ⟨_, _, (List.take_append_drop u.length s).symm, hu.symm, hv.symm⟩

/-- Plain bytes at the front of a masked text stand at the front of the text itself. -/
theorem exists_of_mask_front {s seg v : Text} (hseg : ∀ c ∈ seg, IsPlain c)
    (h : mask s = seg ++ v) : ∃ t, s = seg ++ t ∧ mask t = v := by
  induction seg generalizing s with
  | nil => exact ⟨s, rfl, h⟩
  | cons d seg ih =>
    have hd := hseg d List.mem_cons_self
    cases s with
    | nil => cases h
    | cons c s =>
      obtain ⟨-, rfl⟩ := outside_of_isPlain isOpened_outside h hd
      rw [mask, List.cons_append, maskFrom_cons, step_of_isPlain hd] at h
      obtain ⟨t, rfl, ht⟩ := ih (fun d hmem => hseg d (List.mem_cons_of_mem c hmem))
        (List.cons.inj h).2
      exact ⟨t, rfl, ht⟩

/-- Plain bytes of a masked text stand in the text itself, outside literals. -/
theorem exists_of_mask {s u seg v : Text} (hseg : ∀ c ∈ seg, IsPlain c) (hne : seg ≠ [])
    (h : mask s = u ++ (seg ++ v)) :
    ∃ a b, s = a ++ (seg ++ b) ∧ mask a = u ∧ QuoteState.outside.run a = .outside ∧ mask b = v := by
  obtain ⟨a, t, rfl, ha, ht⟩ := exists_of_maskFrom_append h
  obtain ⟨d, seg', rfl⟩ := List.exists_cons_of_ne_nil hne
  have hrun : QuoteState.outside.run a = .outside := by
    cases t with
    | nil => cases ht
    | cons c t =>
      exact (outside_of_isPlain (isOpened_outside.run a) ht (hseg d List.mem_cons_self)).1
  rw [hrun] at ht
  obtain ⟨b, rfl, hb⟩ := exists_of_mask_front hseg ht
  exact ⟨a, b, rfl, ha, hrun, hb⟩

/-- A masked text shows a plain byte where the text holds it outside literals. -/
theorem getElem?_mask_iff {s : Text} {c : UInt8} (hc : IsPlain c) {i : Nat} :
    (mask s)[i]? = some c ↔ s[i]? = some c ∧ QuoteState.outside.run (s.take i) = .outside := by
  constructor
  · intro h
    obtain ⟨u, v, hmask, rfl⟩ := exists_of_getElem? h
    have hseg : ∀ d ∈ ([c] : Text), IsPlain d := fun d hd => List.mem_singleton.1 hd ▸ hc
    obtain ⟨a, b, rfl, rfl, hrun, -⟩ := exists_of_mask hseg (List.cons_ne_nil _ _) hmask
    rw [length_mask, List.take_left]
    exact ⟨by simp, hrun⟩
  · rintro ⟨h, hrun⟩
    obtain ⟨a, b, rfl, rfl⟩ := exists_of_getElem? h
    rw [List.take_left] at hrun
    have hhead : mask (c :: b) = c :: maskFrom (QuoteState.outside.step c) b := rfl
    rw [mask_append hrun, ← length_mask a, hhead]
    simp

/-! ## Literals in a masked text -/

/-- The quote of a literal that is open behind a text is seen in it, or the literal was open
before. -/
theorem mem_mask_of_run {st : QuoteState} {s : Text} {q : UInt8} {e : Bool}
    (h : st.run s = .inside q e) : (∃ f, st = .inside q f) ∨ q ∈ maskFrom st s := by
  induction s generalizing st with
  | nil => exact .inl ⟨e, h⟩
  | cons c s ih =>
    have hlater : (st.step c).run s = .inside q e := h
    rw [maskFrom_cons]
    rcases ih hlater with ⟨f, hf⟩ | hmem
    · cases st with
      | outside =>
        rw [QuoteState.step] at hf
        split at hf
        · cases hf
          exact .inr List.mem_cons_self
        · cases hf
      | inside r g =>
        rcases step_inside_cases r g c with ⟨hnext, -⟩ | ⟨g', hnext⟩
        · rw [hnext] at hf
          cases hf
        · rw [hnext] at hf
          cases hf
          exact .inl ⟨g, rfl⟩
    · exact .inr (List.mem_cons_of_mem _ hmem)

/-- Where no literal is open behind a quote, the next equal quote before it opens the literal that
it closes. -/
theorem exists_of_mask_literal {s u w : Text} {q : UInt8} (hq : isQuote q = true) (hw : q ∉ w)
    (h : mask s = u ++ (q :: (w ++ [q]))) (hrun : QuoteState.outside.run s = .outside) :
    ∃ a b, s = a ++ b ∧ mask a = u ∧ QuoteState.outside.run a = .outside ∧
      b.length = w.length + 2 := by
  have hspace := ne_space_of_isQuote hq
  obtain ⟨a, b, rfl, ha, hb⟩ := exists_of_maskFrom_append h
  have hlength : b.length = w.length + 2 := by
    have hcount := congrArg List.length hb
    rw [length_maskFrom] at hcount
    simpa using hcount
  refine ⟨a, b, rfl, ha, ?_, hlength⟩
  cases hst : QuoteState.outside.run a with
  | outside => rfl
  | inside r e =>
    -- The first quote would close a literal, so the last one would open one.
    exfalso
    cases b with
    | nil => cases hb
    | cons c b =>
      rw [hst] at hb
      obtain ⟨-, hnext, htail⟩ := outside_of_mask_inside hb hspace
      obtain ⟨v, t, rfl, hv, ht⟩ := exists_of_maskFrom_append htail
      have hlast : (QuoteState.outside.run v).run t = .outside := by
        rw [run_append, hst] at hrun
        change ((QuoteState.inside r e).step c).run (v ++ t) = .outside at hrun
        rwa [hnext, run_append] at hrun
      cases t with
      | nil => cases ht
      | cons d t =>
        have htail : t = [] := by
          have hcount := congrArg List.length ht
          rw [length_maskFrom] at hcount
          simpa using hcount
        subst htail
        cases hopen : QuoteState.outside.run v with
        | outside =>
          rw [hopen] at ht hlast
          obtain rfl : d = q := (List.cons.inj ht).1
          have hopens : QuoteState.outside.run [d] = .inside d false := by
            show QuoteState.outside.step d = _
            rw [QuoteState.step, if_pos hq]
          rw [hopens] at hlast
          cases hlast
        | inside r' e' =>
          rw [hopen] at ht
          obtain ⟨rfl, -, -⟩ := outside_of_mask_inside ht hspace
          rcases mem_mask_of_run hopen with ⟨f, hf⟩ | hmem
          · cases hf
          · exact hw (hv ▸ hmem)

/-! ## Texts that look alike -/

/-- Two readers are both outside, or in literals of the same quote. -/
inductive Alike : QuoteState → QuoteState → Prop
  | outside : Alike .outside .outside
  | inside {q : UInt8} (hq : isQuote q = true) (e f : Bool) : Alike (.inside q e) (.inside q f)

theorem Alike.outer {st st' : QuoteState} (h : Alike st st') {c d : UInt8} {s t : Text}
    (hmask : maskFrom st (c :: s) = maskFrom st' (d :: t)) :
    st.outer c = st'.outer d ∧ (st.outer c = true → c = d) := by
  cases h with
  | outside =>
    obtain rfl : c = d := (List.cons.inj hmask).1
    exact ⟨rfl, fun _ => rfl⟩
  | inside hq e f => exact ⟨rfl, fun h => by cases h⟩

theorem Alike.step {st st' : QuoteState} (h : Alike st st') {c d : UInt8} {s t : Text}
    (hmask : maskFrom st (c :: s) = maskFrom st' (d :: t)) : Alike (st.step c) (st'.step d) := by
  cases h with
  | outside =>
    obtain rfl : c = d := (List.cons.inj hmask).1
    rw [QuoteState.step]
    split
    · rename_i hc
      exact .inside hc false false
    · exact .outside
  | @inside q hq e f =>
    have hspace := ne_space_of_isQuote hq
    -- One literal is closed where the other is, since only there the quote is seen.
    rcases maskFrom_inside_cases q e c s with ⟨hc, -, hs⟩ | ⟨e', hc, hs⟩ <;>
      rcases maskFrom_inside_cases q f d t with ⟨hd, -, ht⟩ | ⟨f', hd, ht⟩ <;>
      rw [hs, ht] at hmask
    · rw [hc, hd]
      exact .outside
    · exact absurd (List.cons.inj hmask).1 hspace
    · exact absurd (List.cons.inj hmask).1.symm hspace
    · rw [hc, hd]
      exact .inside hq e' f'

/-- Brackets are closed in the same places of texts that look alike. -/
theorem closeFrom_alike {st st' : QuoteState} (h : Alike st st') {s t : Text}
    (hmask : maskFrom st s = maskFrom st' t) (opener closer : UInt8) (depth i : Nat) :
    closeFrom opener closer st depth i s = closeFrom opener closer st' depth i t := by
  induction s generalizing st st' t depth i with
  | nil =>
    cases t with
    | nil => rfl
    | cons d t => cases hmask
  | cons c s ih =>
    cases t with
    | nil => cases hmask
    | cons d t =>
      have hnext := ih (h.step hmask) (List.cons.inj hmask).2
      obtain ⟨houter, hbyte⟩ := h.outer hmask
      rw [closeFrom, closeFrom, ← houter]
      cases hc : st.outer c with
      | false => exact hnext depth (i + 1)
      | true =>
        obtain rfl := hbyte hc
        simp only [hnext]

/-! ## Groups in parentheses -/

/-- What stands in a group whose opening parenthesis is read: the bytes before the parenthesis that
closes it, or all if none does. -/
def groupContent (s : Text) : Text :=
  match closeFrom 40 41 .outside 1 0 s with
  | some n => s.take n
  | none => s

theorem closeFrom_add (opener closer : UInt8) (st : QuoteState) (depth i k : Nat) (s : Text) :
    closeFrom opener closer st depth (i + k) s =
      (closeFrom opener closer st depth i s).map (· + k) := by
  induction s generalizing st depth i with
  | nil => rfl
  | cons c s ih =>
    rw [closeFrom, closeFrom, Nat.add_right_comm i k 1]
    simp only [ih]
    split
    · rfl
    · split
      · rfl
      · split
        · split <;> rfl
        · rfl

theorem inner_paren (u t : Text) : (inner (u ++ 40 :: t) u.length).1 = groupContent t := by
  have hopen : closeOfFirst? (40 :: t) = closeFrom 40 41 .outside 1 (0 + 1) t := rfl
  have hmatch : matchingClose? (u ++ 40 :: t) u.length =
      (closeFrom 40 41 .outside 1 0 t).map (u.length + 1 + ·) := by
    rw [matchingClose?, List.drop_left, hopen, closeFrom_add, Option.map_map]
    congr 1
    funext n
    show u.length + (n + 1) = u.length + 1 + n
    omega
  have hdrop : (u ++ 40 :: t).drop (u.length + 1) = t := by
    rw [List.drop_length_add_append, List.drop_succ_cons, List.drop_zero]
  rw [inner, hmatch, groupContent]
  cases closeFrom 40 41 .outside 1 0 t with
  | none => exact hdrop
  | some n =>
    show slice (u ++ 40 :: t) (u.length + 1) (u.length + 1 + n) = t.take n
    rw [slice, hdrop, Nat.add_sub_cancel_left]

/-- A group ends behind its opening bracket and within the text. -/
theorem inner_bounds {s : Text} {i j : Nat} (h : (inner s i).2 = some j) : i < j ∧ j < s.length := by
  have hclose : matchingClose? s i = some j := by
    rw [inner] at h
    cases hmatch : matchingClose? s i with
    | none =>
      rw [hmatch] at h
      cases h
    | some k =>
      rw [hmatch] at h
      exact h
  obtain ⟨n, hn, rfl⟩ := Option.map_eq_some_iff.1 hclose
  cases hdrop : s.drop i with
  | nil =>
    rw [hdrop] at hn
    cases hn
  | cons c rest =>
    rw [hdrop] at hn
    obtain ⟨d, hd, hn⟩ := Option.bind_eq_some_iff.1 hn
    obtain ⟨u, t, hsplit, rfl, -⟩ := exists_of_closeFrom hn
    have hne : c ≠ d := by
      rcases closer?_cases hd with ⟨rfl, rfl⟩ | ⟨rfl, rfl⟩ | ⟨rfl, rfl⟩ <;> decide
    have hu : u ≠ [] := by
      rintro rfl
      exact hne (List.cons.inj hsplit).1
    have hpos := List.length_pos_iff.2 hu
    have hlength := congrArg List.length (hdrop.trans hsplit)
    rw [List.length_drop, List.length_append, List.length_cons] at hlength
    omega

/-- A group ends at a closing parenthesis, or at the end of the text. -/
theorem exists_groupContent (s : Text) :
    ∃ rest, s = groupContent s ++ rest ∧ ∀ c ∈ rest.head?, c = 41 := by
  rw [groupContent]
  cases hclose : closeFrom 40 41 .outside 1 0 s with
  | none => exact ⟨[], (List.append_nil s).symm, fun c hc => by cases hc⟩
  | some n =>
    obtain ⟨u, t, rfl, rfl, -⟩ := exists_of_closeFrom hclose
    refine ⟨41 :: t, ?_, fun c hc => (Option.some.inj hc).symm⟩
    show u ++ 41 :: t = (u ++ 41 :: t).take (0 + u.length) ++ 41 :: t
    rw [Nat.zero_add, List.take_left]

/-- Groups in texts that look alike look alike. -/
theorem mask_groupContent {s t : Text} (h : mask s = mask t) :
    mask (groupContent s) = mask (groupContent t) := by
  have hclose := closeFrom_alike .outside h 40 41 1 0
  rw [groupContent, groupContent, hclose]
  cases closeFrom 40 41 .outside 1 0 t with
  | none => exact h
  | some n => rw [mask_take, mask_take, h]

end GodotSurvey.Lexing
