import GodotSurvey.Proofs.Lexing.Mask
import GodotSurvey.Proofs.Lexing.Operator
import Mathlib.Data.Nat.Find
import Mathlib.Order.Bounds.Basic

/-!
# Where literals begin and end

What string literals are, said without a reader that goes from byte to byte. A literal holds bytes
that are neither its quote nor a backslash, and pairs of a backslash and any byte; a text is code and
literals, one after the other, and only its last literal may lack the quote that closes it. This
gives every byte of a text one place: in code, or in a literal as the quote that opens it, as the one
that closes it, or between them.

Masking keeps the places. A masked text looks like itself when it is masked again, so it and the text
it was made of look alike; and of texts that look alike, the readers are in literals of the same
quote at the same time, although one of them meets backslashes and quotes where the other one meets
spaces. So whatever is looked for outside literals is found in the same places of a text and of what
masking leaves of it, also by a reader that starts in the middle, as long as it starts in code.

* `hasPlaces_iff` — **every text is divided in exactly one way, and the reader finds it.**
* `isCodeAt_append` — a byte lies in code if no literal is open before it and it opens none.
* `scan_eq_some_iff`, `findUnquoted?_eq_some_iff` — what a scanner finds is the least index of its
  kind.
* `mask_mask`, `places_eq_of_mask_eq` — a masked text looks like itself, and texts that look alike
  have the same literals.
* `mask_faithful` — **masking blanks what literals hold, and nothing that scanners see.**
-/

namespace GodotSurvey.Lexing

open Text

/-! ## Places -/

/-- Where a byte stands with respect to the literals of its text. -/
inductive Place where
  | code
  | opening
  | content
  | closing
  deriving DecidableEq, Repr

/-- What a literal may hold: an escaped byte with the backslash before it, or any other byte but the
quote that closes the literal. -/
inductive IsContent (q : UInt8) : Text → Prop
  | nil : IsContent q []
  | byte {c : UInt8} {s : Text} (hescape : c ≠ '\\') (hquote : c ≠ q) (h : IsContent q s) :
      IsContent q (c :: s)
  | escaped (c : UInt8) {s : Text} (h : IsContent q s) : IsContent q ('\\' :: c :: s)

/-- The text divides into code and literals so that its bytes have these places. A literal that is
not closed runs to the end of the text, where a backslash may lack the byte that it escapes. -/
inductive HasPlaces : Text → List Place → Prop
  | nil : HasPlaces [] []
  | code {c : UInt8} {s : Text} {ps : List Place} (hc : isQuote c = false) (h : HasPlaces s ps) :
      HasPlaces (c :: s) (.code :: ps)
  | literal {q : UInt8} {u s : Text} {ps : List Place} (hq : isQuote q = true)
      (hu : IsContent q u) (h : HasPlaces s ps) :
      HasPlaces (q :: (u ++ q :: s))
        (.opening :: (List.replicate u.length .content ++ .closing :: ps))
  | unclosed {q : UInt8} {u w : Text} (hq : isQuote q = true) (hu : IsContent q u)
      (hw : w = [] ∨ w = [('\\' : UInt8)]) :
      HasPlaces (q :: (u ++ w)) (.opening :: List.replicate (u ++ w).length .content)

/-- The byte at that index lies outside all literals. -/
def IsCodeAt (s : Text) (i : Nat) : Prop := ∃ ps, HasPlaces s ps ∧ ps[i]? = some .code

/-! ## Every text is divided -/

/-- Behind an opening quote there is a quote that closes the literal, or the literal goes on to the
end. -/
theorem exists_content (q : UInt8) (s : Text) :
    (∃ u t, s = u ++ q :: t ∧ IsContent q u) ∨
      ∃ u w, s = u ++ w ∧ IsContent q u ∧ (w = [] ∨ w = [('\\' : UInt8)]) := by
  match s with
  | [] => exact .inr ⟨[], [], rfl, .nil, .inl rfl⟩
  | c :: s =>
    by_cases hquote : c = q
    · exact .inl ⟨[], s, by rw [hquote]; rfl, .nil⟩
    · by_cases hescape : c = '\\'
      · -- A backslash takes the next byte with it, if there is one.
        match s with
        | [] => exact .inr ⟨[], [c], rfl, .nil, .inr (by rw [hescape])⟩
        | d :: s =>
          rw [hescape]
          rcases exists_content q s with ⟨u, t, rfl, hu⟩ | ⟨u, w, rfl, hu, hw⟩
          · exact .inl ⟨_, t, rfl, hu.escaped d⟩
          · exact .inr ⟨_, w, rfl, hu.escaped d, hw⟩
      · rcases exists_content q s with ⟨u, t, rfl, hu⟩ | ⟨u, w, rfl, hu, hw⟩
        · exact .inl ⟨_, t, rfl, hu.byte hescape hquote⟩
        · exact .inr ⟨_, w, rfl, hu.byte hescape hquote, hw⟩

theorem exists_hasPlaces (s : Text) : ∃ ps, HasPlaces s ps := by
  match s with
  | [] => exact ⟨[], .nil⟩
  | c :: s =>
    cases hc : isQuote c with
    | false =>
      obtain ⟨ps, hps⟩ := exists_hasPlaces s
      exact ⟨_, hps.code hc⟩
    | true =>
      rcases exists_content c s with ⟨u, t, hs, hu⟩ | ⟨u, w, rfl, hu, hw⟩
      · obtain ⟨ps, hps⟩ := exists_hasPlaces t
        rw [hs]
        exact ⟨_, .literal hc hu hps⟩
      · exact ⟨_, .unclosed hc hu hw⟩
termination_by s.length
decreasing_by
  · simp
  · simp [hs]; omega

/-! ## The reader finds the places -/

/-- The place of a byte that is read in this state. -/
def QuoteState.place (st : QuoteState) (c : UInt8) : Place :=
  if st.isOutside then if isQuote c then .opening else .code
  else if (st.step c).isOutside then .closing else .content

def placesFrom (st : QuoteState) : Text → List Place
  | [] => []
  | c :: rest => st.place c :: placesFrom (st.step c) rest

/-- The places of the bytes of a line, as they are read. -/
def places (s : Text) : List Place := placesFrom .outside s

theorem placesFrom_append (st : QuoteState) (s t : Text) :
    placesFrom st (s ++ t) = placesFrom st s ++ placesFrom (st.run s) t := by
  induction s generalizing st with
  | nil => rfl
  | cons c s ih =>
    have hrun : st.run (c :: s) = (st.step c).run s := rfl
    rw [List.cons_append, placesFrom, placesFrom, ih, hrun, List.cons_append]

theorem length_placesFrom (st : QuoteState) (s : Text) : (placesFrom st s).length = s.length := by
  induction s generalizing st with
  | nil => rfl
  | cons c s ih => rw [placesFrom, List.length_cons, List.length_cons, ih]

theorem ne_escape_of_isQuote {q : UInt8} (hq : isQuote q = true) : q ≠ '\\' := by
  rintro rfl
  cases hq

/-- What a literal holds is read within it. -/
theorem IsContent.read {q : UInt8} {u : Text} (hu : IsContent q u) :
    (QuoteState.inside q false).run u = .inside q false ∧
      placesFrom (.inside q false) u = List.replicate u.length .content := by
  induction hu with
  | nil => exact ⟨rfl, rfl⟩
  | @byte c s hescape hquote _ ih =>
    have hstep : (QuoteState.inside q false).step c = .inside q false := by
      simp [QuoteState.step, hescape, hquote]
    have hrun : (QuoteState.inside q false).run (c :: s) =
        ((QuoteState.inside q false).step c).run s := rfl
    have hplace : (QuoteState.inside q false).place c = .content := by
      rw [QuoteState.place, hstep]
      rfl
    rw [hrun, placesFrom, hplace, hstep, ih.1, ih.2]
    exact ⟨rfl, rfl⟩
  | @escaped c s _ ih =>
    have hrun : (QuoteState.inside q false).run ('\\' :: c :: s) =
        (QuoteState.inside q false).run s := rfl
    have hplaces : placesFrom (.inside q false) ('\\' :: c :: s) =
        .content :: .content :: placesFrom (.inside q false) s := rfl
    rw [hrun, hplaces, ih.1, ih.2]
    exact ⟨rfl, rfl⟩

/-- A division of the text is the one that is read. -/
theorem HasPlaces.eq_places {s : Text} {ps : List Place} (h : HasPlaces s ps) : ps = places s := by
  have hopen {q : UInt8} (hq : isQuote q = true) (t : Text) :
      places (q :: t) = .opening :: placesFrom (.inside q false) t := by
    simp [places, placesFrom, QuoteState.place, QuoteState.step, QuoteState.isOutside, hq]
  induction h with
  | nil => rfl
  | code hc _ ih =>
    rw [ih, places, places, placesFrom, step_outside hc]
    simp [QuoteState.place, QuoteState.isOutside, hc]
  | @literal q u s ps hq hu _ ih =>
    have hstep : (QuoteState.inside q false).step q = .outside := by
      simp [QuoteState.step, ne_escape_of_isQuote hq]
    have hclose : (QuoteState.inside q false).place q = .closing := by
      rw [QuoteState.place, hstep]
      rfl
    rw [hopen hq, placesFrom_append, hu.read.1, hu.read.2, placesFrom, hclose, hstep, ih]
    rfl
  | @unclosed q u w hq hu hw =>
    rw [hopen hq, placesFrom_append, hu.read.1, hu.read.2, List.length_append,
      ← List.replicate_append_replicate]
    rcases hw with rfl | rfl <;> rfl

/-- **Every text is divided in exactly one way, and the reader finds it.** -/
theorem hasPlaces_iff {s : Text} {ps : List Place} : HasPlaces s ps ↔ ps = places s := by
  constructor
  · exact HasPlaces.eq_places
  · rintro rfl
    obtain ⟨ps, hps⟩ := exists_hasPlaces s
    rwa [← hps.eq_places]

/-! ## What the places tell -/

theorem outsideFrom_eq (st : QuoteState) (s : Text) :
    outsideFrom st s = (placesFrom st s).map (· == .code) := by
  induction s generalizing st with
  | nil => rfl
  | cons c s ih =>
    have hplace : st.outer c = (st.place c == .code) := by
      rw [QuoteState.outer, QuoteState.place]
      cases st.isOutside <;> cases isQuote c <;> cases (st.step c).isOutside <;> rfl
    rw [outsideFrom, placesFrom, List.map_cons, ih, hplace]

/-- Bytes lie outside literals where they are code. -/
theorem outside_eq (s : Text) : outside s = (places s).map (· == .code) := outsideFrom_eq .outside s

theorem maskFrom_eq (st : QuoteState) (s : Text) :
    maskFrom st s =
      List.zipWith (fun p c => if p = Place.content then 32 else c) (placesFrom st s) s := by
  induction s generalizing st with
  | nil => rfl
  | cons c s ih =>
    have hplace : (st.isOutside || (st.step c).isOutside) = true ↔ st.place c ≠ .content := by
      rw [QuoteState.place]
      cases st.isOutside <;> cases isQuote c <;> cases (st.step c).isOutside <;> decide
    rw [maskFrom_cons, placesFrom, List.zipWith_cons_cons, ih, ← ite_not]
    simp only [hplace, ne_eq, ite_not]

/-- A masked text has a space for every byte between quotes. -/
theorem mask_eq (s : Text) :
    mask s = List.zipWith (fun p c => if p = Place.content then 32 else c) (places s) s :=
  maskFrom_eq .outside s

theorem isCodeAt_iff {s : Text} {i : Nat} : IsCodeAt s i ↔ (places s)[i]? = some .code := by
  simp [IsCodeAt, hasPlaces_iff]

instance (s : Text) (i : Nat) : Decidable (IsCodeAt s i) := decidable_of_iff _ isCodeAt_iff.symm

theorem IsCodeAt.lt_length {s : Text} {i : Nat} (h : IsCodeAt s i) : i < s.length := by
  obtain ⟨hi, -⟩ := List.getElem?_eq_some_iff.1 (isCodeAt_iff.1 h)
  rwa [places, length_placesFrom] at hi

/-- The byte behind a text lies in code if no literal is open there and it opens none. -/
theorem isCodeAt_append {u : Text} {c : UInt8} {s : Text} :
    IsCodeAt (u ++ c :: s) u.length ↔ (QuoteState.outside.run u).outer c = true := by
  have hlength := length_placesFrom .outside u
  rw [isCodeAt_iff, places, placesFrom_append, List.getElem?_append_right (Nat.le_of_eq hlength), hlength,
    Nat.sub_self, placesFrom, List.getElem?_cons_zero, Option.some.injEq, QuoteState.outer,
    QuoteState.place]
  cases (QuoteState.outside.run u).isOutside <;> cases isQuote c <;>
    cases ((QuoteState.outside.run u).step c).isOutside <;> decide

/-- Before code no literal is open, and code is no quote. -/
theorem IsCodeAt.exists_split {s : Text} {i : Nat} (h : IsCodeAt s i) :
    ∃ u c t, s = u ++ c :: t ∧ u.length = i ∧ QuoteState.outside.run u = .outside ∧
      isQuote c = false := by
  obtain ⟨c, hc⟩ : ∃ c, s[i]? = some c := ⟨_, List.getElem?_eq_getElem h.lt_length⟩
  obtain ⟨u, t, rfl, rfl⟩ := exists_of_getElem? hc
  have houter := isCodeAt_append.1 h
  refine ⟨u, c, t, rfl, rfl, eq_outside_of_outer houter, ?_⟩
  rw [QuoteState.outer, Bool.and_eq_true, Bool.not_eq_true'] at houter
  exact houter.2

/-! ## Searches -/

section

variable {P : Nat → Prop} {n i : Nat}

theorem isLeast_from_iff (h : P n) : IsLeast {k | n ≤ k ∧ P k} i ↔ i = n := by
  have hleast : IsLeast {k | n ≤ k ∧ P k} n := ⟨⟨Nat.le_refl n, h⟩, fun k hk => hk.1⟩
  constructor
  · exact fun hi => hi.unique hleast
  · rintro rfl
    exact hleast

theorem setOf_from_succ (h : ¬P n) : {k | n ≤ k ∧ P k} = {k | n + 1 ≤ k ∧ P k} := by
  ext k
  simp only [Set.mem_ofPred_eq, and_congr_left_iff]
  intro hk
  have hne : k ≠ n := by
    rintro rfl
    exact h hk
  omega

end

/-- A scanner that has read `u` and looks at what is left, stops where the property holds and goes
on by one byte where it does not, finds the first such index from there on. -/
theorem scan_eq_some_iff {P : Text → Nat → Prop} {scan : Text → Text → Option Nat}
    (hlt : ∀ s k, P s k → k < s.length) (hnil : ∀ u, scan u [] = none)
    (hstop : ∀ u c s, P (u ++ c :: s) u.length → scan u (c :: s) = some u.length)
    (hnext : ∀ u c s, ¬P (u ++ c :: s) u.length → scan u (c :: s) = scan (u ++ [c]) s)
    {u s : Text} {i : Nat} :
    scan u s = some i ↔ IsLeast {k | u.length ≤ k ∧ P (u ++ s) k} i := by
  induction s generalizing u with
  | nil =>
    rw [hnil]
    constructor
    · rintro ⟨⟩
    · rintro ⟨⟨hle, hP⟩, -⟩
      have := hlt _ _ hP
      rw [List.append_nil] at this
      omega
  | cons c s ih =>
    by_cases hP : P (u ++ c :: s) u.length
    · rw [hstop u c s hP, isLeast_from_iff hP, Option.some.injEq, eq_comm]
    · rw [hnext u c s hP, ih, setOf_from_succ hP, List.length_append, List.append_assoc]
      rfl

/-- What is not found is nowhere. -/
theorem eq_none_iff_of_isLeast {P : Nat → Prop} {o : Option Nat}
    (h : ∀ i, o = some i ↔ IsLeast {k | P k} i) : o = none ↔ ∀ k, ¬P k := by
  classical
  constructor
  · rintro rfl k hk
    have hleast : IsLeast {k | P k} (Nat.find ⟨k, hk⟩) :=
      ⟨Nat.find_spec ⟨k, hk⟩, fun j hj => Nat.find_min' ⟨k, hk⟩ hj⟩
    cases (h _).2 hleast
  · intro hnone
    refine Option.eq_none_iff_forall_ne_some.2 fun i hi => ?_
    exact hnone i ((h i).1 hi).1

/-- The text stands there, and does not begin in a literal. -/
def OccursAt (delim s : Text) (i : Nat) : Prop := IsCodeAt s i ∧ startsWith (s.drop i) delim = true

/-- A search finds the first place at which the delimiter begins outside literals. -/
theorem findUnquoted?_eq_some_iff {s delim : Text} (hne : delim ≠ []) {i : Nat} :
    findUnquoted? s delim = some i ↔ IsLeast {k | OccursAt delim s k} i := by
  have hhere (u : Text) (c : UInt8) (s : Text) : OccursAt delim (u ++ c :: s) u.length ↔
      ((QuoteState.outside.run u).outer c && startsWith (c :: s) delim) = true := by
    rw [OccursAt, isCodeAt_append, List.drop_left, Bool.and_eq_true]
  have hscan := @scan_eq_some_iff (OccursAt delim)
    (fun u s => findUnquotedFrom delim (QuoteState.outside.run u) u.length s)
    (fun s k hk => hk.1.lt_length) (fun u => rfl)
    (fun u c s hP => by rw [findUnquotedFrom, if_pos ((hhere u c s).1 hP)])
    (fun u c s hP => by
      rw [findUnquotedFrom, if_neg (mt (hhere u c s).2 hP), run_append, List.length_append]
      rfl) [] s i
  simpa [findUnquoted?, hne, QuoteState.run] using hscan

/-! ## Masking twice -/

/-- A masked text that is masked again, read from outside or from within a literal. That the second
reader knows of no backslash does not matter: it meets none before the quote that closes the
literal. -/
theorem maskFrom_maskFrom (s : Text) :
    maskFrom .outside (maskFrom .outside s) = maskFrom .outside s ∧
      ∀ q e, isQuote q = true →
        maskFrom (.inside q false) (maskFrom (.inside q e) s) = maskFrom (.inside q e) s := by
  induction s with
  | nil => exact ⟨rfl, fun q e _ => rfl⟩
  | cons c s ih =>
    obtain ⟨houtside, hinside⟩ := ih
    have hfirst (t : Text) :
        maskFrom .outside (c :: t) = c :: maskFrom (QuoteState.outside.step c) t := rfl
    constructor
    · rw [hfirst, hfirst]
      cases hc : isQuote c with
      | false => rw [step_outside hc, houtside]
      | true =>
        have hopen : QuoteState.outside.step c = .inside c false := by
          rw [QuoteState.step, if_pos hc]
        rw [hopen, hinside c false hc]
    · intro q e hq
      have hquote := ne_escape_of_isQuote hq
      have hspace := ne_space_of_isQuote hq
      rcases maskFrom_inside_cases q e c s with ⟨-, -, hs⟩ | ⟨f, -, hs⟩
      · have hclose : (QuoteState.inside q false).step q = .outside := by
          simp [QuoteState.step, hquote]
        rw [hs, maskFrom_cons, hclose, houtside]
        rfl
      · have hblank : (QuoteState.inside q false).step 32 = .inside q false := by
          simp [QuoteState.step, Ne.symm hspace, show (32 : UInt8) ≠ '\\' by decide]
        rw [hs, maskFrom_cons, hblank, hinside q f hq]
        rfl

/-- A masked text looks like itself. -/
theorem mask_mask (s : Text) : mask (mask s) = mask s := (maskFrom_maskFrom s).1

/-! ## Texts that look alike -/

theorem Alike.isOutside_eq {st st' : QuoteState} (h : Alike st st') :
    st.isOutside = st'.isOutside := by
  cases h <;> rfl

theorem Alike.place_eq {st st' : QuoteState} (h : Alike st st') {c d : UInt8} {s t : Text}
    (hmask : maskFrom st (c :: s) = maskFrom st' (d :: t)) : st.place c = st'.place d := by
  have hnext := (h.step hmask).isOutside_eq
  cases h with
  | outside =>
    obtain rfl : c = d := (List.cons.inj hmask).1
    rfl
  | inside hq e f => rw [QuoteState.place, QuoteState.place, hnext]; rfl

theorem placesFrom_alike {st st' : QuoteState} (h : Alike st st') {s t : Text}
    (hmask : maskFrom st s = maskFrom st' t) : placesFrom st s = placesFrom st' t := by
  induction s generalizing st st' t with
  | nil =>
    cases t with
    | nil => rfl
    | cons d t => cases hmask
  | cons c s ih =>
    cases t with
    | nil => cases hmask
    | cons d t =>
      rw [placesFrom, placesFrom, h.place_eq hmask, ih (h.step hmask) (List.cons.inj hmask).2]

/-- Texts that look alike have the same literals. -/
theorem places_eq_of_mask_eq {s t : Text} (h : mask s = mask t) : places s = places t :=
  placesFrom_alike .outside h

theorem places_mask (s : Text) : places (mask s) = places s := places_eq_of_mask_eq (mask_mask s)

theorem isCodeAt_mask {s : Text} {i : Nat} : IsCodeAt (mask s) i ↔ IsCodeAt s i := by
  rw [isCodeAt_iff, isCodeAt_iff, places_mask]

/-! ## Behind code -/

/-- From code on, a masked text is masked on its own. -/
theorem IsCodeAt.drop_mask {s : Text} {i : Nat} (h : IsCodeAt s i) :
    (mask s).drop i = mask (s.drop i) := by
  obtain ⟨u, c, t, rfl, rfl, hrun, -⟩ := h.exists_split
  rw [mask_append hrun, List.drop_left, ← length_mask u, List.drop_left]

/-- What holds no quotes stands at the front of a text if it does so when the text is masked. -/
theorem startsWith_mask {delim : Text} (h : ∀ c ∈ delim, isQuote c = false) (s : Text) :
    startsWith (mask s) delim = startsWith s delim := by
  induction delim generalizing s with
  | nil => rfl
  | cons d delim ih =>
    cases s with
    | nil => rfl
    | cons c s =>
      have hmask : mask (c :: s) = c :: maskFrom (QuoteState.outside.step c) s := rfl
      have hcons (t : Text) : startsWith (c :: t) (d :: delim) =
          (d == c && startsWith t delim) := rfl
      rw [hmask, hcons, hcons]
      by_cases hd : d = c
      · have hquote := h d List.mem_cons_self
        rw [← hd, step_outside hquote]
        exact congrArg _ (ih (fun e he => h e (List.mem_cons_of_mem d he)) s)
      · rw [beq_eq_false_iff_ne.2 hd, Bool.false_and, Bool.false_and]

theorem findUnquoted?_mask {delim : Text} (h : ∀ c ∈ delim, isQuote c = false) (s : Text) :
    findUnquoted? (mask s) delim = findUnquoted? s delim := by
  by_cases hne : delim = []
  · rw [hne]
    rfl
  · have hoccurs (k : Nat) : OccursAt delim (mask s) k ↔ OccursAt delim s k := by
      rw [OccursAt, OccursAt, isCodeAt_mask]
      refine and_congr_right fun hk => ?_
      rw [hk.drop_mask, startsWith_mask h]
    refine Option.ext fun i => ?_
    rw [findUnquoted?_eq_some_iff hne, findUnquoted?_eq_some_iff hne]
    simp only [hoccurs]

theorem closeOfFirst?_mask (s : Text) : closeOfFirst? (mask s) = closeOfFirst? s := by
  cases s with
  | nil => rfl
  | cons c s =>
    have hmask : mask (c :: s) = c :: maskFrom (QuoteState.outside.step c) s := rfl
    have hclose := closeFrom_alike .outside (mask_mask (c :: s))
    rw [hmask] at hclose ⊢
    rw [closeOfFirst?, closeOfFirst?]
    simp only [hclose]

/-- Brackets in code are closed in the same places. -/
theorem matchingClose?_mask {s : Text} {i : Nat} (h : IsCodeAt s i) :
    matchingClose? (mask s) i = matchingClose? s i := by
  rw [matchingClose?, matchingClose?, h.drop_mask, closeOfFirst?_mask]

/-! ## What is kept and what is blanked -/

/-- A masked text has spaces between quotes, and the bytes of the text everywhere else. -/
theorem getElem?_mask (s : Text) (i : Nat) :
    (mask s)[i]? = if (places s)[i]? = some .content then some (' ' : UInt8) else s[i]? := by
  have hspace : ' '.toUInt8 = 32 := rfl
  have hlength : (places s).length = s.length := length_placesFrom .outside s
  rw [mask_eq, List.getElem?_zipWith]
  cases hp : (places s)[i]? with
  | none =>
    have hi : s[i]? = none := by
      rw [List.getElem?_eq_none_iff] at hp ⊢
      rwa [← hlength]
    simp [hi]
  | some p =>
    obtain ⟨hi, -⟩ := List.getElem?_eq_some_iff.1 hp
    rw [hlength] at hi
    rw [List.getElem?_eq_getElem hi]
    by_cases hcontent : p = .content
    · simp [hcontent, hspace]
    · simp [hcontent]

/-- **Masking blanks what literals hold, and nothing that scanners see.** A text divides into code
and literals in exactly one way, and so does the masked text, with the same places. It is as long as
the text, has a space for every byte between the quotes of a literal, closed or not, and every other
byte of the text, so also the quotes; masking it again changes nothing. What lies outside literals is
what is code, in both. A delimiter without quotes is found at the same index of both, and so is the
bracket that closes one in code, where the search begins in the middle of the text. -/
theorem mask_faithful (s : Text) :
    ∃ ps : List Place, (∀ qs, HasPlaces s qs ↔ qs = ps) ∧ HasPlaces (mask s) ps ∧
      (mask s).length = s.length ∧
      (∀ i : Nat, (mask s)[i]? = if ps[i]? = some .content then some (' ' : UInt8) else s[i]?) ∧
      mask (mask s) = mask s ∧
      outside s = ps.map (· == .code) ∧ outside (mask s) = outside s ∧
      (∀ delim, (∀ c ∈ delim, isQuote c = false) →
        findUnquoted? (mask s) delim = findUnquoted? s delim) ∧
      ∀ i : Nat, ps[i]? = some .code → matchingClose? (mask s) i = matchingClose? s i := by
  refine ⟨places s, fun qs => hasPlaces_iff, hasPlaces_iff.2 (places_mask s).symm, length_mask s,
    getElem?_mask s, mask_mask s, outside_eq s, ?_, fun delim h => findUnquoted?_mask h s,
    fun i hi => matchingClose?_mask (isCodeAt_iff.2 hi)⟩
  rw [outside_eq, outside_eq, places_mask]

/-- A closed literal with an escaped quote and a bracket in it, and behind it a group whose literal
is not closed. -/
theorem mask_faithful_unclosed :
    let s : Text := "f('a\\'(', g) + h(\"x)"
    HasPlaces s (places s) ∧ mask s = "f('    ', g) + h(\"  " ∧ mask (mask s) = mask s ∧
      (∀ c ∈ Text.ofString ") +", isQuote c = false) ∧
      findUnquoted? (mask s) ") +" = findUnquoted? s ") +" ∧ findUnquoted? s ") +" = some 11 ∧
      (places s)[1]? = some .code ∧ matchingClose? (mask s) 1 = matchingClose? s 1 ∧
      matchingClose? s 1 = some 11 ∧
      (places s)[16]? = some .code ∧ matchingClose? (mask s) 16 = matchingClose? s 16 ∧
      matchingClose? s 16 = none := by
  intro s
  obtain ⟨ps, hplaces, -, -, -, hmask, -, -, hfind, hclose⟩ := mask_faithful s
  obtain rfl : places s = ps := (hplaces _).1 (hasPlaces_iff.2 rfl)
  have hall : (Text.ofString ") +").all (!isQuote ·) = true := by decide
  have hdelim : ∀ c ∈ Text.ofString ") +", isQuote c = false := fun c hc => by
    simpa using List.all_eq_true.1 hall c hc
  have hopen : (places s)[1]? = some .code := by decide
  have hopen' : (places s)[16]? = some .code := by decide
  exact ⟨(hplaces _).2 rfl, by decide, hmask, hdelim, hfind _ hdelim, by decide, hopen,
    hclose 1 hopen, by decide, hopen', hclose 16 hopen', by decide⟩

end GodotSurvey.Lexing
