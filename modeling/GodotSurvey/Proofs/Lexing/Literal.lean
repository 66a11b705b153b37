import GodotSurvey.Lexing.Bracket
import GodotSurvey.Proofs.Text.Lines
import GodotSurvey.Proofs.Text.Trim

/-!
# Scanning over string literals

A scanner that runs `QuoteState` sees of a text only the bytes outside literals, `outerBytes`. What
it looks for is found in a part of the text only if it occurs among them; a part that closes the
literals it opens is passed over and leaves the scanner outside.

`literal` writes any text as a literal, and scanners see nothing of it.

* `findUnquotedFrom_append` — a search passes over what it does not look for.
* `closeLiteral?_escape`, `unescape_escape` — a literal is read as the text it was written for.
-/

namespace GodotSurvey.Lexing

open Text

/-! ## The bytes outside literals -/

/-- The bytes that lie outside all literals. -/
def outerBytes (st : QuoteState) : Text → Text
  | [] => []
  | c :: rest =>
    if st.outer c then c :: outerBytes (st.step c) rest else outerBytes (st.step c) rest

theorem run_append (st : QuoteState) (s t : Text) : st.run (s ++ t) = (st.run s).run t :=
  List.foldl_append

theorem outerBytes_append (st : QuoteState) (s t : Text) :
    outerBytes st (s ++ t) = outerBytes st s ++ outerBytes (st.run s) t := by
  induction s generalizing st with
  | nil => rfl
  | cons c s ih =>
    have hrun : st.run (c :: s) = (st.step c).run s := rfl
    rw [List.cons_append, outerBytes, outerBytes, ih, hrun]
    split <;> rfl

/-- A byte that is not seen of a text is not its first byte, if that is seen, and is not seen of the
rest. -/
theorem not_mem_outerBytes_cons {d c : UInt8} {st : QuoteState} {s : Text}
    (h : d ∉ outerBytes st (c :: s)) :
    (st.outer c && c == d) = false ∧ d ∉ outerBytes (st.step c) s := by
  rw [outerBytes] at h
  cases hc : st.outer c with
  | false =>
    rw [hc] at h
    exact ⟨rfl, by simpa using h⟩
  | true =>
    rw [hc, if_pos rfl, List.mem_cons, not_or] at h
    exact ⟨by simpa using Ne.symm h.1, h.2⟩

theorem step_outside {c : UInt8} (hc : isQuote c = false) :
    QuoteState.outside.step c = .outside := by
  simp [QuoteState.step, hc]

theorem outer_outside {c : UInt8} (hc : isQuote c = false) : QuoteState.outside.outer c = true := by
  simp [QuoteState.outer, QuoteState.isOutside, hc]

theorem eq_outside_of_outer {st : QuoteState} {c : UInt8} (h : st.outer c = true) :
    st = .outside := by
  cases st with
  | outside => rfl
  | inside => cases h

/-- The text closes the literals it opens, and scanners see `seen` of it. -/
structure Shows (s seen : Text) : Prop where
  run : QuoteState.outside.run s = .outside
  seen : outerBytes .outside s = seen

theorem shows_nil : Shows [] [] := ⟨rfl, rfl⟩

theorem Shows.append {s s' t t' : Text} (hs : Shows s s') (ht : Shows t t') :
    Shows (s ++ t) (s' ++ t') := by
  constructor
  · rw [run_append, hs.run, ht.run]
  · rw [outerBytes_append, hs.run, hs.seen, ht.seen]

theorem shows_of_no_quote {s : Text} (h : ∀ c ∈ s, isQuote c = false) : Shows s s := by
  induction s with
  | nil => exact shows_nil
  | cons c s ih =>
    have hc := h c List.mem_cons_self
    have hs := ih fun d hd => h d (List.mem_cons_of_mem c hd)
    constructor
    · change (QuoteState.outside.step c).run s = _
      rw [step_outside hc, hs.run]
    · rw [outerBytes, outer_outside hc, step_outside hc, hs.seen]
      rfl

/-! ## Searches -/

/-- A search passes over what does not show the first byte of the delimiter. -/
theorem findUnquotedFrom_append {d : UInt8} {st : QuoteState} {s : Text} (h : d ∉ outerBytes st s)
    (delim : Text) (i : Nat) (rest : Text) :
    findUnquotedFrom (d :: delim) st i (s ++ rest) =
      findUnquotedFrom (d :: delim) (st.run s) (i + s.length) rest := by
  induction s generalizing st i with
  | nil => rfl
  | cons c s ih =>
    obtain ⟨hc, hs⟩ := not_mem_outerBytes_cons h
    have hmiss : (st.outer c && startsWith (c :: (s ++ rest)) (d :: delim)) = false := by
      rw [startsWith, List.isPrefixOf, BEq.comm, ← Bool.and_assoc, hc, Bool.false_and]
    rw [List.cons_append, findUnquotedFrom, hmiss, if_neg (by simp), ih hs]
    rw [List.length_cons, Nat.add_right_comm, ← Nat.add_assoc]
    rfl

/-! ## Written literals -/

/-- The text with a backslash before every backslash and every double quote. -/
def escape : Text → Text
  | [] => []
  | c :: rest => if c == '\\' || c == '"' then '\\' :: c :: escape rest else c :: escape rest

/-- A literal that stands for the text. -/
def literal (s : Text) : Text := '"' :: (escape s ++ "\"")

theorem literal_eq (s : Text) : literal s = 34 :: (escape s ++ [34]) := by
  simp [literal, Char.toUInt8, Text.ofString, String.utf8EncodeChar]

/-- An escaped text is built from bytes that need no backslash and pairs of a backslash and a byte
that does. -/
theorem escape_cons (c : UInt8) (s : Text) :
    escape (c :: s) = if c = 92 ∨ c = 34 then 92 :: c :: escape s else c :: escape s := by
  simp [escape, Char.toUInt8]

theorem escape_eq_self {s : Text} (hb : 92 ∉ s) (hq : 34 ∉ s) : escape s = s := by
  induction s with
  | nil => rfl
  | cons c s ih =>
    simp only [List.mem_cons, not_or] at hb hq
    have hc : ¬(c = 92 ∨ c = 34) := by
      rintro (rfl | rfl)
      · exact hb.1 rfl
      · exact hq.1 rfl
    rw [escape_cons, if_neg hc, ih hb.2 hq.2]

theorem mem_escape {c : UInt8} {s : Text} (hc : c ∈ escape s) : c = 92 ∨ c ∈ s := by
  induction s with
  | nil => contradiction
  | cons d s ih =>
    rw [escape_cons] at hc
    split at hc <;> simp only [List.mem_cons] at hc ⊢ <;> grind

theorem isOneLine_literal {s : Text} (h : IsOneLine s) : IsOneLine (literal s) := by
  have hescape {c : UInt8} (hc : c ≠ 92) (hs : c ∉ s) : c ∉ escape s := fun hmem =>
    (mem_escape hmem).elim hc hs
  rw [literal_eq]
  constructor
  · simp [hescape (by decide) h.lineFeed]
  · simp [hescape (by decide) h.carriageReturn]

/-! ## Reading a literal -/

theorem step_inside {c : UInt8} (hc : ¬(c = 92 ∨ c = 34)) :
    (QuoteState.inside 34 false).step c = .inside 34 false := by
  simp_all [QuoteState.step, Char.toUInt8]

theorem run_escape (s : Text) :
    (QuoteState.inside 34 false).run (escape s) = .inside 34 false := by
  induction s with
  | nil => rfl
  | cons c s ih =>
    rw [escape_cons]
    split
    · exact ih
    · rename_i hc
      change ((QuoteState.inside 34 false).step c).run (escape s) = _
      rw [step_inside hc, ih]

theorem outerBytes_inside {st : QuoteState} (hst : st.isOutside = false) (c : UInt8) (s : Text) :
    outerBytes st (c :: s) = outerBytes (st.step c) s := by
  simp [outerBytes, QuoteState.outer, hst]

theorem outerBytes_escape (s : Text) : outerBytes (.inside 34 false) (escape s) = [] := by
  induction s with
  | nil => rfl
  | cons c s ih =>
    rw [escape_cons]
    split
    · exact ih
    · rename_i hc
      rw [outerBytes_inside rfl, step_inside hc, ih]

/-- Scanners see nothing of a literal. -/
theorem shows_literal (s : Text) : Shows (literal s) [] := by
  have hopen : QuoteState.outside.step 34 = .inside 34 false := rfl
  have hclose : (QuoteState.inside 34 false).run [34] = .outside := rfl
  rw [literal_eq]
  constructor
  · change (QuoteState.outside.step 34).run (escape s ++ [34]) = _
    rw [hopen, run_append, run_escape, hclose]
  · have hquote : outerBytes .outside (34 :: (escape s ++ [34])) =
        outerBytes (QuoteState.outside.step 34) (escape s ++ [34]) := rfl
    rw [hquote, hopen, outerBytes_append, outerBytes_escape, run_escape]
    rfl

theorem closeLiteralFrom_escape (i : Nat) (s rest : Text) :
    closeLiteralFrom (.inside 34 false) i (escape s ++ 34 :: rest) =
      some (i + (escape s).length) := by
  induction s generalizing i with
  | nil => rfl
  | cons c s ih =>
    rw [escape_cons]
    split
    · have hpair : closeLiteralFrom (.inside 34 false) i (92 :: c :: (escape s ++ 34 :: rest)) =
          closeLiteralFrom (.inside 34 false) (i + 1 + 1) (escape s ++ 34 :: rest) := rfl
      rw [List.cons_append, List.cons_append, hpair, ih]
      simp only [List.length_cons]
      congr 1
      omega
    · rename_i hc
      rw [List.cons_append, closeLiteralFrom, step_inside hc]
      simp only [QuoteState.isOutside, Bool.false_eq_true, if_false, ih, List.length_cons]
      congr 1
      omega

theorem closeLiteral?_escape (s rest : Text) :
    closeLiteral? 34 (escape s ++ 34 :: rest) = some (escape s).length := by
  simp [closeLiteral?, closeLiteralFrom_escape]

theorem unescape_escape (s : Text) : unescape (escape s) = s := by
  rw [unescape, replace]
  induction s with
  | nil => rfl
  | cons c s ih =>
    rw [escape_cons]
    split
    · rename_i hc
      rcases hc with rfl | rfl
      · exact congrArg (92 :: ·) ih
      · exact congrArg (34 :: ·) ih
    · rename_i hc
      have hmatch : firstMatch? [("\\\"", "\""), ("\\'", "'"), ("\\\\", "\\")] (c :: escape s) =
          none := by
        have hb : 92 ≠ c := fun h => hc (.inl h.symm)
        simp_all [firstMatch?, startsWith, Text.ofString, String.utf8EncodeChar]
      rw [replaceFrom, hmatch]
      exact congrArg (c :: ·) ih

theorem isSolid_of_isQuote {q : UInt8} (hq : isQuote q = true) : isSolid q = true := by
  simp only [isQuote, Bool.or_eq_true, beq_iff_eq] at hq
  rcases hq with rfl | rfl <;> rfl

/-- One pair of quotes is taken off. -/
theorem unquote_quoted {q : UInt8} (hq : isQuote q = true) (u : Text) :
    unquote (q :: (u ++ [q])) = u := by
  have hsolid := isSolid_of_isQuote hq
  have htrim : trim (q :: (u ++ [q])) = q :: (u ++ [q]) := isTrimmed_of_isSolid hsolid hsolid u
  rw [unquote, htrim]
  cases hu : u ++ [q] with
  | nil => simp at hu
  | cons d t =>
    have hlast : (d :: t).getLast? = some q := by rw [← hu, List.getLast?_concat]
    have hinner : (d :: t).dropLast = u := by rw [← hu, List.dropLast_concat]
    simp [hq, hlast, hinner]

end GodotSurvey.Lexing
