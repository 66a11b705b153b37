import GodotSurvey.Analysis.Interaction
import GodotSurvey.Proofs.Lexing.Mask
import Mathlib.Data.List.Infix

/-!
# Argument lists

The arguments of a call are told apart by the commas outside brackets and literals. The splitter
reads the masked text, so of every argument it sees exactly the bytes outside literals, and it keeps
one count of open brackets for all three kinds. An argument that closes its literals and as many
brackets as it opens leaves the splitter as it found it, outside literals and at the same depth; if
none of its commas stands at depth nothing, it is read as one piece. So between two arguments the
splitter is always in the state in which it began, and the commas between arguments are the only ones
at which it cuts.

* `splitArgsFrom_cons` — what the splitter does with one byte.
* `splitArgsFrom_append` — it reads over a text that shows no comma at depth nothing.
* `IsArgument.splitArgsFrom_append` — an argument leaves it as it found it.
* `splitArgs_join` — **joined arguments are split into the arguments they were.**
-/

namespace GodotSurvey.Interaction

open Text Lexing

/-! ## Depth -/

def isOpener (c : UInt8) : Bool := c == '(' || c == '[' || c == '{'

def isCloser (c : UInt8) : Bool := c == ')' || c == ']' || c == '}'

/-- How many more brackets a text opens than it closes, of all kinds together. -/
def excess (s : Text) : Int := s.countP isOpener - s.countP isCloser

theorem excess_nil : excess [] = 0 := rfl

theorem excess_append (s t : Text) : excess (s ++ t) = excess s + excess t := by
  rw [excess, excess, excess, List.countP_append, List.countP_append]
  omega

theorem excess_cons (c : UInt8) (s : Text) : excess (c :: s) = excess [c] + excess s :=
  excess_append [c] s

/-- One argument of a call: it is visible and trimmed and closes its literals; outside them it opens
as many brackets as it closes, and no beginning that does so is followed by a comma. -/
structure IsArgument (a : Text) : Prop where
  visible : a ≠ []
  trimmed : IsTrimmed a
  run : QuoteState.outside.run a = .outside
  level : excess (outerBytes .outside a) = 0
  noComma : ∀ t, t ++ [(',' : UInt8)] <+: outerBytes .outside a → excess t ≠ 0

instance (a : Text) : Decidable (IsArgument a) :=
  decidable_of_iff
    (a ≠ [] ∧ IsTrimmed a ∧ QuoteState.outside.run a = .outside ∧
      excess (outerBytes .outside a) = 0 ∧
      ∀ t ∈ (outerBytes .outside a).inits, t ++ [(',' : UInt8)] <+: outerBytes .outside a →
        excess t ≠ 0)
    ⟨fun ⟨h₁, h₂, h₃, h₄, h₅⟩ => ⟨h₁, h₂, h₃, h₄, fun t ht =>
      h₅ t ((List.mem_inits _ _).2 ((List.prefix_append _ _).trans ht)) ht⟩,
      fun ⟨h₁, h₂, h₃, h₄, h₅⟩ => ⟨h₁, h₂, h₃, h₄, fun t _ => h₅ t⟩⟩

/-! ## The splitter -/

/-- One byte of the masked text: at depth nothing a comma ends the piece, and any other byte goes on
with it at the depth behind it. -/
theorem splitArgsFrom_cons (d : Int) (p : Text) (m c : UInt8) (rest : List (UInt8 × UInt8)) :
    splitArgsFrom d p ((m, c) :: rest) =
      if m = ',' ∧ d = 0 then trim p.reverse :: splitArgsFrom d [] rest
      else splitArgsFrom (d + excess [m]) (c :: p) rest := by
  have hdepth : (if m == '(' || m == '[' || m == '{' then d + 1
      else if m == ')' || m == ']' || m == '}' then d - 1 else d) = d + excess [m] := by
    have hboth : isOpener m = true → isCloser m = false := by
      simp only [isOpener, Bool.or_eq_true, beq_iff_eq]
      rintro ((rfl | rfl) | rfl) <;> rfl
    change (if isOpener m = true then d + 1 else if isCloser m = true then d - 1 else d) = _
    rw [excess, List.countP_singleton, List.countP_singleton]
    cases ho : isOpener m with
    | true => simp [hboth ho]
    | false =>
      cases hc : isCloser m with
      | true => simp; omega
      | false => simp
  rw [splitArgsFrom]
  simp only [hdepth, Bool.and_eq_true, beq_iff_eq]

theorem excess_of_hidden {m : UInt8} (hm : m = 32 ∨ isQuote m = true) : excess [m] = 0 := by
  have hplain : isOpener m = false ∧ isCloser m = false := by
    rw [isQuote, Bool.or_eq_true, beq_iff_eq, beq_iff_eq] at hm
    rcases hm with rfl | rfl | rfl <;> decide
  rw [excess, List.countP_singleton, List.countP_singleton, hplain.1, hplain.2]
  rfl

/-- The splitter reads over a text that shows no comma at depth nothing. -/
theorem splitArgsFrom_append {st : QuoteState} (hst : IsOpened st) {d : Int} {a : Text}
    (h : ∀ t, t ++ [(',' : UInt8)] <+: outerBytes st a → d + excess t ≠ 0) (p : Text)
    (rest : List (UInt8 × UInt8)) :
    splitArgsFrom d p ((maskFrom st a).zip a ++ rest) =
      splitArgsFrom (d + excess (outerBytes st a)) (a.reverse ++ p) rest := by
  induction a generalizing st d p with
  | nil => simp [maskFrom, outerBytes, excess_nil]
  | cons c a ih =>
    rw [List.reverse_cons, List.append_assoc, List.singleton_append]
    rcases maskFrom_cons_cases hst c a with ⟨houter, hmask⟩ | ⟨houter, m, hm, hmask⟩
    · have hseen : outerBytes st (c :: a) = c :: outerBytes (st.step c) a := by
        rw [outerBytes, houter, if_pos rfl]
      rw [hseen] at h ⊢
      have hcomma : ¬(c = ',' ∧ d = 0) := by
        rintro ⟨rfl, rfl⟩
        exact h [] (by simp) rfl
      have hrest : ∀ t, t ++ [(',' : UInt8)] <+: outerBytes (st.step c) a →
          d + excess [c] + excess t ≠ 0 := by
        intro t ht
        have := h (c :: t) (List.cons_prefix_cons.2 ⟨rfl, ht⟩)
        rwa [excess_cons, ← Int.add_assoc] at this
      rw [hmask, List.zip_cons_cons, List.cons_append, splitArgsFrom_cons, if_neg hcomma,
        ih (hst.step c) hrest, excess_cons c (outerBytes _ _), Int.add_assoc]
    · -- What is hidden is neither a comma nor a bracket.
      have hseen : outerBytes st (c :: a) = outerBytes (st.step c) a := by
        rw [outerBytes, houter, if_neg Bool.false_ne_true]
      have hcomma : ¬(m = ',' ∧ d = 0) := by
        rintro ⟨rfl, -⟩
        revert hm
        decide
      rw [hseen] at h ⊢
      rw [hmask, List.zip_cons_cons, List.cons_append, splitArgsFrom_cons, if_neg hcomma,
        excess_of_hidden hm, Int.add_zero, ih (hst.step c) h]

/-! ## Joined arguments -/

variable {a : Text} {as : List Text}

/-- The piece that ends behind an argument is the argument, without the blank before it. -/
theorem trim_piece (ha : IsTrimmed a) {lead : Text} (hlead : lead = [] ∨ lead = [32]) :
    trim (a.reverse ++ lead).reverse = a := by
  rw [List.reverse_append, List.reverse_reverse]
  rcases hlead with rfl | rfl
  · exact ha
  · exact trim_blank_append ha

/-- An argument leaves the splitter as it found it. -/
theorem IsArgument.splitArgsFrom_append (ha : IsArgument a) (p : Text)
    (rest : List (UInt8 × UInt8)) :
    splitArgsFrom 0 p ((mask a).zip a ++ rest) = splitArgsFrom 0 (a.reverse ++ p) rest := by
  have hcomma : ∀ t, t ++ [(',' : UInt8)] <+: outerBytes .outside a → 0 + excess t ≠ 0 := by
    intro t ht
    rw [Int.zero_add]
    exact ha.noComma t ht
  rw [mask, Interaction.splitArgsFrom_append isOpened_outside hcomma, ha.level, Int.add_zero]

theorem join_arguments (a b : Text) (as : List Text) :
    join ", " (a :: b :: as) = a ++ 44 :: 32 :: join ", " (b :: as) := by
  have hseparator : Text.ofString ", " = [44, 32] := by decide
  rw [join_cons _ _ (List.cons_ne_nil b as), hseparator, List.append_assoc]
  rfl

/-- Between arguments the splitter is in the state in which it began. -/
theorem splitArgsFrom_join {lead : Text} (hlead : lead = [] ∨ lead = [32])
    (h : ∀ b ∈ a :: as, IsArgument b) :
    splitArgsFrom 0 lead ((mask (join ", " (a :: as))).zip (join ", " (a :: as))) = a :: as := by
  induction as generalizing a lead with
  | nil =>
    have ha := h a List.mem_cons_self
    have hread := ha.splitArgsFrom_append lead []
    rw [List.append_nil] at hread
    rw [join, hread, splitArgsFrom, trim_piece ha.trimmed hlead]
  | cons b as ih =>
    have ha := h a List.mem_cons_self
    have hmask (t : Text) : mask (44 :: 32 :: t) = 44 :: 32 :: mask t := rfl
    -- The comma ends the piece, and the next one begins with the blank behind it.
    have hcut (p : Text) (rest : List (UInt8 × UInt8)) :
        splitArgsFrom 0 p ((44, 44) :: (32, 32) :: rest) =
          trim p.reverse :: splitArgsFrom 0 [32] rest := rfl
    have hrest : splitArgsFrom 0 [32]
        ((mask (join ", " (b :: as))).zip (join ", " (b :: as))) = b :: as :=
      ih (.inr rfl) fun c hc => h c (List.mem_cons_of_mem a hc)
    rw [join_arguments, mask_append ha.run, hmask, List.zip_append (length_mask a),
      List.zip_cons_cons, List.zip_cons_cons, ha.splitArgsFrom_append, hcut,
      trim_piece ha.trimmed hlead, hrest]

/-- A list of arguments is not blank. -/
theorem isSpace_join (h : IsArgument a) : isSpace (join ", " (a :: as)) = false := by
  have hwidth : spaceWidth (join ", " (a :: as)) = 0 := by
    cases as with
    | nil => exact h.trimmed.start
    | cons b as =>
      rw [join_arguments, spaceWidth_append_first h.visible (.inl (by decide))]
      exact h.trimmed.start
  have hne : join ", " (a :: as) ≠ [] := by
    cases as with
    | nil => exact h.visible
    | cons b as => simp [join_arguments]
  rw [isSpace, trimStart_eq_self hwidth]
  exact List.isEmpty_eq_false_iff.2 hne

/-- **Joined arguments are split into the arguments they were**: any list of at least one argument,
each visible and trimmed, with its literals closed, as many brackets closed as opened outside them,
of all three kinds together, and no comma outside literals where none is open. That brackets are
closed before they are opened is not excluded: the splitter counts on below nothing. -/
theorem splitArgs_join (as : List Text) (hne : as ≠ []) (h : ∀ a ∈ as, IsArgument a) :
    splitArgs (join ", " as) = as := by
  obtain ⟨a, as, rfl⟩ := List.exists_cons_of_ne_nil hne
  rw [splitArgs, isSpace_join (h a List.mem_cons_self)]
  exact splitArgsFrom_join (.inl rfl) h

/-- Arguments with commas, brackets and quotes in literals and groups, and one that closes a bracket
of another kind than it opens. -/
theorem splitArgs_join_nested :
    let as : List Text := ["\"a,(\\\"b\"", "f(1, [2, 3])", "\x7b'k': ',]'\x7d", "(x]"]
    as ≠ [] ∧ (∀ a ∈ as, IsArgument a) ∧ splitArgs (join ", " as) = as := by
  intro as
  have hne : as ≠ [] := List.cons_ne_nil _ _
  have h : ∀ a ∈ as, IsArgument a := by decide
  exact ⟨hne, h, splitArgs_join as hne h⟩

end GodotSurvey.Interaction
