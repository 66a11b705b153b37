import GodotSurvey.Proofs.Lexing.Places

/-!
# The assignment of a line

Which `=` assigns is a question about the bytes right before and behind it: it lies outside literals,
no other `=` follows it, and it does not end a comparison or compound operator. The scanner goes from
byte to byte and remembers the one before, so it stops at the first index of that kind; a scanner
that leaps over the second `=` of `==`, as one may because neither a quote nor an assignment can
stand there, stops at the same one. A `:=` counts before any of these.

* `findPlainAssignmentFrom_eq_some_iff` — what the scanner finds, told from the line.
* `leapFrom_eq` — leaping over the second `=` makes no difference.
* `findAssignment?_first` — **the assignment of a line is its first `:=`, else its first `=` that
  assigns.**
-/

namespace GodotSurvey.Lexing

open Text

/-! ## Operators -/

/-- A `:=` begins at that index, outside literals. -/
structure InfersAt (s : Text) (i : Nat) : Prop where
  code : IsCodeAt s i
  colon : s[i]? = some (':' : UInt8)
  equals : s[i + 1]? = some ('=' : UInt8)

/-- The `=` at that index assigns: it lies outside literals, is not followed by another one, and does
not end an operator. -/
structure AssignsAt (s : Text) (i : Nat) : Prop where
  code : IsCodeAt s i
  equals : s[i]? = some ('=' : UInt8)
  next : s[i + 1]? ≠ some ('=' : UInt8)
  previous : ∀ j, i = j + 1 → ∀ c ∈ s[j]?, c ∉ Text.ofString "=!<>+-*/%&|^:"

/-- The comparison and compound operators with an equals sign. -/
def equalsOperators : List Text :=
  ["==", "!=", "<=", ">=", "+=", "-=", "*=", "/=", "%=", "&=", "|=", "^=", "**=", "<<=", ">>="]

/-! ## Scanning -/

theorem startsWith_infers {t : Text} :
    startsWith t ":=" = true ↔ t[0]? = some (':' : UInt8) ∧ t[1]? = some ('=' : UInt8) := by
  have hbytes : Text.ofString ":=" = [(':' : UInt8), ('=' : UInt8)] := by decide
  rw [hbytes, startsWith_iff]
  constructor
  · rintro ⟨r, rfl⟩
    exact ⟨rfl, rfl⟩
  · rintro ⟨hcolon, hequals⟩
    match t with
    | [] => cases hcolon
    | [c] => cases hequals
    | c :: d :: r =>
      cases hcolon
      cases hequals
      exact ⟨r, rfl⟩

theorem occursAt_iff_infersAt {s : Text} {i : Nat} : OccursAt ":=" s i ↔ InfersAt s i := by
  rw [OccursAt, startsWith_infers, List.getElem?_drop, List.getElem?_drop, Nat.add_zero]
  constructor
  · rintro ⟨hcode, hcolon, hequals⟩
    exact ⟨hcode, hcolon, hequals⟩
  · rintro ⟨hcode, hcolon, hequals⟩
    exact ⟨hcode, hcolon, hequals⟩

theorem joinsEquals_eq_false_iff {c : UInt8} :
    joinsEquals c = false ↔ c ∉ Text.ofString "=!<>+-*/%&|^:" := by
  rw [joinsEquals, hasByte, List.any_beq', List.contains_eq_mem, decide_eq_false_iff_not]

/-- Whether the byte behind a text assigns, told from the last byte before it and the first behind
it. -/
theorem assignsAt_append {u : Text} {c : UInt8} {s : Text} :
    AssignsAt (u ++ c :: s) u.length ↔
      ((QuoteState.outside.run u).outer c && c == '=' && s.head? != some '=' &&
        !u.getLast?.any joinsEquals) = true := by
  have hnext : (u ++ c :: s)[u.length + 1]? = s.head? := by
    rw [List.getElem?_append_right (Nat.le_add_right _ _), Nat.add_sub_cancel_left,
      List.getElem?_cons_succ, List.head?_eq_getElem?]
  have hprevious : (∀ j, u.length = j + 1 → ∀ d ∈ (u ++ c :: s)[j]?,
      d ∉ Text.ofString "=!<>+-*/%&|^:") ↔ u.getLast?.any joinsEquals = false := by
    rcases List.eq_nil_or_concat u with rfl | ⟨v, d, rfl⟩
    · simp
    · simp only [List.concat_eq_append, List.length_append, List.length_singleton,
        List.append_assoc, List.singleton_append, List.getLast?_concat, Option.any_some,
        joinsEquals_eq_false_iff, Nat.add_right_cancel_iff]
      constructor
      · exact fun h => h v.length rfl d (by simp)
      · rintro h j rfl e he
        simp only [List.getElem?_append_right (Nat.le_refl _), Nat.sub_self,
          List.getElem?_cons_zero, Option.mem_some_iff] at he
        exact he ▸ h
  simp only [Bool.and_eq_true, beq_iff_eq, bne_iff_ne, Bool.not_eq_true', and_assoc]
  rw [← isCodeAt_append (s := s), ← hprevious, ← hnext]
  constructor
  · rintro ⟨hcode, hequals, hnext, hprevious⟩
    exact ⟨hcode, by simpa using hequals, hnext, hprevious⟩
  · rintro ⟨hcode, rfl, hnext, hprevious⟩
    exact ⟨hcode, by simp, hnext, hprevious⟩

/-- The scanner finds the first `=` that assigns. -/
theorem findPlainAssignmentFrom_eq_some_iff {s : Text} {i : Nat} :
    findPlainAssignmentFrom none .outside 0 s = some i ↔ IsLeast {k | AssignsAt s k} i := by
  have hscan := @scan_eq_some_iff AssignsAt
    (fun u s => findPlainAssignmentFrom u.getLast? (QuoteState.outside.run u) u.length s)
    (fun s k hk => hk.code.lt_length) (fun u => rfl)
    (fun u c s hP => by rw [findPlainAssignmentFrom, if_pos (assignsAt_append.1 hP)])
    (fun u c s hP => by
      rw [findPlainAssignmentFrom, if_neg (mt assignsAt_append.2 hP), run_append,
        List.length_append, List.getLast?_concat]
      rfl) [] s i
  simpa [QuoteState.run] using hscan

theorem findUnquoted?_infers {s : Text} {i : Nat} :
    findUnquoted? s ":=" = some i ↔ IsLeast {k | InfersAt s k} i := by
  rw [findUnquoted?_eq_some_iff (by decide)]
  simp only [occursAt_iff_infersAt]

theorem findAssignment?_of_infers {s : Text} {i : Nat} (h : findUnquoted? s ":=" = some i) :
    findAssignment? s = some ⟨i, true⟩ := by
  rw [findAssignment?, h]

theorem findAssignment?_of_none {s : Text} (h : findUnquoted? s ":=" = none) :
    findAssignment? s = (findPlainAssignmentFrom none .outside 0 s).map (⟨·, false⟩) := by
  rw [findAssignment?, h]

/-! ## Leaping -/

/-- A scanner for a plain `=` that leaps over the second `=` of `==`. -/
def leapFrom (previous : Option UInt8) (st : QuoteState) (i : Nat) : Text → Option Nat
  | [] => none
  | [c] => if st.outer c && c == '=' && !previous.any joinsEquals then some i else none
  | c :: d :: rest =>
    if !(st.outer c && c == '=') then leapFrom (some c) (st.step c) (i + 1) (d :: rest)
    else if d == '=' then leapFrom (some d) (st.step c) (i + 2) rest
    else if previous.any joinsEquals then leapFrom (some c) (st.step c) (i + 1) (d :: rest)
    else some i

/-- The first assignment outside literals, found in leaps. -/
def leapingAssignment? (s : Text) : Option Assignment :=
  match findUnquoted? s ":=" with
  | some i => some ⟨i, true⟩
  | none => (leapFrom none .outside 0 s).map (⟨·, false⟩)

/-- Leaping over the second `=` makes no difference: it cannot assign, because the first one stands
before it, and it leaves the reader outside literals. -/
theorem leapFrom_eq (previous : Option UInt8) (st : QuoteState) (i : Nat) (s : Text) :
    leapFrom previous st i s = findPlainAssignmentFrom previous st i s := by
  have hstep (previous : Option UInt8) (st : QuoteState) (i : Nat) (c : UInt8) (s : Text) :
      findPlainAssignmentFrom previous st i (c :: s) =
        if st.outer c && c == '=' && s.head? != some '=' && !previous.any joinsEquals then some i
        else findPlainAssignmentFrom (some c) (st.step c) (i + 1) s := rfl
  fun_induction leapFrom previous st i s with
  | case1 => rfl
  | case2 previous st i c hhit =>
    simp only [Bool.and_eq_true] at hhit
    rw [hstep, if_pos (by simp [hhit])]
  | case3 previous st i c hmiss =>
    rw [hstep, if_neg (by simpa using hmiss)]
    rfl
  | case4 previous st i c d rest hmiss ih =>
    rw [Bool.not_eq_true'] at hmiss
    rw [ih, hstep previous, hmiss, Bool.false_and, Bool.false_and, if_neg Bool.false_ne_true]
  | case5 previous st i c d rest hhit hd ih =>
    rw [Bool.not_eq_true', Bool.not_eq_false, Bool.and_eq_true, beq_iff_eq] at hhit
    obtain rfl := eq_outside_of_outer hhit.1
    have hequals : QuoteState.outside.step '=' = .outside := rfl
    have hjoins : joinsEquals '=' = true := by decide
    rw [ih, hstep previous, if_neg (by simp [beq_iff_eq.1 hd]), hstep, hhit.2, hequals,
      if_neg (by simp [hjoins]), beq_iff_eq.1 hd, hequals]
  | case6 previous st i c d rest _ _ hprevious ih =>
    rw [ih, hstep previous, if_neg (by simp [hprevious])]
  | case7 previous st i c d rest hhit hd hprevious =>
    rw [Bool.not_eq_true', Bool.not_eq_false] at hhit
    rw [beq_iff_eq] at hd
    rw [hstep, hhit, if_pos (by simp [hd, hprevious])]

theorem leapingAssignment?_eq (s : Text) : leapingAssignment? s = findAssignment? s := by
  cases h : findUnquoted? s ":=" with
  | some i => rw [leapingAssignment?, findAssignment?_of_infers h, h]
  | none => rw [leapingAssignment?, findAssignment?_of_none h, h, leapFrom_eq]

/-! ## Operators are not assignments -/

/-- In such an operator, every `=` has another one behind it or a byte before it that it ends an
operator with. -/
theorem joins_of_mem_equalsOperators : ∀ op ∈ equalsOperators, ∀ o < op.length,
    op[o]? = some ('=' : UInt8) →
      op[o + 1]? = some ('=' : UInt8) ∨ o ≠ 0 ∧ op[o - 1]?.any joinsEquals = true := by
  decide

theorem colon_not_mem_equalsOperators : ∀ op ∈ equalsOperators, (':' : UInt8) ∉ op := by decide

/-- What stands at an index that a text found there covers. -/
theorem getElem?_of_startsWith_drop {s p : Text} {k o : Nat} (h : startsWith (s.drop k) p = true)
    (ho : o < p.length) : s[k + o]? = p[o]? := by
  obtain ⟨r, hr⟩ := startsWith_iff.1 h
  rw [← List.getElem?_drop, hr, List.getElem?_append_left ho]

/-- No operator covers an `=` that assigns. -/
theorem AssignsAt.operator_ends {s op : Text} {i k : Nat} (h : AssignsAt s i)
    (hop : op ∈ equalsOperators) (hk : startsWith (s.drop k) op = true) (hle : k ≤ i) :
    k + op.length ≤ i := by
  by_contra hlt
  obtain ⟨o, rfl⟩ := Nat.exists_eq_add_of_le hle
  have ho : o < op.length := by omega
  have hequals := h.equals
  rw [getElem?_of_startsWith_drop hk ho] at hequals
  rcases joins_of_mem_equalsOperators op hop o ho hequals with hnext | ⟨hzero, hjoins⟩
  · obtain ⟨ho', -⟩ := List.getElem?_eq_some_iff.1 hnext
    exact h.next (by rw [Nat.add_assoc, getElem?_of_startsWith_drop hk ho', hnext])
  · obtain ⟨o, rfl⟩ := Nat.exists_eq_succ_of_ne_zero hzero
    have ho' : o < op.length := by omega
    rw [Nat.succ_sub_one, List.getElem?_eq_getElem ho', Option.any_some] at hjoins
    have hprevious := h.previous (k + o) rfl op[o]
      (by rw [getElem?_of_startsWith_drop hk ho', List.getElem?_eq_getElem ho']; rfl)
    rw [← joinsEquals_eq_false_iff, hjoins] at hprevious
    cases hprevious

/-- No operator covers the colon of a `:=`. -/
theorem InfersAt.operator_ends {s op : Text} {i k : Nat} (h : InfersAt s i)
    (hop : op ∈ equalsOperators) (hk : startsWith (s.drop k) op = true) (hle : k ≤ i) :
    k + op.length ≤ i := by
  by_contra hlt
  obtain ⟨o, rfl⟩ := Nat.exists_eq_add_of_le hle
  have ho : o < op.length := by omega
  have hcolon := h.colon
  rw [getElem?_of_startsWith_drop hk ho] at hcolon
  exact colon_not_mem_equalsOperators op hop (List.mem_of_getElem? hcolon)

/-! ## The assignment of a line -/

/-- Where the operator stands, and how long it is. -/
def Assignment.span (a : Assignment) : Nat × Nat := (a.index, a.width)

/-- **The assignment of a line is its first `:=`, else its first `=` that assigns.** With a `:=`
outside literals the first one is found, two bytes wide. Without one, an `=` is found, one byte wide,
exactly if it is the first outside literals that no `=` follows and that stands behind none of the
bytes that would make it the end of an operator; nothing is found exactly if there is no such `=`.
A scanner that leaps over the second `=` of `==` finds the same. So no part of a comparison or
compound operator is found: one that begins at what is found or before it ends before it. (Behind the
colon of a `:=` one may begin, as in `a :== b`, which reads as `:=` and `=`.) -/
theorem findAssignment?_first (s : Text) :
    (∀ i, (findAssignment? s).map Assignment.span = some (i, 2) ↔ IsLeast {k | InfersAt s k} i) ∧
      ((∀ k, ¬InfersAt s k) →
        (∀ i, (findAssignment? s).map Assignment.span = some (i, 1) ↔
          IsLeast {k | AssignsAt s k} i) ∧
        (findAssignment? s = none ↔ ∀ k, ¬AssignsAt s k)) ∧
      leapingAssignment? s = findAssignment? s ∧
      ∀ a, findAssignment? s = some a → ∀ op ∈ equalsOperators, ∀ k,
        startsWith (s.drop k) op = true → k ≤ a.index → k + op.length ≤ a.index := by
  have hplain : ∀ i, findPlainAssignmentFrom none .outside 0 s = some i ↔
      IsLeast {k | AssignsAt s k} i := fun i => findPlainAssignmentFrom_eq_some_iff
  cases hinfers : findUnquoted? s ":=" with
  | some j =>
    have hleast := findUnquoted?_infers.1 hinfers
    have hfind := findAssignment?_of_infers hinfers
    refine ⟨fun i => ?_, fun hnone => absurd hleast.1 (hnone j), leapingAssignment?_eq s, ?_⟩
    · rw [← findUnquoted?_infers, hinfers, hfind]
      simp [Assignment.span, Assignment.width]
    · rintro a ha op hop k hk hle
      rw [hfind] at ha
      cases ha
      exact hleast.1.operator_ends hop hk hle
  | none =>
    have hnone := (eq_none_iff_of_isLeast fun i => findUnquoted?_infers).1 hinfers
    have hfind := findAssignment?_of_none hinfers
    refine ⟨fun i => ?_, fun _ => ⟨fun i => ?_, ?_⟩, leapingAssignment?_eq s, ?_⟩
    · rw [← findUnquoted?_infers, hinfers, hfind]
      simp [Assignment.span, Assignment.width]
    · rw [← hplain, hfind]
      simp [Assignment.span, Assignment.width]
    · rw [← eq_none_iff_of_isLeast hplain, hfind, Option.map_eq_none_iff]
    · rintro a ha op hop k hk hle
      rw [hfind] at ha
      obtain ⟨i, hi, rfl⟩ := Option.map_eq_some_iff.1 ha
      exact ((hplain i).1 hi).1.operator_ends hop hk hle

/-- Behind comparisons and a literal that shows `:=`, an `=` assigns; behind a comparison, a `:=`. -/
theorem findAssignment?_first_comparisons :
    let s : Text := "x == \":=\" if y <= z else w = 1"
    let t : Text := "b == c := d"
    (∀ k, ¬InfersAt s k) ∧ IsLeast {k | AssignsAt s k} 27 ∧ IsLeast {k | InfersAt t k} 7 ∧
      findAssignment? s = some ⟨27, false⟩ ∧ Text.ofString "<=" ∈ equalsOperators ∧
      startsWith (s.drop 15) "<=" = true ∧ 15 + (Text.ofString "<=").length ≤ 27 := by
  intro s t
  obtain ⟨-, hplain, -, hends⟩ := findAssignment?_first s
  obtain ⟨hinfers, -⟩ := findAssignment?_first t
  have hnone : ∀ k, ¬InfersAt s k :=
    (eq_none_iff_of_isLeast fun i => findUnquoted?_infers).1 (by decide)
  have hfind : findAssignment? s = some ⟨27, false⟩ := by decide
  have hop : Text.ofString "<=" ∈ equalsOperators := by decide
  have hthere : startsWith (s.drop 15) "<=" = true := by decide
  exact ⟨hnone, ((hplain hnone).1 27).1 (by rw [hfind]; rfl), (hinfers 7).1 (by decide), hfind, hop,
    hthere, hends _ hfind _ hop 15 hthere (by decide)⟩

end GodotSurvey.Lexing
