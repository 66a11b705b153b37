import GodotSurvey.Proofs.Lexing.Header
import GodotSurvey.Proofs.Text.Search
import Mathlib.Data.List.TakeWhile

/-!
# Arguments that are literals

What the search for the first arguments of calls finds, told from the line. A `LiteralCall` is a
call whose first argument begins with a literal, with everything that stands around it on the line.
Every argument that is found is the content of such a literal; whether the argument ends behind the
literal is not asked, so `LiteralCall.IsWhole` is a condition of its own.

* `exists_of_mem_quotedArgs` — **what is found is the content of literals that begin the arguments
  of calls.**
* `quotedArgs_append`, `mem_quotedArgs_append` — what is found on a longer line.
-/

namespace GodotSurvey.Lexing

open Text

/-! ## Literals -/


/-- The quote closes a literal of that content, and none before it does. -/
def IsLiteral (q : UInt8) (content : Text) : Prop :=
  isQuote q = true ∧ closeLiteral? q (content ++ [q]) = some content.length

instance (q : UInt8) (content : Text) : Decidable (IsLiteral q content) :=
  inferInstanceAs (Decidable (_ ∧ _))

/-- Inside a literal, what is found first is the quote that closes it. -/
theorem exists_of_closeLiteralFrom {q : UInt8} {e : Bool} {s : Text} {i j : Nat}
    (h : closeLiteralFrom (.inside q e) i s = some j) :
    ∃ u v, s = u ++ q :: v ∧ j = i + u.length ∧
      ∀ t, closeLiteralFrom (.inside q e) i (u ++ q :: t) = some j := by
  induction s generalizing e i with
  | nil => cases h
  | cons c s ih =>
    rw [closeLiteralFrom] at h
    by_cases hout : ((QuoteState.inside q e).step c).isOutside = true
    · obtain rfl : c = q := by
        cases e with
        | true => cases hout
        | false =>
          simp only [QuoteState.step] at hout
          split at hout
          · cases hout
          · split at hout
            · simp_all
            · cases hout
      rw [if_pos hout] at h
      refine ⟨[], s, rfl, by simpa using h.symm, fun t => ?_⟩
      rw [List.nil_append, closeLiteralFrom, if_pos hout, h]
    · obtain ⟨e', he⟩ : ∃ e', (QuoteState.inside q e).step c = .inside q e' := by
        cases e with
        | true => exact ⟨false, rfl⟩
        | false =>
          simp only [QuoteState.step] at hout ⊢
          split
          · exact ⟨true, rfl⟩
          · split
            · simp_all [QuoteState.isOutside]
            · exact ⟨false, rfl⟩
      rw [if_neg hout, he] at h
      obtain ⟨u, v, rfl, rfl, hclose⟩ := ih h
      refine ⟨c :: u, v, rfl, by rw [List.length_cons]; omega, fun t => ?_⟩
      rw [List.cons_append, closeLiteralFrom, if_neg hout, he, hclose]

theorem exists_of_closeLiteral? {q : UInt8} (hq : isQuote q = true) {s : Text} {i : Nat}
    (h : closeLiteral? q s = some i) :
    ∃ content rest, s = content ++ q :: rest ∧ i = content.length ∧ IsLiteral q content := by
  obtain ⟨u, v, rfl, hi, hclose⟩ := exists_of_closeLiteralFrom h
  rw [Nat.zero_add] at hi
  subst hi
  exact ⟨u, v, rfl, rfl, hq, hclose []⟩

theorem IsLiteral.closeLiteral? {q : UInt8} {content : Text} (h : IsLiteral q content)
    (rest : Text) : closeLiteral? q (content ++ q :: rest) = some content.length := by
  obtain ⟨u, v, huv, hi, hclose⟩ := exists_of_closeLiteralFrom h.2
  rw [Nat.zero_add] at hi
  obtain ⟨rfl, -⟩ := List.append_inj huv hi
  exact hclose rest

/-! ## First arguments -/

/-- A call on a line whose first argument begins with a literal. The blanks before the literal may
end in the `&` of a name literal. -/
structure LiteralCall where
  before : Text
  gap : Text
  lead : Text
  quote : UInt8
  content : Text
  rest : Text

namespace LiteralCall

/-- The line with the call of `name` on it. -/
def print (name : Text) (c : LiteralCall) : Text :=
  c.before ++ (name ++ (c.gap ++ 40 :: (c.lead ++ c.quote :: (c.content ++ c.quote :: c.rest))))

/-- The call counts as one of `name`: it is no part of a longer name nor of a literal, and what
stands around its parenthesis is blank. -/
structure IsOf (c : LiteralCall) (allowDot : Bool) : Prop where
  outside : QuoteState.outside.run c.before = .outside
  alone : ∀ p ∈ c.before.getLast?, isIdent p = false ∧ (p = 46 → allowDot = true)
  gap : ∀ b ∈ c.gap, isBlank b = true
  lead : ∃ blanks, (∀ b ∈ blanks, isBlank b = true) ∧ (c.lead = blanks ∨ c.lead = blanks ++ [38])
  literal : IsLiteral c.quote c.content

/-- The literal is the whole first argument: behind it, a comma or the end of the arguments
follows. -/
def IsWhole (c : LiteralCall) : Prop :=
  ∃ d ∈ (c.rest.dropWhile isBlank).head?, d = 44 ∨ d = 41

end LiteralCall

theorem exists_dropWhile_blank (s : Text) :
    ∃ blanks, (∀ b ∈ blanks, isBlank b = true) ∧ s = blanks ++ s.dropWhile isBlank :=
  ⟨s.takeWhile isBlank, fun _ hb => List.mem_takeWhile_imp hb,
    (List.takeWhile_append_dropWhile).symm⟩

theorem exists_of_leadingLiteral? {s a : Text} (h : leadingLiteral? s = some a) :
    ∃ lead q content rest, s = lead ++ q :: (content ++ q :: rest) ∧
      (∃ blanks, (∀ b ∈ blanks, isBlank b = true) ∧ (lead = blanks ∨ lead = blanks ++ [38])) ∧
      IsLiteral q content ∧ a = unescape content := by
  have hamp : '&'.toUInt8 = 38 := rfl
  obtain ⟨blanks, hblanks, hs⟩ := exists_dropWhile_blank s
  -- The literal stands behind the blanks, or behind an `&` there.
  obtain ⟨lead, t, hst, hlead, ht⟩ : ∃ lead t, s = lead ++ t ∧
      (lead = blanks ∨ lead = blanks ++ [38]) ∧
      (if (s.dropWhile isBlank).head? == some '&' then (s.dropWhile isBlank).drop 1
        else s.dropWhile isBlank) = t := by
    generalize s.dropWhile isBlank = r at hs ⊢
    by_cases hr : r.head? = some 38
    · obtain ⟨r, rfl⟩ := List.head?_eq_some_iff.1 hr
      exact ⟨blanks ++ [38], r, by simp [hs], .inr rfl, by simp [hamp]⟩
    · exact ⟨blanks, r, hs, .inl rfl, by simp [hamp, hr]⟩
  rw [leadingLiteral?, ht] at h
  cases t with
  | nil => cases h
  | cons q r =>
    dsimp only at h
    split at h
    · rename_i hq
      obtain ⟨i, hi, rfl⟩ := Option.map_eq_some_iff.1 h
      obtain ⟨content, rest, rfl, rfl, hliteral⟩ := exists_of_closeLiteral? hq hi
      exact ⟨lead, q, content, rest, hst, ⟨blanks, hblanks, hlead⟩, hliteral,
        by rw [List.take_left]⟩
    · cases h

theorem exists_of_firstQuotedArg? {s a : Text} (h : firstQuotedArg? s = some a) :
    ∃ gap t, s = gap ++ 40 :: t ∧ (∀ b ∈ gap, isBlank b = true) ∧ leadingLiteral? t = some a := by
  have hopen : '('.toUInt8 = 40 := rfl
  obtain ⟨gap, hgap, hs⟩ := exists_dropWhile_blank s
  rw [firstQuotedArg?] at h
  cases hr : s.dropWhile isBlank with
  | nil =>
    rw [hr] at h
    cases h
  | cons c t =>
    rw [hr] at h hs
    dsimp only at h
    split at h
    · rename_i hc
      rw [hopen, beq_iff_eq] at hc
      exact ⟨gap, t, hc ▸ hs, hgap, h⟩
    · cases h

/-- Every argument that is found is the content of a literal that begins the arguments of a call. -/
theorem exists_of_mem_quotedArgsFrom {name a : Text} {allowDot : Bool} {skip : Nat}
    {done s : Text}
    (h : a ∈ quotedArgsFrom name allowDot done.getLast? (QuoteState.outside.run done) skip s) :
    ∃ c : LiteralCall, c.print name = done ++ s ∧ c.IsOf allowDot ∧ a = unescape c.content := by
  have hdot : '.'.toUInt8 = 46 := rfl
  induction s generalizing skip done with
  | nil => cases skip <;> cases h
  | cons x s ih =>
    have hstep : (QuoteState.outside.run done).step x = QuoteState.outside.run (done ++ [x]) := by
      rw [run_append]
      rfl
    have hlast : some x = (done ++ [x]).getLast? := List.getLast?_concat.symm
    have hlater {n : Nat}
        (h : a ∈ quotedArgsFrom name allowDot (some x) ((QuoteState.outside.run done).step x) n s) :
        ∃ c : LiteralCall, c.print name = done ++ x :: s ∧ c.IsOf allowDot ∧
          a = unescape c.content := by
      rw [hstep, hlast] at h
      simpa using ih h
    cases skip with
    | succ n => exact hlater h
    | zero =>
      rw [quotedArgsFrom] at h
      split at h
      · rename_i hstart
        obtain ⟨t, ht⟩ := startsWith_iff.1 hstart
        rcases List.mem_append.1 h with h | h
        · split at h
          · rename_i halone
            rw [ht, List.drop_left, Option.mem_toList] at h
            rw [Bool.and_eq_true] at halone
            obtain ⟨houter, halone⟩ := halone
            obtain ⟨gap, u, rfl, hgap, hu⟩ := exists_of_firstQuotedArg? h
            obtain ⟨lead, q, content, rest, rfl, hlead, hliteral, rfl⟩ :=
              exists_of_leadingLiteral? hu
            refine ⟨⟨done, gap, lead, q, content, rest⟩, by rw [ht]; rfl,
              ⟨?_, fun p hp => ?_, hgap, hlead, hliteral⟩, rfl⟩
            · exact eq_outside_of_outer houter
            · rw [Option.mem_def.1 hp] at halone
              simp only [Option.any_some, hdot, Bool.not_eq_true', Bool.or_eq_false_iff,
                Bool.and_eq_false_iff, beq_eq_false_iff_ne, Bool.not_eq_false'] at halone
              exact ⟨halone.1, fun heq => halone.2.resolve_left fun hne => hne heq⟩
          · cases h
        · exact hlater h
      · exact hlater h

/-- **What is found of a line is the content of literals that begin the arguments of calls.** -/
theorem exists_of_mem_quotedArgs {line name a : Text} {allowDot : Bool}
    (h : a ∈ quotedArgs line name allowDot) :
    ∃ c : LiteralCall, c.print name = line ∧ c.IsOf allowDot ∧ a = unescape c.content := by
  rw [quotedArgs] at h
  split at h
  · cases h
  · have hfrom : a ∈ quotedArgsFrom name allowDot ([] : Text).getLast?
        (QuoteState.outside.run []) 0 line := h
    exact exists_of_mem_quotedArgsFrom hfrom


/-! ## Calls on a longer line -/

theorem dropWhile_blanks {blanks : Text} (h : ∀ b ∈ blanks, isBlank b = true) {c : UInt8}
    (hc : isBlank c = false) (t : Text) : (blanks ++ c :: t).dropWhile isBlank = c :: t := by
  rw [List.dropWhile_append_of_pos h, List.dropWhile_cons_of_neg (by simp [hc])]

theorem leadingLiteral?_of_lead {lead blanks : Text} (hblanks : ∀ b ∈ blanks, isBlank b = true)
    (hlead : lead = blanks ∨ lead = blanks ++ [38]) {q : UInt8} {content : Text}
    (h : IsLiteral q content) (rest : Text) :
    leadingLiteral? (lead ++ q :: (content ++ q :: rest)) = some (unescape content) := by
  have hamp : '&'.toUInt8 = 38 := rfl
  have hblank : isBlank q = false ∧ q ≠ 38 := by
    have hq := h.1
    simp only [isQuote, Bool.or_eq_true, beq_iff_eq] at hq
    rcases hq with rfl | rfl <;> decide
  rw [leadingLiteral?]
  rcases hlead with rfl | rfl
  · rw [dropWhile_blanks hblanks hblank.1]
    simp [hamp, hblank.2, h.1, h.closeLiteral?]
  · rw [List.append_assoc, List.singleton_append, dropWhile_blanks hblanks rfl]
    simp [hamp, h.1, h.closeLiteral?]

theorem firstQuotedArg?_of_gap {gap : Text} (hgap : ∀ b ∈ gap, isBlank b = true) (t : Text) :
    firstQuotedArg? (gap ++ 40 :: t) = leadingLiteral? t := by
  rw [firstQuotedArg?, dropWhile_blanks hgap rfl]
  rfl

theorem firstQuotedArg?_of_head {c : UInt8} (hblank : isBlank c = false) (hc : c ≠ 40) (t : Text) :
    firstQuotedArg? (c :: t) = none := by
  have hopen : '('.toUInt8 = 40 := rfl
  rw [firstQuotedArg?, List.dropWhile_cons_of_neg (by simp [hblank])]
  simp [hopen, hc]

/-- What follows the literal does not matter. -/
theorem firstQuotedArg?_append {s a : Text} (h : firstQuotedArg? s = some a) (t : Text) :
    firstQuotedArg? (s ++ t) = some a := by
  obtain ⟨gap, u, rfl, hgap, hu⟩ := exists_of_firstQuotedArg? h
  obtain ⟨lead, q, content, rest, rfl, ⟨blanks, hblanks, hlead⟩, hliteral, rfl⟩ :=
    exists_of_leadingLiteral? hu
  have hread := leadingLiteral?_of_lead hblanks hlead hliteral (rest ++ t)
  rw [List.append_assoc, List.cons_append, firstQuotedArg?_of_gap hgap]
  simpa using hread

theorem isLiteral_escape (s : Text) : IsLiteral 34 (escape s) :=
  ⟨rfl, closeLiteral?_escape s []⟩

theorem firstQuotedArg?_literal (s t : Text) :
    firstQuotedArg? (40 :: (literal s ++ t)) = some s := by
  have hblank : ∀ b ∈ ([] : Text), isBlank b = true := by simp
  have hlead : leadingLiteral? ([] ++ 34 :: (escape s ++ 34 :: t)) = some (unescape (escape s)) :=
    leadingLiteral?_of_lead hblank (.inl rfl) (isLiteral_escape s) t
  have hliteral : literal s ++ t = 34 :: (escape s ++ 34 :: t) := by
    rw [literal_eq, List.cons_append, List.append_assoc]
    rfl
  rw [List.nil_append, unescape_escape, ← hliteral] at hlead
  exact (firstQuotedArg?_of_gap hblank (literal s ++ t)).trans hlead

section

variable {name : Text} {allowDot : Bool}

/-- Of what stands before a call, only the last byte matters, and only to a name right behind it. -/
theorem quotedArgsFrom_previous {p : Option UInt8}
    (hp : ∀ d ∈ p, isIdent d = false ∧ (d = 46 → allowDot = true)) (st : QuoteState) (t : Text) :
    quotedArgsFrom name allowDot p st 0 t = quotedArgsFrom name allowDot none st 0 t := by
  have hdot : '.'.toUInt8 = 46 := rfl
  have hany : (p.any fun d => isIdent d || (d == '.' && !allowDot)) = false := by
    cases p with
    | none => rfl
    | some d =>
      obtain ⟨hident, hallow⟩ := hp d rfl
      by_cases hd : d = 46
      · simp [hident, hallow hd]
      · simp [hident, hdot, hd]
  cases t with
  | nil => rfl
  | cons c t => simp [quotedArgsFrom, hany]

/-- The calls behind a text whose last byte is none of the name are found, and perhaps some that
begin in the text. -/
theorem quotedArgsFrom_append {p : Option UInt8} {st : QuoteState} {skip : Nat} {u : Text}
    (hlast : ∀ d ∈ u.getLast?, d ∉ name) (hskip : skip ≤ u.length) (t : Text) :
    ∃ found, quotedArgsFrom name allowDot p st skip (u ++ t) =
        found ++ quotedArgsFrom name allowDot (u.getLast?.or p) (st.run u) 0 t ∧
      ((∀ a b, u = a ++ (name ++ b) → firstQuotedArg? (b ++ t) = none) → found = []) := by
  induction u generalizing p st skip with
  | nil =>
    obtain rfl : skip = 0 := Nat.le_zero.1 hskip
    exact ⟨[], rfl, fun _ => rfl⟩
  | cons x u ih =>
    have hor : (x :: u).getLast?.or p = u.getLast?.or (some x) := by
      cases u <;> simp [List.getLast?_cons]
    have hrun : st.run (x :: u) = (st.step x).run u := rfl
    have htail : ∀ d ∈ u.getLast?, d ∉ name := by
      intro d hd
      refine hlast d ?_
      rw [List.getLast?_cons, Option.mem_def.1 hd]
      rfl
    have hbehind {found : List Text}
        (h : (∀ a b, u = a ++ (name ++ b) → firstQuotedArg? (b ++ t) = none) → found = []) :
        (∀ a b, x :: u = a ++ (name ++ b) → firstQuotedArg? (b ++ t) = none) → found = [] :=
      fun hnone => h fun a b hu => hnone (x :: a) b (by rw [hu]; rfl)
    rw [List.cons_append, hor, hrun]
    cases skip with
    | succ n =>
      have hn : n ≤ u.length := by
        rw [List.length_cons] at hskip
        omega
      obtain ⟨found, hfound, hnone⟩ := @ih (some x) (st.step x) n htail hn
      exact ⟨found, by rw [quotedArgsFrom, hfound], hbehind hnone⟩
    | zero =>
      rw [quotedArgsFrom]
      split
      · rename_i hstart
        -- The name ends before the last byte of the text, which is none of its bytes.
        obtain ⟨b, hb⟩ : ∃ b, x :: u = name ++ b := by
          rw [← List.cons_append] at hstart
          refine (startsWith_append_cases hstart).resolve_right ?_
          rintro ⟨a, ha⟩
          obtain ⟨v, d, hv⟩ := (List.eq_nil_or_concat (x :: u)).resolve_left (by simp)
          refine hlast d (by rw [hv]; simp) ?_
          rw [ha, hv]
          simp
        have hlength : name.length - 1 ≤ u.length := by
          have := congrArg List.length hb
          rw [List.length_cons, List.length_append] at this
          omega
        obtain ⟨found, hfound, hnone⟩ :=
          @ih (some x) (st.step x) (name.length - 1) htail hlength
        refine ⟨_, by rw [hfound, ← List.append_assoc], fun hno => ?_⟩
        have hhere : firstQuotedArg? ((x :: (u ++ t)).drop name.length) = none := by
          rw [← List.cons_append, hb, List.append_assoc, List.drop_left]
          exact hno [] b hb
        rw [hhere, hbehind hnone hno]
        split <;> rfl
      · obtain ⟨found, hfound, hnone⟩ :=
          @ih (some x) (st.step x) 0 htail (Nat.zero_le _)
        exact ⟨found, hfound, hbehind hnone⟩

/-- The same for a whole line: a text that closes its literals and ends in no byte of the name
leaves what is found behind it as it is. -/
theorem quotedArgs_append {u : Text} (hrun : QuoteState.outside.run u = .outside)
    (hlast : ∀ d ∈ u.getLast?, d ∉ name ∧ isIdent d = false ∧ (d = 46 → allowDot = true))
    (t : Text) :
    ∃ found, quotedArgs (u ++ t) name allowDot = found ++ quotedArgs t name allowDot ∧
      ((∀ a b, u = a ++ (name ++ b) → firstQuotedArg? (b ++ t) = none) → found = []) := by
  obtain ⟨found, hfound, hnone⟩ := @quotedArgsFrom_append name allowDot none .outside 0 u
    (fun d hd => (hlast d hd).1) (Nat.zero_le _) t
  by_cases hname : name.isEmpty = true
  · exact ⟨[], by rw [quotedArgs, quotedArgs, if_pos hname, if_pos hname]; rfl, fun _ => rfl⟩
  · refine ⟨found, ?_, hnone⟩
    rw [quotedArgs, quotedArgs, if_neg hname, if_neg hname, hfound, hrun, Option.or_none,
      quotedArgsFrom_previous fun d hd => (hlast d hd).2]

theorem quotedArgsFrom_of_length_lt {p : Option UInt8} {st : QuoteState} {skip : Nat} {s : Text}
    (h : s.length < name.length) : quotedArgsFrom name allowDot p st skip s = [] := by
  induction s generalizing p st skip with
  | nil => cases skip <;> rfl
  | cons c s ih =>
    have hs : s.length < name.length := by
      rw [List.length_cons] at h
      omega
    cases skip with
    | succ n => exact ih hs
    | zero =>
      have hmiss : startsWith (c :: s) name = false := by
        refine Bool.eq_false_iff.2 fun hstart => ?_
        obtain ⟨t, ht⟩ := startsWith_iff.1 hstart
        rw [ht, List.length_append] at h
        omega
      rw [quotedArgsFrom, hmiss, if_neg (by simp), ih hs]

/-- What is found on a line is found whatever else follows on it. -/
theorem mem_quotedArgsFrom_append {p : Option UInt8} {st : QuoteState} {skip : Nat} {s a : Text}
    (h : a ∈ quotedArgsFrom name allowDot p st skip s) (t : Text) :
    a ∈ quotedArgsFrom name allowDot p st skip (s ++ t) := by
  induction s generalizing p st skip with
  | nil => cases skip <;> cases h
  | cons c s ih =>
    cases skip with
    | succ n => exact ih h
    | zero =>
      rw [List.cons_append, quotedArgsFrom]
      rw [quotedArgsFrom] at h
      by_cases hstart : startsWith (c :: s) name = true
      · obtain ⟨r, hr⟩ := startsWith_iff.1 hstart
        have hlong : startsWith (c :: (s ++ t)) name = true :=
          startsWith_iff.2 ⟨r ++ t, by rw [← List.cons_append, hr, List.append_assoc]⟩
        rw [if_pos hstart] at h
        rw [if_pos hlong]
        rcases List.mem_append.1 h with h | h
        · refine List.mem_append_left _ ?_
          split at h
          · rename_i halone
            rw [if_pos halone, Option.mem_toList] at *
            rw [hr, List.drop_left] at h
            rw [← List.cons_append, hr, List.append_assoc, List.drop_left]
            exact firstQuotedArg?_append h t
          · cases h
        · exact List.mem_append_right _ (ih h)
      · rw [if_neg hstart] at h
        have hrest := ih h
        split
        · -- A name that ends behind the text leaves no room for another one in the text.
          rename_i hlong
          rw [← List.cons_append] at hlong
          rcases startsWith_append_cases hlong with ⟨b, hb⟩ | ⟨a, ha⟩
          · exact absurd (startsWith_iff.2 ⟨b, hb⟩) hstart
          · have hlength : s.length < name.length := by
              rw [ha, List.length_append, List.length_cons]
              omega
            rw [quotedArgsFrom_of_length_lt hlength] at h
            cases h
        · exact hrest

theorem mem_quotedArgs_append {s a : Text} (h : a ∈ quotedArgs s name allowDot) (t : Text) :
    a ∈ quotedArgs (s ++ t) name allowDot := by
  rw [quotedArgs] at h ⊢
  split at h
  · cases h
  · rename_i hname
    rw [if_neg hname]
    exact mem_quotedArgsFrom_append h t

end

end GodotSurvey.Lexing
