import GodotSurvey.Proofs.Lexing.Balance
import GodotSurvey.Proofs.Text.Search

/-!
# Delimiters and operators on a line

What the scanners of a line find behind a text that does not hold what they look for: a delimiter,
the colon of a type, an assignment. The texts passed over are names and types, which hold neither
quotes nor operators; what stands behind the operator may be anything.

* `findUnquoted?_append`, `findTypeColon?_append` — the first delimiter, the first type colon.
* `findAssignment?_plain`, `findAssignment?_inferring` — **the assignment that was written is
  found.**
-/

namespace GodotSurvey.Lexing

open Text

/-! ## Delimiters -/

theorem findUnquotedFrom_add (delim : Text) (st : QuoteState) (i k : Nat) (s : Text) :
    findUnquotedFrom delim st (i + k) s = (findUnquotedFrom delim st i s).map (· + k) := by
  induction s generalizing st i with
  | nil => rfl
  | cons c s ih =>
    rw [findUnquotedFrom, findUnquotedFrom, Nat.add_right_comm, ih]
    split <;> rfl

theorem findUnquoted?_cons (d : UInt8) (delim s : Text) :
    findUnquoted? s (d :: delim) = findUnquotedFrom (d :: delim) .outside 0 s := by
  simp [findUnquoted?]

/-- What is found stands there, outside literals. -/
theorem exists_of_findUnquotedFrom {delim s : Text} {st : QuoteState} {i j : Nat}
    (h : findUnquotedFrom delim st i s = some j) :
    ∃ u t, s = u ++ (delim ++ t) ∧ j = i + u.length ∧ st.run u = .outside := by
  induction s generalizing st i with
  | nil => cases h
  | cons c s ih =>
    rw [findUnquotedFrom] at h
    split at h
    · rename_i hstart
      obtain ⟨houter, hstart⟩ := Bool.and_eq_true_iff.1 hstart
      obtain ⟨t, ht⟩ := startsWith_iff.1 hstart
      exact ⟨[], t, ht, by simpa using h.symm, eq_outside_of_outer houter⟩
    · obtain ⟨u, t, rfl, rfl, hrun⟩ := ih h
      exact ⟨c :: u, t, rfl, by rw [List.length_cons]; omega, hrun⟩

/-- A delimiter whose first byte is not seen does not occur. -/
theorem findUnquoted?_eq_none {d : UInt8} {s : Text} (h : d ∉ outerBytes .outside s)
    (delim : Text) : findUnquoted? s (d :: delim) = none := by
  rw [findUnquoted?_cons, ← List.append_nil s, findUnquotedFrom_append h]
  rfl

/-- A delimiter of one byte is found behind a text that closes its literals and does not show it. -/
theorem findUnquoted?_append {d : UInt8} (hd : isQuote d = false) {s seen : Text}
    (hs : Shows s seen) (h : d ∉ seen) (t : Text) :
    findUnquoted? (s ++ d :: t) [d] = some s.length := by
  have hstart : startsWith (d :: t) [d] = true := by simp [startsWith, List.isPrefixOf]
  rw [findUnquoted?_cons, findUnquotedFrom_append (by rwa [hs.seen]), hs.run, findUnquotedFrom,
    outer_outside hd, hstart, Nat.zero_add]
  rfl

/-- What does not hold the last byte of a delimiter cannot complete one. -/
theorem findUnquotedFrom_append_right {e : UInt8} {w : Text} (h : e ∉ w) (delim : Text)
    (st : QuoteState) (i : Nat) (s : Text) :
    findUnquotedFrom (delim ++ [e]) st i (s ++ w) = findUnquotedFrom (delim ++ [e]) st i s := by
  induction s generalizing st i with
  | nil =>
    rw [List.nil_append, findUnquotedFrom]
    induction w generalizing st i with
    | nil => rfl
    | cons c w ih =>
      have hmiss : startsWith (c :: w) (delim ++ [e]) = false := by
        rw [← List.nil_append (c :: w), startsWith_append_right h]
        cases delim <;> rfl
      rw [findUnquotedFrom, hmiss, Bool.and_false, if_neg (by simp),
        ih fun hmem => h (List.mem_cons_of_mem c hmem)]
  | cons c s ih =>
    have hsame := startsWith_append_right h delim (c :: s)
    rw [List.cons_append] at hsame
    rw [List.cons_append, findUnquotedFrom, findUnquotedFrom, hsame, ih]

/-- What is found in a text is found if more follows. -/
theorem findUnquotedFrom_append_some {delim s : Text} {st : QuoteState} {i j : Nat}
    (h : findUnquotedFrom delim st i s = some j) (t : Text) :
    findUnquotedFrom delim st i (s ++ t) = some j := by
  induction s generalizing st i with
  | nil => cases h
  | cons c s ih =>
    have hstart : startsWith (c :: (s ++ t)) delim = startsWith (c :: s) delim := by
      obtain ⟨u, r, hs, -⟩ := exists_of_findUnquotedFrom h
      have hlength : delim.length ≤ (c :: s).length := by
        rw [hs, List.length_append, List.length_append]
        omega
      have hprefix := List.prefix_append (c :: s) t
      rw [Bool.eq_iff_iff, startsWith, startsWith, List.isPrefixOf_iff_prefix,
        List.isPrefixOf_iff_prefix]
      exact ⟨fun h => List.prefix_of_prefix_length_le h hprefix hlength, fun h => h.trans hprefix⟩
    rw [findUnquotedFrom] at h
    rw [List.cons_append, findUnquotedFrom, hstart]
    split at h
    · rename_i hhit
      rw [if_pos hhit, h]
    · rename_i hmiss
      rw [if_neg hmiss, ih h]

/-- Behind a text in which no delimiter occurs, also not with its last byte from behind it, the next
one is found. -/
theorem findUnquotedFrom_border {d : UInt8} (hd : isQuote d = false) {mid : Text} (hmid : d ∉ mid)
    {st : QuoteState} {s : Text} (hrun : st.run s = .outside) {i : Nat}
    (hs : findUnquotedFrom (d :: (mid ++ [d])) st i (s ++ [d]) = none) (t : Text) :
    findUnquotedFrom (d :: (mid ++ [d])) st i (s ++ (d :: (mid ++ [d]) ++ t)) =
      some (i + s.length) := by
  induction s generalizing st i with
  | nil =>
    have hrun : st = .outside := hrun
    have hstart : startsWith (d :: (mid ++ [d] ++ t)) (d :: (mid ++ [d])) = true :=
      startsWith_iff.2 ⟨t, by simp⟩
    rw [List.nil_append, List.cons_append, findUnquotedFrom, hrun, outer_outside hd, hstart]
    rfl
  | cons c s ih =>
    have hsame := startsWith_border hmid (List.cons_ne_nil c s) (mid ++ [d] ++ t)
    rw [List.cons_append, List.cons_append] at hsame
    rw [List.cons_append, findUnquotedFrom] at hs
    rw [List.cons_append, findUnquotedFrom, List.cons_append, hsame]
    split at hs
    · cases hs
    · rename_i hmiss
      have hrest := ih hrun hs
      rw [List.cons_append] at hrest
      rw [if_neg hmiss, hrest, List.length_cons]
      congr 1
      omega

/-! ## Type colons -/

theorem findTypeColonFrom_append {st : QuoteState} {s : Text} (h : 58 ∉ outerBytes st s) (i : Nat)
    (t : Text) :
    findTypeColonFrom st i (s ++ t) = findTypeColonFrom (st.run s) (i + s.length) t := by
  induction s generalizing st i with
  | nil => rfl
  | cons c s ih =>
    have hcolon : ':'.toUInt8 = 58 := rfl
    have hrun : st.run (c :: s) = (st.step c).run s := rfl
    obtain ⟨hc, hs⟩ := not_mem_outerBytes_cons h
    rw [List.cons_append, findTypeColonFrom, hcolon, hc, Bool.false_and, if_neg (by simp), ih hs,
      hrun, List.length_cons, Nat.add_right_comm, Nat.add_assoc]

theorem findTypeColon?_eq_none {s : Text} (h : 58 ∉ outerBytes .outside s) :
    findTypeColon? s = none := by
  rw [findTypeColon?, ← List.append_nil s, findTypeColonFrom_append h]
  rfl

/-- The colon of a type is found behind a name. -/
theorem findTypeColon?_append {s seen : Text} (hs : Shows s seen) (h : 58 ∉ seen) {c : UInt8}
    (hc : c ≠ 61) (t : Text) : findTypeColon? (s ++ 58 :: c :: t) = some s.length := by
  have hfirst (i : Nat) : findTypeColonFrom .outside i (58 :: c :: t) = some i := by
    have hseen : (QuoteState.outside.outer 58 && (58 : UInt8) == ':') = true := rfl
    have hequals : '='.toUInt8 = 61 := rfl
    rw [findTypeColonFrom, hseen, List.head?_cons, Bool.true_and]
    exact if_pos (by simpa [hequals] using hc)
  rw [findTypeColon?, findTypeColonFrom_append (by rwa [hs.seen]), hs.run, hfirst, Nat.zero_add]

/-! ## Assignments -/

/-- Without an equals sign there is no `:=`. -/
theorem findUnquotedFrom_walrus {st : QuoteState} {s t : Text} (h : 61 ∉ outerBytes st s)
    (ht : t.head? ≠ some 61) (i : Nat) :
    findUnquotedFrom [58, 61] st i (s ++ t) =
      findUnquotedFrom [58, 61] (st.run s) (i + s.length) t := by
  induction s generalizing st i with
  | nil => rfl
  | cons d s ih =>
    have hrun : st.run (d :: s) = (st.step d).run s := rfl
    obtain ⟨-, hs⟩ := not_mem_outerBytes_cons h
    have hmiss : (st.outer d && startsWith (d :: (s ++ t)) [58, 61]) = false := by
      cases s with
      | nil =>
        cases t with
        | nil => simp [startsWith, List.isPrefixOf]
        | cons c t =>
          have hc : c ≠ 61 := by simpa using ht
          simp [startsWith, List.isPrefixOf, Ne.symm hc]
      | cons e s =>
        rw [Bool.and_eq_false_iff]
        by_cases hd : d = 58
        · -- Behind a colon that is seen, an equals sign is seen as well.
          rw [hd] at hs ⊢
          cases st with
          | inside q escaped => exact .inl rfl
          | outside =>
            have he := (not_mem_outerBytes_cons hs).1
            rw [step_outside rfl] at he
            refine .inr ?_
            by_cases hequals : e = 61
            · rw [hequals] at he
              cases he
            · simp [startsWith, List.isPrefixOf, Ne.symm hequals]
        · exact .inr (by simp [startsWith, List.isPrefixOf, Ne.symm hd])
    rw [List.cons_append, findUnquotedFrom, hmiss, if_neg (by simp), ih hs, hrun,
      List.length_cons, Nat.add_right_comm, Nat.add_assoc]

theorem findPlainAssignmentFrom_append {st : QuoteState} {s : Text} (h : 61 ∉ outerBytes st s)
    (p : Option UInt8) (i : Nat) (t : Text) :
    findPlainAssignmentFrom p st i (s ++ t) =
      findPlainAssignmentFrom (s.getLast?.or p) (st.run s) (i + s.length) t := by
  induction s generalizing st p i with
  | nil => rfl
  | cons c s ih =>
    have hequals : '='.toUInt8 = 61 := rfl
    have hlast : (c :: s).getLast?.or p = s.getLast?.or (some c) := by
      cases s <;> simp [List.getLast?_cons]
    have hrun : st.run (c :: s) = (st.step c).run s := rfl
    obtain ⟨hc, hs⟩ := not_mem_outerBytes_cons h
    rw [List.cons_append, findPlainAssignmentFrom, hequals, hc, Bool.false_and, Bool.false_and,
      if_neg (by simp), ih hs, hlast, hrun, List.length_cons, Nat.add_right_comm, Nat.add_assoc]

theorem findAssignment?_eq_none {s : Text} (h : 61 ∉ outerBytes .outside s) :
    findAssignment? s = none := by
  have hwalrus : Text.ofString ":=" = [58, 61] := by decide
  have hfind : findUnquoted? s ":=" = none := by
    rw [hwalrus, findUnquoted?_cons, ← List.append_nil s, findUnquotedFrom_walrus h (by simp)]
    rfl
  rw [findAssignment?, hfind]
  rw [← List.append_nil s, findPlainAssignmentFrom_append h]
  rfl

/-- The assignment behind a text that shows no equals sign, with blanks around it. -/
theorem findAssignment?_plain {s seen : Text} (hs : Shows s seen) (h : 61 ∉ seen) {t : Text}
    (ht : findUnquoted? t ":=" = none) :
    findAssignment? (s ++ " = " ++ t) = some ⟨s.length + 1, false⟩ := by
  have hwalrus : Text.ofString ":=" = [58, 61] := by decide
  have hequals : Text.ofString " = " = [32, 61, 32] := by decide
  have hnone : findUnquoted? (s ++ " = " ++ t) ":=" = none := by
    rw [hwalrus, findUnquoted?_cons] at ht ⊢
    have hpass : (58 : UInt8) ∉ outerBytes .outside [32, 61, 32] := by decide
    have hrun : QuoteState.outside.run [32, 61, 32] = .outside := rfl
    rw [List.append_assoc, hequals, findUnquotedFrom_walrus (by rwa [hs.seen]) (by simp), hs.run,
      findUnquotedFrom_append hpass, hrun, findUnquotedFrom_add, findUnquotedFrom_add, ht]
    rfl
  have hblank : (61 : UInt8) ∉ outerBytes .outside (s ++ [32]) := by
    rw [outerBytes_append, hs.seen, hs.run, List.mem_append, not_or]
    exact ⟨h, by decide⟩
  have hlast : (s ++ [32]).getLast?.or none = some 32 := by rw [List.getLast?_concat]; rfl
  have hrun : QuoteState.outside.run (s ++ [32]) = .outside := by
    rw [run_append, hs.run]
    rfl
  have hhere (i : Nat) :
      findPlainAssignmentFrom (some 32) .outside i ([61, 32] ++ t) = some i := rfl
  have hsplit : s ++ Text.ofString " = " ++ t = s ++ [32] ++ ([61, 32] ++ t) := by
    rw [hequals]
    simp
  rw [findAssignment?, hnone]
  simp only []
  rw [hsplit, findPlainAssignmentFrom_append hblank, hlast, hrun, hhere]
  simp

/-- The same for an assignment that infers a type; what is assigned does not matter. -/
theorem findAssignment?_inferring {s seen : Text} (hs : Shows s seen) (h : 61 ∉ seen) (t : Text) :
    findAssignment? (s ++ " := " ++ t) = some ⟨s.length + 1, true⟩ := by
  have hwalrus : Text.ofString ":=" = [58, 61] := by decide
  have hassign : Text.ofString " := " = [32, 58, 61, 32] := by decide
  have hhere (i : Nat) :
      findUnquotedFrom [58, 61] .outside i ([32, 58, 61, 32] ++ t) = some (i + 1) := rfl
  have hfind : findUnquoted? (s ++ " := " ++ t) ":=" = some (s.length + 1) := by
    rw [hwalrus, findUnquoted?_cons, List.append_assoc, hassign,
      findUnquotedFrom_walrus (by rwa [hs.seen]) (by simp), hs.run, hhere, Nat.zero_add]
  rw [findAssignment?, hfind]

theorem exists_of_findPlainAssignmentFrom {p : Option UInt8} {st : QuoteState} {s : Text}
    {i j : Nat} (h : findPlainAssignmentFrom p st i s = some j) :
    ∃ u t, s = u ++ 61 :: t ∧ j = i + u.length := by
  induction s generalizing p st i with
  | nil => cases h
  | cons c s ih =>
    rw [findPlainAssignmentFrom] at h
    split at h
    · rename_i hhit
      simp only [Bool.and_eq_true, beq_iff_eq] at hhit
      exact ⟨[], s, by rw [hhit.1.1.2]; rfl, by simpa using h.symm⟩
    · obtain ⟨u, t, rfl, rfl⟩ := ih h
      exact ⟨c :: u, t, rfl, by rw [List.length_cons]; omega⟩

/-- An assignment ends in an equals sign. -/
theorem exists_of_findAssignment? {s : Text} {a : Assignment} (h : findAssignment? s = some a) :
    ∃ u t, s = u ++ 61 :: t ∧ a.index + a.width = u.length + 1 := by
  have hwalrus : Text.ofString ":=" = [58, 61] := by decide
  rw [findAssignment?] at h
  cases hfind : findUnquoted? s ":=" with
  | some i =>
    rw [hfind] at h
    obtain rfl := Option.some.inj h
    rw [hwalrus, findUnquoted?_cons] at hfind
    obtain ⟨u, t, rfl, hi, -⟩ := exists_of_findUnquotedFrom hfind
    refine ⟨u ++ [58], t, by simp, ?_⟩
    rw [hi, List.length_append, Nat.zero_add]
    rfl
  | none =>
    rw [hfind] at h
    obtain ⟨i, hplain, rfl⟩ := Option.map_eq_some_iff.1 h
    obtain ⟨u, t, rfl, hi⟩ := exists_of_findPlainAssignmentFrom hplain
    exact ⟨u, t, rfl, by rw [hi, Nat.zero_add]; rfl⟩

/-- What stands before a written assignment and behind it. -/
theorem cut_plain (s t : Text) :
    (s ++ " = " ++ t).take (s.length + 1) = s ++ [32] ∧
      (s ++ " = " ++ t).drop (s.length + 1 + 1) = 32 :: t := by
  have hequals : Text.ofString " = " = [32, 61, 32] := by decide
  rw [List.append_assoc, hequals, Nat.add_assoc, List.take_length_add_append,
    List.drop_length_add_append]
  exact ⟨rfl, rfl⟩

theorem cut_inferring (s t : Text) :
    (s ++ " := " ++ t).take (s.length + 1) = s ++ [32] ∧
      (s ++ " := " ++ t).drop (s.length + 1 + 2) = 32 :: t := by
  have hassign : Text.ofString " := " = [32, 58, 61, 32] := by decide
  rw [List.append_assoc, hassign, Nat.add_assoc, List.take_length_add_append,
    List.drop_length_add_append]
  exact ⟨rfl, rfl⟩

end GodotSurvey.Lexing
