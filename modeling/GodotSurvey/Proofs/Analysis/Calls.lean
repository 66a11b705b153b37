import GodotSurvey.Analysis.Call
import GodotSurvey.Proofs.Lexing.Mask
import GodotSurvey.Proofs.Text.Search
import Mathlib.Data.List.Forall2
import Mathlib.Data.List.TakeWhile

/-!
# Where the calls of a line are found

Calls are looked for in the masked line and cut out of the line itself. What the masked line shows of
a call, its dot, its method and its parenthesis, stands in the line outside literals. The receiver is
found by walking back from the dot over names, groups and literals. Each part it passes over begins
where no literal is open, so the walk ends there too, and what is cut out there looks like the same
piece of the masked line. The arguments are read on from the parenthesis, where no literal is open
either.

* `exists_receiverPart`, `exists_receiver` — where a part of a receiver and the whole of it begin.
* `site?`, `shapeAt?_eq` — the masked line alone tells where a call is.
* `exists_site` — what stands there.
* `shapes_masked` — **lines that look alike have calls that look alike, and every call stands in its
  line as it is reported.**
-/

namespace GodotSurvey.Call

open Text Lexing

/-! ## Walking back over a receiver -/

theorem exists_of_openLength {opener closer : UInt8} {depth n k : Nat} {r : Text}
    (h : openLength opener closer depth n r = some k) :
    ∃ w t, r = w ++ opener :: t ∧ k = n + w.length + 1 := by
  induction r generalizing depth n with
  | nil => cases h
  | cons c r ih =>
    have hlater {depth : Nat} (h : openLength opener closer depth (n + 1) r = some k) :
        ∃ w t, c :: r = w ++ opener :: t ∧ k = n + w.length + 1 := by
      obtain ⟨w, t, rfl, rfl⟩ := ih h
      exact ⟨c :: w, t, rfl, by rw [List.length_cons]; omega⟩
    rw [openLength] at h
    split at h
    · exact hlater h
    · split at h
      · rename_i hopener
        split at h
        · exact ⟨[], r, by rw [beq_iff_eq.1 hopener]; rfl, (Option.some.inj h).symm⟩
        · exact hlater h
      · exact hlater h

/-- A part of a receiver is one byte that is neither a bracket nor a quote, a group up to its opening
bracket, or a literal up to the next equal quote. -/
theorem receiverPart_cases {c : UInt8} {rest : Text} {k : Nat} (h : receiverPart c rest = k + 1) :
    (IsPlain c ∧ k = 0) ∨
      (∃ opener w t, IsPlain opener ∧ c :: rest = w ++ opener :: t ∧ k = w.length) ∨
      ∃ w t, isQuote c = true ∧ c ∉ w ∧ rest = w ++ c :: t ∧ k = w.length + 1 := by
  have hgroup {opener closer : UInt8} (hopener : IsPlain opener)
      (h : (openLength opener closer 0 0 (c :: rest)).getD 0 = k + 1) :
      ∃ opener w t, IsPlain opener ∧ c :: rest = w ++ opener :: t ∧ k = w.length := by
    cases hopen : openLength opener closer 0 0 (c :: rest) with
    | none =>
      rw [hopen] at h
      cases h
    | some n =>
      obtain ⟨w, t, hrest, hn⟩ := exists_of_openLength hopen
      rw [hopen, Option.getD_some] at h
      exact ⟨opener, w, t, hopener, hrest, by omega⟩
  rw [receiverPart] at h
  split at h
  · rename_i hchain
    refine .inl ⟨?_, by omega⟩
    simp only [Bool.or_eq_true, beq_iff_eq] at hchain
    rcases hchain with (((hident | rfl) | rfl) | rfl) | rfl
    · exact isPlain_of_isIdent hident
    all_goals decide
  · split at h
    · exact .inr (.inl (hgroup (by decide) h))
    · split at h
      · exact .inr (.inl (hgroup (by decide) h))
      · split at h
        · rename_i hquote
          refine .inr (.inr ?_)
          cases hfind : findByte? rest c with
          | none =>
            rw [hfind] at h
            cases h
          | some i =>
            obtain ⟨w, t, rfl, rfl, hw⟩ := exists_of_findByte? hfind
            rw [hfind] at h
            exact ⟨w, t, hquote, hw, rfl, by simpa using h.symm⟩
        · cases h

theorem receiverPart_le (c : UInt8) (rest : Text) : receiverPart c rest ≤ rest.length + 1 := by
  cases hpart : receiverPart c rest with
  | zero => exact Nat.zero_le _
  | succ k =>
    rcases receiverPart_cases hpart with ⟨-, rfl⟩ | ⟨opener, w, t, -, hrest, rfl⟩ |
      ⟨w, t, -, -, rfl, rfl⟩
    · omega
    · have hlength := congrArg List.length hrest
      simp only [List.length_cons, List.length_append] at hlength
      omega
    · simp only [List.length_append, List.length_cons]
      omega

/-- A part of a receiver begins where no literal is open. -/
theorem exists_receiverPart {s rest : Text} {c : UInt8} {k : Nat}
    (hrun : QuoteState.outside.run s = .outside) (hmask : (mask s).reverse = c :: rest)
    (hpart : receiverPart c rest = k + 1) :
    ∃ a b, s = a ++ b ∧ QuoteState.outside.run a = .outside ∧ b.length = k + 1 := by
  have hplain {opener : UInt8} (hopener : IsPlain opener) {w t : Text}
      (hsplit : c :: rest = w ++ opener :: t) :
      ∃ a b, s = a ++ b ∧ QuoteState.outside.run a = .outside ∧ b.length = w.length + 1 := by
    have hs : mask s = t.reverse ++ ([opener] ++ w.reverse) := by
      rw [← List.reverse_reverse (mask s), hmask, hsplit]
      simp
    obtain ⟨a, b, rfl, -, ha, hb⟩ :=
      exists_of_mask (fun d hd => List.mem_singleton.1 hd ▸ hopener) (by simp) hs
    refine ⟨a, [opener] ++ b, rfl, ha, ?_⟩
    rw [List.length_append, ← length_mask b, hb, List.length_reverse, Nat.add_comm]
    rfl
  rcases receiverPart_cases hpart with ⟨hc, rfl⟩ | ⟨opener, w, t, hopener, hsplit, rfl⟩ |
    ⟨w, t, hquote, hw, rfl, rfl⟩
  · exact hplain hc (w := []) rfl
  · exact hplain hopener hsplit
  · have hs : mask s = t.reverse ++ (c :: (w.reverse ++ [c])) := by
      rw [← List.reverse_reverse (mask s), hmask]
      simp
    obtain ⟨a, b, rfl, -, ha, hb⟩ :=
      exists_of_mask_literal hquote (fun h => hw (List.mem_reverse.1 h)) hs hrun
    exact ⟨a, b, rfl, ha, by rw [hb, List.length_reverse]⟩

theorem receiverLengthFrom_eq {n : Nat} {r : Text} (h : n ≤ r.length) :
    receiverLengthFrom n r = n + receiverLength (r.drop n) := by
  induction n generalizing r with
  | zero => rw [List.drop_zero, Nat.zero_add, receiverLength]
  | succ n ih =>
    cases r with
    | nil => cases h
    | cons c r =>
      rw [receiverLengthFrom, ih (Nat.le_of_succ_le_succ h), List.drop_succ_cons]
      omega

/-- The walk goes on behind the part it has passed over. -/
theorem receiverLength_cons {c : UInt8} {rest : Text} {k : Nat}
    (hpart : receiverPart c rest = k + 1) :
    receiverLength (c :: rest) = k + 1 + receiverLength (rest.drop k) := by
  have hle := receiverPart_le c rest
  rw [receiverLength, receiverLengthFrom, hpart]
  show receiverLengthFrom k rest + 1 = _
  rw [receiverLengthFrom_eq (by omega)]
  omega

theorem receiverLength_cons_zero {c : UInt8} {rest : Text} (hpart : receiverPart c rest = 0) :
    receiverLength (c :: rest) = 0 := by
  rw [receiverLength, receiverLengthFrom, hpart]

/-- A receiver is no longer than what stands before the dot. -/
theorem receiverLength_le (r : Text) : receiverLength r ≤ r.length := by
  induction hn : r.length using Nat.strongRecOn generalizing r with
  | ind n ih =>
    cases r with
    | nil => exact Nat.zero_le _
    | cons c rest =>
      rw [List.length_cons] at hn
      cases hpart : receiverPart c rest with
      | zero =>
        rw [receiverLength_cons_zero hpart]
        exact Nat.zero_le n
      | succ k =>
        have hle := receiverPart_le c rest
        have hlength : (rest.drop k).length = rest.length - k := List.length_drop
        have hrest := ih (rest.drop k).length (by omega) (rest.drop k) rfl
        rw [receiverLength_cons hpart]
        omega

/-- A receiver begins where no literal is open. -/
theorem exists_receiver {s : Text} (hrun : QuoteState.outside.run s = .outside) :
    ∃ pre receiver, s = pre ++ receiver ∧ QuoteState.outside.run pre = .outside ∧
      receiver.length = receiverLength (mask s).reverse := by
  induction hn : s.length using Nat.strongRecOn generalizing s with
  | ind n ih =>
    have hstop (h : receiverLength (mask s).reverse = 0) :
        ∃ pre receiver, s = pre ++ receiver ∧ QuoteState.outside.run pre = .outside ∧
          receiver.length = receiverLength (mask s).reverse :=
      ⟨s, [], (List.append_nil s).symm, hrun, h.symm⟩
    cases hmask : (mask s).reverse with
    | nil => exact hmask ▸ hstop (by rw [hmask]; rfl)
    | cons c rest =>
      cases hpart : receiverPart c rest with
      | zero => exact hmask ▸ hstop (by rw [hmask, receiverLength_cons_zero hpart])
      | succ k =>
        obtain ⟨a, b, rfl, ha, hb⟩ := exists_receiverPart hrun hmask hpart
        rw [List.length_append] at hn
        obtain ⟨pre, receiver, rfl, hpre, hlength⟩ := ih a.length (by omega) ha rfl
        -- What is left of the reversed masked text is that of what stands before the part.
        have hrest : rest.drop k = (mask (pre ++ receiver)).reverse := by
          have hdrop := congrArg (List.drop (k + 1)) hmask
          rw [mask_append ha, List.reverse_append, List.drop_succ_cons,
            List.drop_left' (by rw [List.length_reverse, length_mask, hb])] at hdrop
          exact hdrop.symm
        refine ⟨pre, receiver ++ b, List.append_assoc _ _ _, hpre, ?_⟩
        rw [receiverLength_cons hpart, hrest, List.length_append, hlength, hb, Nat.add_comm]

/-! ## Where a call is -/

/-- The call whose parenthesis stands behind the masked text, given last byte first: its method, and
the length of its receiver, 0 if it has none. -/
def site? (before : Text) : Option (Text × Nat) :=
  let method := (before.takeWhile isIdent).reverse
  let bare := if keywords.contains method then none else some (method, 0)
  match method with
  | [] => none
  | c :: _ =>
    if isDigit c then none
    else match before.drop method.length with
      | [] => bare
      | d :: r =>
        if d == 46 then if receiverLength r = 0 then none else some (method, receiverLength r)
        else bare

/-- The call at a site, with its parenthesis at index `i`. -/
def cut (code : Text) (i line : Nat) (text : Text) (x : Text × Nat) : Shape where
  receiver := slice code (i - x.1.length - 1 - x.2) (i - x.1.length - 1)
  method := x.1
  args := (inner code i).1
  line := line
  text := text

/-- The dot before a method whose receiver has the given length. -/
def dot (n : Nat) : Text := if n = 0 then [] else [46]

/-- The masked text alone tells where a call is. -/
theorem shapeAt?_eq {code before : Text} (h : before.length ≤ code.length) (line : Nat)
    (text : Text) :
    shapeAt? code before before.length line text =
      (site? before).map (cut code before.length line text) := by
  have hbare (method : Text) :
      (if keywords.contains method then none
        else some (⟨[], method, (inner code before.length).1, line, text⟩ : Shape)) =
      (if keywords.contains method then none else some (method, 0)).map
        (cut code before.length line text) := by
    split
    · rfl
    · rw [Option.map_some, cut, Nat.sub_zero, slice_self]
  rw [shapeAt?, site?]
  dsimp only
  generalize hmethod : (before.takeWhile isIdent).reverse = method
  cases method with
  | nil => rfl
  | cons c m =>
    dsimp only
    split
    · rfl
    · cases hdrop : before.drop (c :: m).length with
      | nil => exact hbare (c :: m)
      | cons d r =>
        have hdot : '.'.toUInt8 = 46 := rfl
        dsimp only
        rw [hdot]
        split
        · -- The receiver that is cut out is empty only if its length is 0.
          have hlength : before.length - (c :: m).length = r.length + 1 := by
            rw [← List.length_drop, hdrop, List.length_cons]
          have hle := receiverLength_le r
          have hslice : (slice code (before.length - (c :: m).length - 1 - receiverLength r)
              (before.length - (c :: m).length - 1)).length = receiverLength r := by
            rw [length_slice (by omega)]
            omega
          by_cases hzero : receiverLength r = 0
          · rw [if_pos hzero, if_pos (by rw [List.isEmpty_iff_length_eq_zero, hslice, hzero])]
            rfl
          · rw [if_neg hzero, if_neg (by rw [List.isEmpty_iff_length_eq_zero, hslice]; exact hzero)]
            rfl
        · exact hbare (c :: m)

/-- What a site tells of the text before the parenthesis. -/
theorem site?_eq_some {before method : Text} {n : Nat} (h : site? before = some (method, n)) :
    (∀ c ∈ method, isIdent c = true) ∧
      ∃ r, before = method.reverse ++ ((dot n).reverse ++ r) ∧ (n ≠ 0 → n = receiverLength r) := by
  have hident : ∀ c ∈ (before.takeWhile isIdent).reverse, isIdent c = true := fun c hc =>
    List.mem_takeWhile_imp (List.mem_reverse.1 hc)
  have hsplit : before = (before.takeWhile isIdent).reverse.reverse ++
      before.drop (before.takeWhile isIdent).reverse.length := by
    have hspan := List.takeWhile_append_dropWhile (p := isIdent) (l := before)
    have hdrop : (before.takeWhile isIdent ++ before.dropWhile isIdent).drop
        (before.takeWhile isIdent).length = before.dropWhile isIdent := List.drop_left
    rw [hspan] at hdrop
    rw [List.reverse_reverse, List.length_reverse, hdrop, hspan]
  rw [site?] at h
  generalize (before.takeWhile isIdent).reverse = name at *
  have hbare {r : Text} (hr : before.drop name.length = r)
      (h : (if keywords.contains name then none else some (name, 0)) = some (method, n)) :
      (∀ c ∈ method, isIdent c = true) ∧
        ∃ r, before = method.reverse ++ ((dot n).reverse ++ r) ∧
          (n ≠ 0 → n = receiverLength r) := by
    split at h
    · cases h
    · cases h
      exact ⟨hident, r, by rw [← hr]; exact hsplit, fun h => absurd rfl h⟩
  cases name with
  | nil => cases h
  | cons c m =>
    dsimp only at h
    split at h
    · cases h
    · cases hdrop : before.drop (c :: m).length with
      | nil =>
        rw [hdrop] at h
        exact hbare hdrop h
      | cons d r =>
        rw [hdrop] at h
        dsimp only at h
        split at h
        · rename_i hd
          obtain rfl : d = 46 := beq_iff_eq.1 hd
          split at h
          · cases h
          · rename_i hzero
            cases h
            refine ⟨hident, r, ?_, fun _ => rfl⟩
            rw [dot, if_neg hzero, hsplit, hdrop]
            rfl
        · exact hbare hdrop h

/-! ## What stands at a site -/

section

variable {code before rest : Text} {x : Text × Nat}

/-- The pieces of a line at a site: what stands before the receiver, the receiver, and what stands
behind the parenthesis. -/
structure IsSite (code before rest : Text) (x : Text × Nat) (pre receiver behind : Text) : Prop where
  code_eq : code = pre ++ (receiver ++ (dot x.2 ++ (x.1 ++ 40 :: behind)))
  front : mask (pre ++ receiver) ++ (dot x.2 ++ x.1) = before.reverse
  back : mask behind = rest
  length : receiver.length = x.2
  run_pre : QuoteState.outside.run pre = .outside
  run_receiver : QuoteState.outside.run (pre ++ receiver) = .outside

theorem isPlain_of_mem_head {n : Nat} {method : Text} (hmethod : ∀ c ∈ method, isIdent c = true) :
    ∀ c ∈ dot n ++ (method ++ [40]), IsPlain c := by
  intro c hc
  rw [List.mem_append, List.mem_append] at hc
  rcases hc with hc | hc | hc
  · rw [dot] at hc
    split at hc
    · cases hc
    · rw [List.mem_singleton.1 hc]
      decide
  · exact isPlain_of_isIdent (hmethod c hc)
  · rw [List.mem_singleton.1 hc]
    decide

/-- A site that the masked line tells is one in the line itself. -/
theorem exists_site (hmask : mask code = before.reverse ++ 40 :: rest) (hsite : site? before = some x) :
    ∃ pre receiver behind, IsSite code before rest x pre receiver behind := by
  obtain ⟨method, n⟩ := x
  obtain ⟨hmethod, r, hbefore, hn⟩ := site?_eq_some hsite
  have hsplit : mask code = r.reverse ++ ((dot n ++ (method ++ [40])) ++ rest) := by
    rw [hmask, hbefore]
    simp
  obtain ⟨a, behind, rfl, ha, hrun, hbehind⟩ :=
    exists_of_mask (isPlain_of_mem_head hmethod) (by simp) hsplit
  have hfront : mask a ++ (dot n ++ method) = before.reverse := by
    rw [ha, hbefore]
    simp
  by_cases hzero : n = 0
  · refine ⟨a, [], behind, ⟨by simp, ?_, hbehind, hzero.symm, hrun, ?_⟩⟩
    · rw [List.append_nil, hfront]
    · rw [List.append_nil, hrun]
  · obtain ⟨pre, receiver, rfl, hpre, hlength⟩ := exists_receiver hrun
    have hr : receiver.length = n := by
      rw [hlength, ha, List.reverse_reverse]
      exact (hn hzero).symm
    exact ⟨pre, receiver, behind, ⟨by simp, hfront, hbehind, hr, hpre, hrun⟩⟩

/-- What is cut out of the line at a site is what stands there. -/
theorem cut_site {pre receiver behind : Text} (h : IsSite code before rest x pre receiver behind)
    (line : Nat) (text : Text) :
    cut code before.length line text x = ⟨receiver, x.1, groupContent behind, line, text⟩ := by
  have hname : (dot x.2 ++ x.1).length = (dot x.2).length + x.1.length := List.length_append
  have hlength : before.length = (pre ++ receiver).length + ((dot x.2).length + x.1.length) := by
    have hcount := congrArg List.length h.front
    rw [List.length_append, length_mask, hname, List.length_reverse] at hcount
    exact hcount.symm
  have hargs : (inner code before.length).1 = groupContent behind := by
    have hcode : code = (pre ++ receiver ++ (dot x.2 ++ x.1)) ++ 40 :: behind := by
      rw [h.code_eq]
      simp
    have hindex : before.length = (pre ++ receiver ++ (dot x.2 ++ x.1)).length := by
      rw [hlength, ← hname, ← List.length_append]
    rw [hcode, hindex, inner_paren]
  have hreceiver :
      slice code (before.length - x.1.length - 1 - x.2) (before.length - x.1.length - 1) = receiver := by
    have hcount := h.length
    by_cases hzero : x.2 = 0
    · rw [hzero, Nat.sub_zero, slice_self]
      exact (List.eq_nil_of_length_eq_zero (hcount.trans hzero)).symm
    · have hdot : (dot x.2).length = 1 := by rw [dot, if_neg hzero]; rfl
      rw [hdot, List.length_append] at hlength
      have hstop : before.length - x.1.length - 1 = pre.length + receiver.length := by omega
      rw [hstop, ← hcount, Nat.add_sub_cancel, h.code_eq, slice_append]
  rw [cut, hreceiver, hargs]

end

/-! ## Lines that look alike -/

/-- Two calls of the same method that look alike. -/
structure SameCall (c d : Shape) : Prop where
  method : c.method = d.method
  hasReceiver : c.receiver = [] ↔ d.receiver = []
  receiver : mask c.receiver = mask d.receiver
  args : mask c.args = mask d.args

/-- The calls at one site of two lines look alike. -/
theorem IsSite.sameCall {code code' before rest pre pre' receiver receiver' behind behind' : Text}
    {x : Text × Nat} (h : IsSite code before rest x pre receiver behind)
    (h' : IsSite code' before rest x pre' receiver' behind') (line line' : Nat) (text text' : Text) :
    SameCall ⟨receiver, x.1, groupContent behind, line, text⟩
      ⟨receiver', x.1, groupContent behind', line', text'⟩ where
  method := rfl
  hasReceiver := by
    have hlength := h.length.trans h'.length.symm
    rw [← List.length_eq_zero_iff, ← List.length_eq_zero_iff, hlength]
  receiver := by
    have hfront := (List.append_inj' (h.front.trans h'.front.symm) rfl).1
    rw [mask_append h.run_pre, mask_append h'.run_pre] at hfront
    refine (List.append_inj' hfront ?_).2
    rw [length_mask, length_mask, h.length, h'.length]
  args := mask_groupContent (h.back.trans h'.back.symm)

section

variable {code code' before rest : Text}

theorem length_le_of_mask (h : mask code = before.reverse ++ rest) : before.length ≤ code.length := by
  rw [← length_mask code, h, List.length_append, List.length_reverse]
  exact Nat.le_add_right _ _

/-- Two lines that look alike have a call at the same sites, and these look alike. -/
theorem shapeAt?_alike (h : mask code = before.reverse ++ 40 :: rest)
    (h' : mask code' = before.reverse ++ 40 :: rest) (line line' : Nat) (text text' : Text) :
    List.Forall₂ SameCall (shapeAt? code before before.length line text).toList
      (shapeAt? code' before before.length line' text').toList := by
  rw [shapeAt?_eq (length_le_of_mask h), shapeAt?_eq (length_le_of_mask h')]
  cases hsite : site? before with
  | none => exact .nil
  | some x =>
    obtain ⟨_, _, _, hx⟩ := exists_site h hsite
    obtain ⟨_, _, _, hx'⟩ := exists_site h' hsite
    rw [Option.map_some, Option.map_some, cut_site hx, cut_site hx']
    exact .cons (hx.sameCall hx' line line' text text') .nil

theorem shapesFrom_alike (h : mask code = before.reverse ++ rest)
    (h' : mask code' = before.reverse ++ rest) (line line' : Nat) (text text' : Text) :
    List.Forall₂ SameCall (shapesFrom code line text before before.length rest)
      (shapesFrom code' line' text' before before.length rest) := by
  induction rest generalizing before with
  | nil => exact .nil
  | cons c rest ih =>
    have hparen : '('.toUInt8 = 40 := rfl
    have hnext {code : Text} (h : mask code = before.reverse ++ c :: rest) :
        mask code = (c :: before).reverse ++ rest := by
      rw [h, List.reverse_cons, List.append_assoc]
      rfl
    have hlater := ih (hnext h) (hnext h')
    rw [shapesFrom, shapesFrom, hparen]
    refine List.rel_append ?_ hlater
    by_cases hc : c = 40
    · subst hc
      exact shapeAt?_alike h h' line line' text text'
    · rw [if_neg (by simpa using hc), if_neg (by simpa using hc)]
      exact .nil

/-! ## Calls in their line -/

/-- The call stands in the line: its receiver, the dot if it has one, its method, its parenthesis and
its arguments, which end at a closing parenthesis or with the line. The dot, the method and the
parenthesis lie outside literals. -/
def StandsIn (code : Text) (c : Shape) : Prop :=
  ∃ pre rest, code = pre ++ (c.receiver ++ (onlyIf (!c.receiver.isEmpty) "." ++
      (c.method ++ ("(" ++ (c.args ++ rest))))) ∧
    (∀ d ∈ rest.head?, d = ')') ∧
    ∀ k, pre.length + c.receiver.length ≤ k →
      k < pre.length + c.receiver.length + (onlyIf (!c.receiver.isEmpty) ".").length +
        c.method.length + 1 → (outside code)[k]? = some true

theorem outsideFrom_append (st : QuoteState) (s t : Text) :
    outsideFrom st (s ++ t) = outsideFrom st s ++ outsideFrom (st.run s) t := by
  induction s generalizing st with
  | nil => rfl
  | cons c s ih =>
    rw [List.cons_append, outsideFrom, ih]
    rfl

theorem length_outsideFrom (st : QuoteState) (s : Text) : (outsideFrom st s).length = s.length := by
  induction s generalizing st with
  | nil => rfl
  | cons c s ih => rw [outsideFrom, List.length_cons, ih, List.length_cons]

theorem outsideFrom_of_isPlain {s : Text} (hs : ∀ c ∈ s, IsPlain c) :
    outsideFrom .outside s = List.replicate s.length true := by
  induction s with
  | nil => rfl
  | cons c s ih =>
    have hc := hs c List.mem_cons_self
    rw [outsideFrom, step_of_isPlain hc, outer_outside hc.2,
      ih fun d hd => hs d (List.mem_cons_of_mem c hd)]
    rfl

theorem IsSite.standsIn {x : Text × Nat} {pre receiver behind : Text}
    (h : IsSite code before rest x pre receiver behind) (hmethod : ∀ c ∈ x.1, isIdent c = true)
    (line : Nat) (text : Text) :
    StandsIn code ⟨receiver, x.1, groupContent behind, line, text⟩ := by
  obtain ⟨tail, htail, hclosed⟩ := exists_groupContent behind
  have hdot : onlyIf (!receiver.isEmpty) "." = dot x.2 := by
    rw [dot, ← h.length]
    cases receiver with
    | nil => rfl
    | cons c r => rfl
  have hparen : Text.ofString "(" = [40] := by decide
  refine ⟨pre, tail, ?_, hclosed, ?_⟩
  · show code = pre ++ (receiver ++ (onlyIf (!receiver.isEmpty) "." ++
      (x.1 ++ ("(" ++ (groupContent behind ++ tail)))))
    rw [← htail, hdot, hparen, h.code_eq]
    rfl
  · intro k hfrom hto
    change pre.length + receiver.length ≤ k at hfrom
    change k < pre.length + receiver.length + (onlyIf (!receiver.isEmpty) ".").length +
      x.1.length + 1 at hto
    rw [hdot] at hto
    have hcode : code = (pre ++ receiver) ++ ((dot x.2 ++ (x.1 ++ [40])) ++ behind) := by
      rw [h.code_eq]
      simp
    have hplain := isPlain_of_mem_head (n := x.2) hmethod
    have hfront : (outsideFrom .outside (pre ++ receiver)).length = pre.length + receiver.length := by
      rw [length_outsideFrom, List.length_append]
    have hindex : k - (pre.length + receiver.length) < (dot x.2 ++ (x.1 ++ [40])).length := by
      rw [List.length_append, List.length_append, List.length_singleton]
      omega
    rw [outside, hcode, outsideFrom_append _ (pre ++ receiver), h.run_receiver,
      outsideFrom_append _ (dot x.2 ++ (x.1 ++ [40])), outsideFrom_of_isPlain hplain, List.getElem?_append_right (by rw [hfront]; exact hfrom), hfront,
      List.getElem?_append_left (by rw [List.length_replicate]; exact hindex),
      List.getElem?_replicate, if_pos hindex]

/-- A call that is reported stands in the line. -/
theorem standsIn_of_mem (h : mask code = before.reverse ++ rest) {line : Nat} {text : Text} {c : Shape}
    (hc : c ∈ shapesFrom code line text before before.length rest) : StandsIn code c := by
  induction rest generalizing before with
  | nil => cases hc
  | cons d rest ih =>
    have hparen : '('.toUInt8 = 40 := rfl
    rw [shapesFrom, hparen, List.mem_append] at hc
    rcases hc with hc | hc
    · split at hc
      · rename_i hd
        obtain rfl : d = 40 := beq_iff_eq.1 hd
        rw [shapeAt?_eq (length_le_of_mask h), Option.mem_toList] at hc
        obtain ⟨x, hsite, rfl⟩ := Option.map_eq_some_iff.1 hc
        obtain ⟨pre, receiver, behind, hx⟩ := exists_site h hsite
        rw [cut_site hx]
        exact hx.standsIn (site?_eq_some hsite).1 line text
      · cases hc
    · refine ih ?_ hc
      rw [h, List.reverse_cons, List.append_assoc]
      rfl

end

/-- **What literals and comments hold never decides which calls a line has.** Two lines whose code
looks alike when masked have as many calls, in the same order, of the same methods, with receivers
and arguments that look alike. Every call stands in the code of its line as it is reported, with its
dot, its method and its parenthesis outside literals; the walk over a receiver ends within what stands
before the dot, and a group ends within the line. -/
theorem shapes_masked :
    (∀ s t : Text, mask (stripComment s) = mask (stripComment t) →
      ∀ n k, List.Forall₂ SameCall (shapes s n) (shapes t k)) ∧
    (∀ (s : Text) (n : Nat), ∀ c ∈ shapes s n, StandsIn (stripComment s) c) ∧
    (∀ before, receiverLength before ≤ before.length) ∧
    ∀ code i j, (inner code i).2 = some j → i < j ∧ j < code.length := by
  refine ⟨fun s t h n k => ?_, fun s n c hc => ?_, receiverLength_le, fun _ _ _ => inner_bounds⟩
  · rw [shapes, shapes, ← h]
    exact shapesFrom_alike rfl h.symm n k (trim s) (trim t)
  · have hread : mask (stripComment s) = [].reverse ++ mask (stripComment s) := rfl
    exact standsIn_of_mem hread hc

/-- A call on the result of another, whose argument holds what looks like a call and a comment. -/
theorem shapes_masked_label :
    let s : Text := "\tlabel.text(\"a.b(#)\").hide() # show()"
    let t : Text := "\tlabel.text(\"\\\"x'y \").hide() # \""
    mask (stripComment s) = mask (stripComment t) ∧ (shapes s 1).length = 2 ∧
      List.Forall₂ SameCall (shapes s 1) (shapes t 1) := by
  intro s t
  have halike : mask (stripComment s) = mask (stripComment t) := by decide +kernel
  have hcalls : (shapes s 1).length = 2 := by decide +kernel
  exact ⟨halike, hcalls, shapes_masked.1 s t halike 1 1⟩

end GodotSurvey.Call
