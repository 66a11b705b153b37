import GodotSurvey.Proofs.Analysis.Occurrences
import GodotSurvey.Proofs.Lexing.Mask
import GodotSurvey.Proofs.Text.Distinct
import GodotSurvey.Proofs.Text.Search
import Mathlib.Data.List.TakeWhile

/-!
# Which node paths of a script are reported

Node paths may be quoted, so they are looked for in a line as it is written, and those that begin in a
literal are left out afterwards. A dollar sign that stands right before a quote within a literal
begins a quoted path all the same. That path goes on to the next equal quote, however far it is, and
the reading steps over all that stands in between.

* `IsNamedPath`, `IsQuotedPath` — the two ways to write a node path.
* `Swallows` — a quoted path that begins in a literal reaches over a place of the line.
* `finds_iff` — named paths outside literals are found unless they are swallowed.
* `mem_nodeQueries_ofScript` — **a named path is reported exactly if it stands in a method, outside
  literals and comments, where nothing swallows it.**
* `mem_nodeQueries_of_apart` — a line reports all of its named paths if no dollar sign stands right
  before a quote in its literals.
-/

namespace GodotSurvey.Interaction

open Text Lexing

variable {u v x w t code pre path post : Text}

/-! ## Node paths -/

/-- The bytes that go on with the name in a node path. -/
def continuesPath (c : UInt8) : Bool := isIdent c || c == '/'

/-- A node path in quotes. -/
inductive IsQuotedPath : Text → Prop
  | intro {q : UInt8} {content : Text} (hq : isQuote q = true) (hcontent : q ∉ content) :
      IsQuotedPath ('$' :: q :: (content ++ [q]))

/-- A node path without quotes that is as long as it can be before `rest`. -/
inductive IsNamedPath : Text → Text → Prop
  | intro {c : UInt8} {name rest : Text} (hc : isNameStart c = true)
      (hname : ∀ d ∈ name, continuesPath d = true)
      (hrest : ∀ d ∈ rest.head?, continuesPath d = false) :
      IsNamedPath ('$' :: c :: name) rest

theorem exists_of_quotedLength {q : UInt8} {s : Text} (h : quotedLength q s ≠ 0) :
    ∃ content t, s = q :: (content ++ q :: t) ∧ q ∉ content ∧
      quotedLength q s = content.length + 2 := by
  cases s with
  | nil => exact absurd rfl h
  | cons c rest =>
    rw [quotedLength] at h ⊢
    by_cases hc : (c == q) = true
    · rw [if_pos hc] at h ⊢
      obtain rfl := beq_iff_eq.1 hc
      cases hfind : findByte? rest c with
      | none =>
        rw [hfind] at h
        exact absurd rfl h
      | some i =>
        obtain ⟨content, t, rfl, rfl, hcontent⟩ := exists_of_findByte? hfind
        exact ⟨content, t, rfl, hcontent, rfl⟩
    · rw [if_neg hc] at h
      exact absurd rfl h

theorem nameLength_append {p : UInt8 → Bool} {c : UInt8} (hc : isNameStart c = true) {name : Text}
    (hname : ∀ d ∈ name, p d = true) (hpost : ∀ d ∈ post.head?, p d = false) :
    nameLength p (c :: (name ++ post)) = name.length + 1 := by
  have hspan : (name ++ post).takeWhile p = name := by
    rw [(span_append_of_head hpost name).1, List.takeWhile_eq_self_iff]
    exact hname
  rw [nameLength, if_pos hc, hspan, Nat.add_comm]

theorem exists_of_nameLength {p : UInt8 → Bool} {s : Text} (h : nameLength p s ≠ 0) :
    ∃ c name t, s = c :: (name ++ t) ∧ isNameStart c = true ∧ (∀ d ∈ name, p d = true) ∧
      (∀ d ∈ t.head?, p d = false) ∧ nameLength p s = name.length + 1 := by
  cases s with
  | nil => exact absurd rfl h
  | cons c rest =>
    by_cases hc : isNameStart c = true
    · have hname : ∀ d ∈ rest.takeWhile p, p d = true := fun _ => List.mem_takeWhile_imp
      have hrest : ∀ d ∈ (rest.dropWhile p).head?, p d = false := by
        intro d hd
        have hnot := List.head?_dropWhile_not p rest
        rw [Option.mem_def.1 hd] at hnot
        exact hnot
      have hsplit := List.takeWhile_append_dropWhile (p := p) (l := rest)
      refine ⟨c, _, _, by rw [hsplit], hc, hname, hrest, ?_⟩
      rw [nameLength, if_pos hc, Nat.add_comm]
    · rw [nameLength, if_neg hc] at h
      exact absurd rfl h

theorem plusIfAny_ne_zero {n m : Nat} (h : plusIfAny n m ≠ 0) : m ≠ 0 ∧ plusIfAny n m = n + m := by
  cases m with
  | zero => exact absurd rfl h
  | succ m => exact ⟨Nat.succ_ne_zero m, rfl⟩

/-- A node path is written in one of the two ways. -/
theorem exists_of_nodePath {before : Option UInt8} {s : Text} (h : nodePath before s ≠ 0) :
    ∃ x t, s = x ++ t ∧ (IsQuotedPath x ∨ IsNamedPath x t) ∧ nodePath before s = x.length := by
  have hquoted {q : UInt8} (hq : isQuote q = true) {rest : Text}
      (h : plusIfAny 1 (quotedLength q rest) ≠ 0) :
      ∃ x t, ('$'.toUInt8 :: rest : Text) = x ++ t ∧ (IsQuotedPath x ∨ IsNamedPath x t) ∧
        plusIfAny 1 (quotedLength q rest) = x.length := by
    obtain ⟨hlength, hplus⟩ := plusIfAny_ne_zero h
    obtain ⟨content, t, rfl, hcontent, hlength⟩ := exists_of_quotedLength hlength
    refine ⟨_, t, ?_, .inl (.intro hq hcontent), ?_⟩
    · simp
    · rw [hplus, hlength]
      simp only [List.length_cons, List.length_append, List.length_nil]
      omega
  cases s with
  | nil => exact absurd rfl h
  | cons c rest =>
    rw [nodePath] at h ⊢
    by_cases hc : (c != '$') = true
    · rw [if_pos hc] at h
      exact absurd rfl h
    · rw [if_neg hc] at h ⊢
      obtain rfl : c = '$' := by simpa using hc
      by_cases hdouble : (rest.head? == some '"') = true
      · rw [if_pos hdouble] at h ⊢
        exact hquoted rfl h
      · rw [if_neg hdouble] at h ⊢
        by_cases hsingle : (rest.head? == some '\'') = true
        · rw [if_pos hsingle] at h ⊢
          exact hquoted rfl h
        · rw [if_neg hsingle] at h ⊢
          obtain ⟨hlength, hplus⟩ := plusIfAny_ne_zero h
          obtain ⟨d, name, t, rfl, hd, hname, ht, hlength⟩ := exists_of_nameLength hlength
          refine ⟨'$' :: d :: name, t, rfl, .inr (.intro hd hname ht), ?_⟩
          rw [hplus, hlength, List.length_cons, List.length_cons]
          omega

theorem bounded_nodePath : Bounded nodePath := by
  refine bounded_of_ne_zero fun before s h => ?_
  obtain ⟨x, t, rfl, -, hlength⟩ := exists_of_nodePath h
  rw [hlength, List.length_append]
  exact Nat.le_add_right _ _

theorem IsShape.spelled (h : IsShape nodePath u x t) : IsQuotedPath x ∨ IsNamedPath x t := by
  obtain ⟨y, w, heq, hspelled, hlength⟩ := exists_of_nodePath h.ne_zero
  obtain ⟨rfl, rfl⟩ := List.append_inj heq (by rw [← h.length, hlength])
  exact hspelled

theorem not_isQuote_of_isNameStart {c : UInt8} (hc : isNameStart c = true) : isQuote c = false := by
  refine isQuote_of_isIdent ?_
  simp only [isNameStart, isLetter, isIdent, Bool.or_eq_true] at hc ⊢
  tauto

theorem IsNamedPath.isShape (h : IsNamedPath path post) (u : Text) : IsShape nodePath u path post := by
  obtain @⟨c, name, _, hc, hname, hpost⟩ := h
  have hquote := not_isQuote_of_isNameStart hc
  rw [isQuote, Bool.or_eq_false_iff] at hquote
  have hlength : nameLength (fun d => isIdent d || d == '/') (c :: (name ++ post)) =
      name.length + 1 := nameLength_append hc hname hpost
  have hdouble : ((c :: (name ++ post)).head? == some '"') = false := hquote.1
  have hsingle : ((c :: (name ++ post)).head? == some '\'') = false := hquote.2
  have hpath : nodePath u.getLast? ('$' :: c :: (name ++ post)) = name.length + 2 := by
    rw [nodePath, if_neg (by simp), hdouble, if_neg Bool.false_ne_true, hsingle,
      if_neg Bool.false_ne_true, hlength]
    exact Nat.add_comm 1 _
  exact ⟨List.cons_ne_nil _ _, hpath⟩

theorem quotedLength_append {q : UInt8} {content : Text} (h : q ∉ content) (t : Text) :
    quotedLength q (q :: (content ++ q :: t)) = content.length + 2 := by
  rw [quotedLength, if_pos (beq_self_eq_true q), findByte?_append h]
  rfl

theorem IsQuotedPath.isShape (h : IsQuotedPath x) (u w : Text) : IsShape nodePath u x w := by
  obtain @⟨q, content, hq, hcontent⟩ := h
  have hlength := quotedLength_append hcontent w
  have hpath : nodePath u.getLast? ('$' :: q :: (content ++ q :: w)) = content.length + 3 := by
    rw [nodePath, if_neg (by simp)]
    rw [isQuote, Bool.or_eq_true, beq_iff_eq, beq_iff_eq] at hq
    rcases hq with rfl | rfl
    · have hdouble : (('"'.toUInt8 :: (content ++ '"'.toUInt8 :: w)).head? == some '"') = true := rfl
      rw [hdouble, if_pos rfl, hlength]
      exact Nat.add_comm 1 _
    · have hdouble : (('\''.toUInt8 :: (content ++ '\''.toUInt8 :: w)).head? == some '"') = false :=
        rfl
      have hsingle : (('\''.toUInt8 :: (content ++ '\''.toUInt8 :: w)).head? == some '\'') = true :=
        rfl
      rw [hdouble, if_neg Bool.false_ne_true, hsingle, if_pos rfl, hlength]
      exact Nat.add_comm 1 _
  exact ⟨List.cons_ne_nil _ _, by simpa using hpath⟩

theorem exists_of_uniqueName {before : Option UInt8} {s : Text} (h : uniqueName before s ≠ 0) :
    s.head? = some '%'.toUInt8 ∧ uniqueName before s ≤ s.length := by
  cases s with
  | nil => exact absurd rfl h
  | cons c rest =>
    rw [uniqueName] at h ⊢
    by_cases hc : (c == '%') = true
    · rw [if_pos hc] at h ⊢
      obtain ⟨hname, hplus⟩ := plusIfAny_ne_zero h
      obtain ⟨d, name, t, rfl, -, -, -, hlength⟩ := exists_of_nameLength hname
      refine ⟨congrArg some (beq_iff_eq.1 hc), ?_⟩
      rw [hplus, hlength]
      simp only [List.length_cons, List.length_append]
      omega
    · rw [if_neg hc] at h
      exact absurd rfl h

theorem bounded_uniqueName : Bounded uniqueName :=
  bounded_of_ne_zero fun _ _ h => (exists_of_uniqueName h).2

/-- A unique name is found where a percent sign stands in the line itself. -/
theorem getElem?_of_uniqueName {i n : Nat} (h : (i, n) ∈ occurrences uniqueName (mask code)) :
    code[i]? = some '%'.toUInt8 := by
  obtain ⟨u, x, t, hmask, hfinds, heq⟩ := (mem_occurrences_iff bounded_uniqueName).1 h
  obtain ⟨rfl, rfl⟩ := Prod.mk.inj heq
  have hshown : (mask code)[u.length]? = some '%'.toUInt8 := by
    rw [hmask, ← List.head?_drop, List.drop_left, (exists_of_uniqueName hfinds.ne_zero).1]
  exact ((getElem?_mask_iff (by decide)).1 hshown).1

/-! ## Dollar signs within a node path -/

/-- A dollar sign within a quoted path lies in a literal, if the path begins outside literals. -/
theorem IsQuotedPath.not_outside {a b : Text} (hx : IsQuotedPath (a ++ '$'.toUInt8 :: b)) (ha : a ≠ [])
    (hrun : QuoteState.outside.run v = .outside) : QuoteState.outside.run (v ++ a) ≠ .outside := by
  generalize hpath : a ++ '$'.toUInt8 :: b = path at hx
  obtain @⟨q, content, hq, hcontent⟩ := hx
  have hne : q ≠ '$' := by rintro rfl; cases hq
  match a with
  | [] => exact absurd rfl ha
  | [_] => exact absurd (List.cons.inj (List.cons.inj hpath).2).1.symm hne
  | d :: e :: a =>
    obtain ⟨hd, htail⟩ := List.cons.inj hpath
    obtain ⟨he, hrest⟩ := List.cons.inj htail
    subst hd he
    -- The quote that closes the path is its next one, and the dollar sign stands before it.
    have hnot : e ∉ a := by
      intro hmem
      obtain ⟨a₁, a₂, rfl, ha₁⟩ := List.eq_append_cons_of_mem hmem
      have hsplit : content ++ e :: [] = a₁ ++ e :: (a₂ ++ '$'.toUInt8 :: b) :=
        hrest.symm.trans (List.append_assoc _ _ _)
      have hnil := (append_first_inj hcontent ha₁ hsplit).2
      simp at hnil
    have hopen : (QuoteState.outside.step '$').step e = .inside e false := by
      show QuoteState.outside.step e = _
      rw [QuoteState.step, if_pos hq]
    obtain ⟨f, hf⟩ := run_inside_of_not_mem hnot false
    rw [run_append, hrun]
    show ((QuoteState.outside.step '$').step e).run a ≠ .outside
    rw [hopen, hf]
    exact fun h => by cases h

theorem IsNamedPath.not_dollar {a b : Text} (hx : IsNamedPath (a ++ '$'.toUInt8 :: b) t) : a = [] := by
  generalize hpath : a ++ '$'.toUInt8 :: b = path at hx
  obtain @⟨c, name, _, hc, hname, -⟩ := hx
  cases a with
  | nil => rfl
  | cons d a =>
    have hmem : '$'.toUInt8 ∈ c :: name := by
      rw [← (List.cons.inj hpath).2]
      exact List.mem_append_right _ List.mem_cons_self
    rcases List.mem_cons.1 hmem with rfl | hmem
    · cases hc
    · cases hname _ hmem

/-! ## Paths that are swallowed -/

/-- The reading takes a quoted path that begins in a literal and reaches over the place at index
`i`. -/
structure Swallows (code : Text) (i : Nat) (v x w : Text) : Prop where
  eq : code = v ++ (x ++ w)
  quoted : IsQuotedPath x
  inside : QuoteState.outside.run v ≠ .outside
  reads : Reads nodePath v (x ++ w)
  before : v.length < i
  beyond : i < v.length + x.length

/-- A shape that reaches over a dollar sign outside literals is a quoted path that begins in one. -/
theorem Covers.swallows {s : Text} (h : Covers nodePath pre ('$'.toUInt8 :: s) v x w)
    (hrun : QuoteState.outside.run pre = .outside) :
    Swallows (pre ++ '$'.toUInt8 :: s) pre.length v x w := by
  obtain ⟨a, b, rfl, rfl, hs, ha, hb⟩ := h.exists_split
  obtain ⟨c, b, rfl⟩ := List.exists_cons_of_ne_nil hb
  obtain ⟨rfl, -⟩ := List.cons.inj hs
  rcases h.finds.spelled with hquoted | hnamed
  · exact ⟨h.eq, hquoted, fun hv => hquoted.not_outside ha hv hrun, h.finds.reads, h.before, h.beyond⟩
  · exact absurd hnamed.not_dollar ha

/-- A named path outside literals is found unless it is swallowed. -/
theorem finds_iff (hpath : IsNamedPath path post) (hrun : QuoteState.outside.run pre = .outside) :
    Finds nodePath pre path post ↔ ¬∃ v x w, Swallows (pre ++ (path ++ post)) pre.length v x w := by
  have hreads : Finds nodePath pre path post ↔ Reads nodePath pre (path ++ post) :=
    ⟨(·.reads), fun h => ⟨hpath.isShape pre, h⟩⟩
  rw [hreads, reads_iff bounded_nodePath, not_iff_not]
  constructor
  · rintro ⟨v, x, w, h⟩
    cases hpath
    exact ⟨v, x, w, h.swallows hrun⟩
  · rintro ⟨v, x, w, h⟩
    exact ⟨v, x, w, h.eq, ⟨h.quoted.isShape v w, h.reads⟩, h.before, h.beyond⟩

/-- The text begins like a named path. -/
def StartsNamed (path : Text) : Prop :=
  ∃ (c : UInt8) (name : Text), path = '$'.toUInt8 :: c :: name ∧ isNameStart c = true

theorem mem_nodeQueries_iff (hpath : StartsNamed path) :
    path ∈ nodeQueries code (mask code) ↔
      ∃ pre post, code = pre ++ (path ++ post) ∧ QuoteState.outside.run pre = .outside ∧
        Finds nodePath pre path post := by
  have hdollar : IsPlain '$' := by decide
  have hhead : path.head? = some '$'.toUInt8 := by
    obtain ⟨c, name, rfl, -⟩ := hpath
    rfl
  rw [nodeQueries]
  dsimp only
  rw [List.mem_map]
  constructor
  · rintro ⟨⟨i, n⟩, ho, hcut⟩
    have hbyte : code[i]? = some '$'.toUInt8 := by
      have hfirst := head?_slice code i n
      rw [hcut, hhead] at hfirst
      split at hfirst
      · cases hfirst
      · exact hfirst.symm
    rw [List.mem_append, List.mem_append] at ho
    rcases ho with (ho | ho) | ho
    · obtain ⟨ho, hmask⟩ := List.mem_filter.1 ho
      obtain ⟨u, x, t, rfl, hfinds, heq⟩ := (mem_occurrences_iff bounded_nodePath).1 ho
      obtain ⟨rfl, rfl⟩ := Prod.mk.inj heq
      obtain rfl := (slice_append u x t).symm.trans hcut
      have hrun := ((getElem?_mask_iff hdollar).1 (beq_iff_eq.1 hmask)).2
      rw [List.take_left] at hrun
      exact ⟨u, t, rfl, hrun, hfinds⟩
    · have hother := getElem?_of_uniqueName (List.mem_of_mem_filter ho)
      rw [hbyte] at hother
      cases hother
    · obtain ⟨-, hfilter⟩ := List.mem_filter.1 ho
      obtain ⟨hmask, -⟩ := Bool.and_eq_true_iff.1 hfilter
      have hother := ((getElem?_mask_iff (by decide)).1 (beq_iff_eq.1 hmask)).1
      rw [hbyte] at hother
      cases hother
  · rintro ⟨pre, post, rfl, hrun, hfinds⟩
    refine ⟨(pre.length, path.length), ?_, slice_append pre path post⟩
    have hfound : (pre.length, path.length) ∈ occurrences nodePath (pre ++ (path ++ post)) :=
      (mem_occurrences_iff bounded_nodePath).2 ⟨pre, path, post, rfl, hfinds, rfl⟩
    have hmask : (mask (pre ++ (path ++ post)))[pre.length]? = some '$'.toUInt8 := by
      rw [getElem?_mask_iff hdollar, List.take_left, ← List.head?_drop, List.drop_left,
        List.head?_append, hhead]
      exact ⟨rfl, hrun⟩
    rw [List.mem_append, List.mem_append]
    exact .inl (.inl (List.mem_filter.2 ⟨hfound, beq_iff_eq.2 hmask⟩))

/-! ## The lines of a script -/

theorem foldl_or_iff {α β : Type} {P : β → Prop} {Q : α → Prop} {f : β → α → β}
    (h : ∀ x a, P (f x a) ↔ P x ∨ Q a) (x : β) (as : List α) :
    P (as.foldl f x) ↔ P x ∨ ∃ a ∈ as, Q a := by
  induction as generalizing x with
  | nil => simp
  | cons a as ih => simp [ih, h, or_assoc]

theorem mem_nodeQueries_addLine (method : Text) (x : Interactions) (l : Script.Line) :
    t ∈ (addLine method x l).nodeQueries ↔
      t ∈ x.nodeQueries ∨ isSpace (stripComment l.text) = false ∧
        t ∈ nodeQueries (stripComment l.text) (mask (stripComment l.text)) := by
  rw [addLine]
  dsimp only
  cases isSpace (stripComment l.text) with
  | true => simp
  | false => simp [mem_appendNew]

theorem mem_nodeQueries_lines (p : Script.Parsed) :
    t ∈ (ofScript p).nodeQueries ↔
      ∃ mb ∈ Scope.methodsWithBodies p, ∃ l ∈ mb.2.lines,
        isSpace (stripComment l.text) = false ∧
          t ∈ nodeQueries (stripComment l.text) (mask (stripComment l.text)) := by
  let found (x : Interactions) : Prop := t ∈ x.nodeQueries
  have hbody (x : Interactions) (mb : MethodDecl × Script.Body) :=
    foldl_or_iff (P := found) (mem_nodeQueries_addLine mb.1.name) x mb.2.lines
  have hfold := foldl_or_iff (P := found) hbody {} (Scope.methodsWithBodies p)
  rw [ofScript]
  simpa [found] using hfold

/-- The named path stands in the code of the line, outside literals. -/
structure Stands (l : Script.Line) (pre path post : Text) : Prop where
  eq : stripComment l.text = pre ++ (path ++ post)
  outside : QuoteState.outside.run pre = .outside
  named : IsNamedPath path post

theorem IsNamedPath.startsNamed (h : IsNamedPath path post) : StartsNamed path := by
  obtain @⟨c, name, _, hc, -, -⟩ := h
  exact ⟨c, name, rfl, hc⟩

theorem StartsNamed.isNamedPath (h : StartsNamed path) (hx : IsShape nodePath pre path post) :
    IsNamedPath path post := by
  rcases hx.spelled with hquoted | hnamed
  · obtain ⟨c, name, hpath, hc⟩ := h
    obtain @⟨q, content, hq, -⟩ := hquoted
    obtain rfl : q = c := (List.cons.inj (List.cons.inj hpath).2).1
    rw [not_isQuote_of_isNameStart hc] at hq
    cases hq
  · exact hnamed

theorem Stands.not_isSpace {l : Script.Line} (h : Stands l pre path post) :
    isSpace (stripComment l.text) = false := by
  obtain ⟨c, name, rfl, -⟩ := h.named.startsNamed
  have hsolid : isSolid '$' = true := by decide
  refine isSpace_of_mem hsolid ?_
  rw [h.eq]
  simp

section

variable {p : Script.Parsed} {mb : MethodDecl × Script.Body} {l : Script.Line}

/-- A named path is reported where nothing swallows it. -/
theorem mem_nodeQueries_of_stands (hmb : mb ∈ Scope.methodsWithBodies p) (hl : l ∈ mb.2.lines)
    (h : Stands l pre path post) (hfree : ¬∃ v x w, Swallows (stripComment l.text) pre.length v x w) :
    path ∈ (ofScript p).nodeQueries := by
  have hfinds : Finds nodePath pre path post := by
    rw [finds_iff h.named h.outside, ← h.eq]
    exact hfree
  have hline : path ∈ nodeQueries (stripComment l.text) (mask (stripComment l.text)) :=
    (mem_nodeQueries_iff h.named.startsNamed).2 ⟨pre, post, h.eq, h.outside, hfinds⟩
  exact (mem_nodeQueries_lines p).2 ⟨mb, hmb, l, hl, h.not_isSpace, hline⟩

/-- A line reports all of its named paths if no dollar sign stands right before a quote in its
literals. -/
theorem mem_nodeQueries_of_apart (hmb : mb ∈ Scope.methodsWithBodies p) (hl : l ∈ mb.2.lines)
    (h : Stands l pre path post)
    (hapart : ∀ (v w : Text) (q : UInt8), stripComment l.text = v ++ '$'.toUInt8 :: q :: w →
      isQuote q = true → QuoteState.outside.run v = .outside) :
    path ∈ (ofScript p).nodeQueries := by
  refine mem_nodeQueries_of_stands hmb hl h ?_
  rintro ⟨v, x, w, hswallows⟩
  have heq := hswallows.eq
  obtain @⟨q, content, hq, -⟩ := hswallows.quoted
  exact hswallows.inside (hapart v _ q heq hq)

end

/-- **Named node paths are reported unless they are swallowed.** What begins like a named path is
among the node queries of a script exactly if it stands in a line of a method, outside literals and
comments and as long as it can be, where no quoted path that begins within a literal reaches over
it. -/
theorem mem_nodeQueries_ofScript (p : Script.Parsed) (hpath : StartsNamed path) :
    path ∈ (ofScript p).nodeQueries ↔
      ∃ mb ∈ Scope.methodsWithBodies p, ∃ l ∈ mb.2.lines, ∃ pre post, Stands l pre path post ∧
        ¬∃ v x w, Swallows (stripComment l.text) pre.length v x w := by
  constructor
  · intro h
    obtain ⟨mb, hmb, l, hl, -, hline⟩ := (mem_nodeQueries_lines p).1 h
    obtain ⟨pre, post, heq, hrun, hfinds⟩ := (mem_nodeQueries_iff hpath).1 hline
    have hnamed := hpath.isNamedPath hfinds.toIsShape
    refine ⟨mb, hmb, l, hl, pre, post, ⟨heq, hrun, hnamed⟩, ?_⟩
    rw [heq, ← finds_iff hnamed hrun]
    exact hfinds
  · rintro ⟨mb, hmb, l, hl, pre, post, hstands, hfree⟩
    exact mem_nodeQueries_of_stands hmb hl hstands hfree

/-- A path beside a literal that holds a dollar sign before a quote, which finds no other quote. -/
def priceLabel : Text :=
  "extends Node\nfunc show():\n\t$Price/Label.text = \"Costs 5 $\" # $Other\n"

theorem mem_nodeQueries_priceLabel :
    let p := Script.parse priceLabel {}
    StartsNamed "$Price/Label" ∧ Text.ofString "$Other" ∉ (ofScript p).nodeQueries ∧
      ∃ mb ∈ Scope.methodsWithBodies p, ∃ l ∈ mb.2.lines, ∃ pre post,
        Stands l pre "$Price/Label" post ∧
          ¬∃ v x w, Swallows (stripComment l.text) pre.length v x w := by
  intro p
  have hstarts : StartsNamed "$Price/Label" :=
    ⟨'P'.toUInt8, "rice/Label", by decide +kernel, by decide⟩
  have hother : Text.ofString "$Other" ∉ (ofScript p).nodeQueries := by decide +kernel
  have hmem : Text.ofString "$Price/Label" ∈ (ofScript p).nodeQueries := by decide +kernel
  exact ⟨hstarts, hother, (mem_nodeQueries_ofScript p hstarts).1 hmem⟩

/-- A path between two literals, the first of which ends with a dollar sign. -/
def priceTag : Text :=
  "extends Node\nfunc show():\n\tprint(\"Costs $\" + $Price.text + \"!\")\n"

/-- The dollar sign in the literal begins a quoted path that goes on to the next literal. -/
theorem priceTag_swallowed :
    let p := Script.parse priceTag {}
    (∃ mb ∈ Scope.methodsWithBodies p, ∃ l ∈ mb.2.lines, ∃ pre post, Stands l pre "$Price" post) ∧
      Text.ofString "$Price" ∉ (ofScript p).nodeQueries := by
  intro p
  let l : Script.Line := ⟨3, "\tprint(\"Costs $\" + $Price.text + \"!\")"⟩
  have hline : ∃ mb ∈ Scope.methodsWithBodies p, l ∈ mb.2.lines := by decide +kernel
  obtain ⟨mb, hmb, hl⟩ := hline
  have hnamed : IsNamedPath "$Price" ".text + \"!\")" := by
    have hspelled : ("$Price" : Text) = '$'.toUInt8 :: 'P'.toUInt8 :: "rice" := by
      decide +kernel
    rw [hspelled]
    exact .intro (by decide) (by decide +kernel) (by decide +kernel)
  have hstands : Stands l "\tprint(\"Costs $\" + " "$Price" ".text + \"!\")" :=
    ⟨by decide +kernel, by decide +kernel, hnamed⟩
  exact ⟨⟨mb, hmb, l, hl, _, _, hstands⟩, by decide +kernel⟩

end GodotSurvey.Interaction
