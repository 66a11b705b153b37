import GodotSurvey.Proofs.Lexing.Header
import GodotSurvey.Proofs.Text.Search

/-!
# Texts that are one call

A text is a call if it is a name, which may be dotted, white space, and arguments between
parentheses. What may stand between them is said by counting: outside literals no beginning has more
closing parentheses than opening ones, and in the end there are as many of both. The parenthesis that
closes such arguments is the one behind them, so the text tells its name and its arguments, and
nothing but white space may follow.

* `closeOfFirst?_eq_some_iff` — the bracket that closes a group is the one behind its balanced
  content.
* `isArguments_iff` — counting says what the scanner tells by its depth.
* `callForm?_eq_some_iff` — a text is read as a call exactly if it is one.
* `callForm?_grammar` — **calls are read as they are written, and nothing else is.**
-/

namespace GodotSurvey.Lexing

open Text

/-! ## Groups -/

/-- The bracket that closes a group stands behind what it closes, and that is balanced. -/
theorem closeOfFirst?_eq_some_iff {opener closer : UInt8} (hbrackets : closer? opener = some closer)
    {s : Text} {k : Nat} :
    closeOfFirst? (opener :: s) = some k ↔
      ∃ u t, s = u ++ closer :: t ∧ k = u.length + 1 ∧ QuoteState.outside.run u = .outside ∧
        IsBalanced opener closer u := by
  constructor
  · intro h
    have hopen : closeFrom opener closer .outside 0 0 (opener :: s) =
        closeFrom opener closer .outside (0 + 1) 1 s := by
      rcases closer?_cases hbrackets with ⟨rfl, rfl⟩ | ⟨rfl, rfl⟩ | ⟨rfl, rfl⟩ <;> rfl
    rw [closeOfFirst?, hbrackets, Option.bind_some, hopen] at h
    obtain ⟨u, t, hs, hk, hrun, hdepth⟩ := exists_balanced_of_closeFrom h
    exact ⟨u, t, hs, by omega, hrun, hdepth⟩
  · rintro ⟨u, t, rfl, rfl, hrun, hbalanced⟩
    exact closeOfFirst?_group hbrackets hrun hbalanced t

/-! ## Arguments -/

/-- What may stand between the parentheses of a call: its literals are closed, and outside them no
parenthesis is closed before one is opened, and none stays open. -/
structure IsArguments (a : Text) : Prop where
  run : QuoteState.outside.run a = .outside
  opened : ∀ t, t <+: outerBytes .outside a → t.count (')' : UInt8) ≤ t.count ('(' : UInt8)
  closed : (outerBytes .outside a).count (')' : UInt8) = (outerBytes .outside a).count ('(' : UInt8)

theorem isArguments_iff {a : Text} :
    IsArguments a ↔ QuoteState.outside.run a = .outside ∧ IsBalanced 40 41 a := by
  rw [IsBalanced, depthFrom_eq_some_iff (by decide)]
  simp only [Nat.zero_add]
  constructor
  · rintro ⟨hrun, hopened, hclosed⟩
    exact ⟨hrun, hopened, hclosed.symm⟩
  · rintro ⟨hrun, hopened, hclosed⟩
    exact ⟨hrun, hopened, hclosed.symm⟩

theorem isArguments_literal (t : Text) : IsArguments (literal t) :=
  isArguments_iff.2 ⟨(shows_literal t).run, isBalanced_literal 40 41 t⟩

instance (a : Text) : Decidable (IsArguments a) := decidable_of_iff _ isArguments_iff.symm

/-! ## Calls -/

/-- A byte of a name that may be dotted. -/
def isCalleeByte (c : UInt8) : Bool := isIdent c || c == '.'

theorem isSolid_of_isCalleeByte {c : UInt8} (hc : isCalleeByte c = true) : isSolid c = true := by
  rw [isCalleeByte, Bool.or_eq_true, beq_iff_eq] at hc
  obtain hident | rfl := hc
  · exact isSolid_of_isIdent hident
  · rfl

namespace CallForm

/-- The text is the call: its name, white space, and its arguments between parentheses. -/
structure IsWritten (f : CallForm) (t : Text) : Prop where
  named : f.callee ≠ []
  callee : ∀ c ∈ f.callee, isCalleeByte c = true
  args : IsArguments f.args
  text : ∃ w, White w ∧ t = f.callee ++ w ++ "(" ++ f.args ++ ")"

variable {f g : CallForm} {s t rest : Text}

theorem IsWritten.startsSolid (h : f.IsWritten t) : StartsSolid f.callee := by
  obtain ⟨c, name, hname⟩ := List.exists_cons_of_ne_nil h.named
  exact ⟨c, by rw [hname]; rfl,
    isSolid_of_isCalleeByte (h.callee c (hname ▸ List.mem_cons_self))⟩

/-- The parenthesis behind the name is the first one of the text. -/
theorem IsWritten.exists_front (h : f.IsWritten t) : ∃ front, 40 ∉ front ∧ StartsSolid front ∧
    trim front = f.callee ∧ t = front ++ 40 :: (f.args ++ [41]) := by
  obtain ⟨w, hw, rfl⟩ := h.text
  have hcallee : 40 ∉ f.callee := fun hmem => absurd (h.callee _ hmem) (by decide)
  have hwhite : 40 ∉ w := fun hmem => absurd (hw.not_isSolid _ hmem) (by decide)
  refine ⟨f.callee ++ w, by simp [hcallee, hwhite], h.startsSolid.append w, ?_, by simp; rfl⟩
  rw [hw.trim_append_right]
  exact isTrimmed_of_forall_isSolid fun c hc => isSolid_of_isCalleeByte (h.callee c hc)

/-- Between a visible name and a parenthesis, a call needs no trimming. -/
theorem IsWritten.isTrimmed (h : f.IsWritten t) : IsTrimmed t := by
  obtain ⟨front, -, hstarts, -, rfl⟩ := h.exists_front
  rw [← List.cons_append, ← List.append_assoc]
  exact isTrimmed_solid (hstarts.append (40 :: f.args)) rfl rfl

/-- A call is read back as it is written. -/
theorem IsWritten.callForm? (h : f.IsWritten (trim s)) : callForm? s = some f := by
  obtain ⟨front, hfront, ⟨c, hc, -⟩, htrim, ht⟩ := h.exists_front
  have hne : front ≠ [] := List.ne_nil_of_mem (List.mem_of_mem_head? hc)
  obtain ⟨hrun, hbalanced⟩ := isArguments_iff.1 h.args
  have hopen : findByte? (trim s) 40 = some front.length := by rw [ht, findByte?_append hfront]
  have hinner : inner (trim s) front.length =
      (f.args, some (front.length + (f.args.length + 1))) := by
    rw [ht]
    exact inner_group rfl hrun hbalanced front []
  have hlast : front.length + (f.args.length + 1) = (trim s).length - 1 := by
    rw [ht]
    simp
  have hname : trim ((trim s).take front.length) = f.callee := by rw [ht, List.take_left, htrim]
  have hall : (f.callee.all fun c => isIdent c || c == '.') = true := List.all_eq_true.2 h.callee
  obtain ⟨n, hn⟩ := Nat.exists_eq_succ_of_ne_zero (mt List.length_eq_zero_iff.1 hne)
  rw [hn] at hopen hinner hlast hname
  simp [Lexing.callForm?, show '('.toUInt8 = 40 from rfl, hopen, hname, hall, hinner, hlast]

/-- The front of a trimmed text is its name and white space. -/
theorem exists_white_front {front u : Text} (h : IsTrimmed (front ++ 40 :: u)) (hne : front ≠ []) :
    trim front ≠ [] ∧ ∃ w, White w ∧ front = trim front ++ w := by
  have hstart : trimStart front = front := by
    apply trimStart_eq_self
    rw [← spaceWidth_append_first hne (d := 40) (.inl (by decide)), h.start]
  obtain ⟨w, hw, hfront, -⟩ := exists_white_trimEnd front
  have htrim : trim front = trimEnd front := by rw [trim, hstart]
  rw [htrim]
  refine ⟨fun hnil => hne ?_, w, hw, hfront⟩
  rw [hnil, List.nil_append] at hfront
  have hblank := hw.trimStart_append []
  rw [List.append_nil, ← hfront, hstart] at hblank
  exact hblank

/-- What is read as a call is one. -/
theorem isWritten_of_callForm? (h : Lexing.callForm? s = some f) : f.IsWritten (trim s) := by
  have hparen : '('.toUInt8 = 40 := rfl
  have htrimmed := isTrimmed_trim s
  unfold Lexing.callForm? at h
  generalize trim s = t at h htrimmed
  rw [hparen] at h
  dsimp only at h
  split at h
  · cases h
  · cases h
  · rename_i i hzero hopen
    obtain ⟨front, u, rfl, rfl, hfront⟩ := exists_of_findByte? hopen
    have hne : front ≠ [] := fun hnil => hzero (by rw [hnil]; rfl)
    rw [List.take_left] at h
    split at h
    · cases h
    · rename_i hall
      cases hclose : closeOfFirst? (40 :: u) with
      | none => simp [inner, matchingClose?, hclose] at h
      | some k =>
        obtain ⟨a, r, rfl, rfl, hrun, hbalanced⟩ := (closeOfFirst?_eq_some_iff rfl).1 hclose
        rw [inner_group rfl hrun hbalanced] at h
        obtain ⟨rfl, rfl⟩ : r = [] ∧ CallForm.mk (trim front) a = f := by simpa using h
        obtain ⟨hnamed, w, hw, hfront⟩ := exists_white_front htrimmed hne
        have hcallee : (trim front).all isCalleeByte = true := by
          rw [Bool.not_eq_true', Bool.not_eq_false] at hall
          exact hall
        refine ⟨hnamed, List.all_eq_true.1 hcallee, isArguments_iff.2 ⟨hrun, hbalanced⟩, w, hw, ?_⟩
        rw [← hfront]
        simp
        rfl

end CallForm

/-- A text is read as a call exactly if it is one. -/
theorem callForm?_eq_some_iff {s : Text} {f : CallForm} :
    callForm? s = some f ↔ f.IsWritten (trim s) :=
  ⟨CallForm.isWritten_of_callForm?, CallForm.IsWritten.callForm?⟩

theorem callForm?_of_isWritten {t : Text} {f : CallForm} (h : f.IsWritten t) :
    callForm? t = some f :=
  callForm?_eq_some_iff.2 (h.isTrimmed.symm ▸ h)

/-- A reference to an external resource is read as a call. -/
theorem callForm?_extResource {a : Text} (ha : IsArguments a) :
    callForm? ("ExtResource(" ++ a ++ ")") = some ⟨"ExtResource", a⟩ := by
  have hname : (Text.ofString "ExtResource").all isCalleeByte = true := by decide
  exact callForm?_of_isWritten ⟨List.cons_ne_nil _ _, List.all_eq_true.1 hname, ha, [], .nil, rfl⟩

/-- Of the texts that begin with arguments and a parenthesis, at most one rest ends there. -/
theorem eq_nil_of_arguments {a b r : Text} (ha : IsArguments a) (hb : IsArguments b)
    (h : b ++ [41] = a ++ 41 :: r) : r = [] := by
  have hclose (c : Text) (hc : IsArguments c) (t : Text) :
      closeOfFirst? (40 :: (c ++ 41 :: t)) = some (c.length + 1) :=
    closeOfFirst?_group rfl hc.run (isArguments_iff.1 hc).2 t
  have hlength : a.length = b.length := by
    have hclose' := hclose b hb []
    rw [h, hclose a ha] at hclose'
    exact Nat.succ.inj (Option.some.inj hclose')
  have htotal := congrArg List.length h
  simp only [List.length_append, List.length_cons, List.length_nil] at htotal
  exact List.length_eq_zero_iff.1 (by omega)

/-- Behind a call, a visible text is too much. -/
theorem callForm?_append_eq_none {s rest : Text} {f : CallForm} (h : callForm? s = some f)
    (hrest : isSpace rest = false) : callForm? (s ++ rest) = none := by
  have hf := callForm?_eq_some_iff.1 h
  obtain ⟨front, hfront, hstarts, -, ht⟩ := hf.exists_front
  obtain ⟨v, v', hv, hv', hs⟩ := exists_trim s
  have htrim : trim (s ++ rest) = front ++ 40 :: (f.args ++ 41 :: trimEnd (v' ++ rest)) := by
    have hsplit : s ++ rest = v ++ ((front ++ 40 :: f.args) ++ 41 :: (v' ++ rest)) := by
      rw [hs, ht]
      simp
    rw [hsplit, hv.trim_append, trim_solid (hstarts.append _) rfl]
    simp
  have hne : trimEnd (v' ++ rest) ≠ [] := by
    intro hnil
    obtain ⟨w, hw, hblank, -⟩ := exists_white_trimEnd (v' ++ rest)
    have hspace := hw.trimStart_append []
    rw [hnil, List.nil_append] at hblank
    rw [List.append_nil, ← hblank, hv'.trimStart_append] at hspace
    rw [isSpace, hspace] at hrest
    cases hrest
  cases hg : callForm? (s ++ rest) with
  | none => rfl
  | some g =>
    have hg := callForm?_eq_some_iff.1 hg
    obtain ⟨front', hfront', -, -, ht'⟩ := hg.exists_front
    obtain ⟨-, hargs⟩ := append_first_inj hfront' hfront (ht'.symm.trans htrim)
    exact absurd (eq_nil_of_arguments hf.args hg.args hargs) hne

/-- **Calls are read as they are written, and nothing else is.** A text is read as a name and
arguments exactly if, trimmed, it is that name, white space and those arguments between parentheses;
the name is not empty and holds names and dots, the arguments close their literals, and outside them
no beginning has more closing parentheses than opening ones and in the end there are as many of both.
So references and constructor calls are read for all such arguments, and behind a call there may be
nothing but white space. -/
theorem callForm?_grammar :
    (∀ s f, callForm? s = some f ↔ f.IsWritten (trim s)) ∧
      (∀ a, IsArguments a → callForm? ("ExtResource(" ++ a ++ ")") = some ⟨"ExtResource", a⟩) ∧
      (∀ type a, type ≠ [] → (∀ c ∈ type, isIdent c = true) → IsArguments a →
        callForm? (type ++ ".new(" ++ a ++ ")") = some ⟨type ++ ".new", a⟩) ∧
      ∀ s f rest, callForm? s = some f → isSpace rest = false → callForm? (s ++ rest) = none := by
  refine ⟨fun s f => callForm?_eq_some_iff, fun a => callForm?_extResource,
    fun type a hne htype ha => ?_, fun s f rest => callForm?_append_eq_none⟩
  have hnew : (Text.ofString ".new").all isCalleeByte = true := by decide
  refine callForm?_of_isWritten ⟨by simp [hne], fun c hc => ?_, ha, [], .nil, ?_⟩
  · obtain hc | hc := List.mem_append.1 hc
    · rw [isCalleeByte, htype c hc, Bool.true_or]
    · exact List.all_eq_true.1 hnew c hc
  · have hopen : Text.ofString ".new(" = Text.ofString ".new" ++ Text.ofString "(" := rfl
    simp [hopen]

/-- Arguments with an escaped quote and parentheses in a literal and around a name, written with
white space before, between and behind; and what follows the call is another group. -/
theorem callForm?_grammar_nested :
    let args : Text := " \"a)\\\"(\", (b) "
    let written : Text := "\t Vector2.new ( \"a)\\\"(\", (b) )\n"
    IsArguments args ∧ Text.ofString "Vector2" ≠ [] ∧
      (∀ c ∈ Text.ofString "Vector2", isIdent c = true) ∧
      callForm? ("ExtResource(" ++ args ++ ")") = some ⟨"ExtResource", args⟩ ∧
      callForm? ("Vector2" ++ ".new(" ++ args ++ ")") = some ⟨"Vector2" ++ ".new", args⟩ ∧
      callForm? written = some ⟨"Vector2.new", args⟩ ∧ isSpace "(c)" = false ∧
      callForm? (written ++ "(c)") = none := by
  intro args written
  obtain ⟨hgrammar, hresource, hconstructor, hrest⟩ := callForm?_grammar
  have hargs : IsArguments args := by decide
  have hname : ∀ c ∈ Text.ofString "Vector2", isIdent c = true := List.all_eq_true.1 (by decide)
  have hcallee : ∀ c ∈ Text.ofString "Vector2.new", isCalleeByte c = true :=
    List.all_eq_true.1 (by decide)
  have htrim : trim written = "Vector2.new" ++ " " ++ "(" ++ args ++ ")" := by decide
  have hwritten : callForm? written = some ⟨"Vector2.new", args⟩ :=
    (hgrammar _ _).2 ⟨by decide, hcallee, hargs, " ", .append rfl (by decide) .nil, htrim⟩
  exact ⟨hargs, by decide, hname, hresource args hargs,
    hconstructor _ args (by decide) hname hargs, hwritten, by decide,
    hrest _ _ _ hwritten (by decide)⟩

end GodotSurvey.Lexing
