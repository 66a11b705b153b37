import GodotSurvey.Proofs.Script.Bodies
import GodotSurvey.Proofs.Script.ClassHeader
import GodotSurvey.Proofs.Script.Emission
import Mathlib.Data.List.Induction

/-!
# Which line emits a signal

An emission carries the number of the body line it is on. The indented lines of a body are lines of
the source with their own numbers. The body on the line of a signature is cut out of the signature's
code, which may have been joined from several lines, and it carries the number of the first of them.

* `mem_emittedIn_of_oneLineBody` — what the body behind a signature emits, the code of the signature
  emits as well.
* `State.Sourced` — where the body lines are from; one line keeps it, and so does a run.
* `emission_line` — **an emission is on its line, unless the signature that begins there runs over
  several lines.**
-/

namespace GodotSurvey.Script

open Text Lexing

/-! ## The code before the parameters -/

/-- The byte is no quote and opens no parameters. -/
def IsPlain (s : Text) : Prop := ∀ c ∈ s, isQuote c = false ∧ c ≠ 40

instance (s : Text) : Decidable (IsPlain s) := inferInstanceAs (Decidable (∀ c ∈ s, _))

theorem IsPlain.append {s t : Text} (hs : IsPlain s) (ht : IsPlain t) : IsPlain (s ++ t) :=
  fun c hc => (List.mem_append.1 hc).elim (hs c) (ht c)

theorem isPlain_of_white {w : Text} (hw : White w) : IsPlain w := by
  intro c hc
  have hsolid := hw.not_isSolid c hc
  refine ⟨isQuote_of_not_isSolid hsolid, ?_⟩
  rintro rfl
  cases hsolid

theorem isPlain_of_isIdentifier {name : Text} (h : isIdentifier name) : IsPlain name := by
  intro c hc
  have hident := isIdent_of_isIdentifier h c hc
  exact ⟨isQuote_of_isIdent hident, ne_of_isIdent hident rfl⟩

/-- Before the rest of a method line, there are only keywords and white space. -/
theorem exists_of_funcKeyword? {s rest : Text} {isStatic : Bool}
    (h : funcKeyword? s = some (isStatic, rest)) :
    ∃ u w, IsPlain u ∧ IsPlain w ∧ s = u ++ (trim rest ++ w) := by
  obtain ⟨w, w', hw, hw', hrest⟩ := exists_trim rest
  generalize trim rest = core at hrest ⊢
  unfold funcKeyword? at h
  split at h
  · rename_i r hstatic
    obtain ⟨r', hfunc, hr'⟩ := Option.map_eq_some_iff.1 h
    obtain ⟨-, rfl⟩ := Prod.mk.inj hr'
    obtain ⟨v, v', hv, hv', hr⟩ := exists_trim r
    rw [eq_append_of_afterKeyword? hfunc] at hr
    refine ⟨"static" ++ v ++ "func" ++ w, w' ++ v', ?_, isPlain_of_white (hw'.trans hv'), ?_⟩
    · have hkeyword : IsPlain "static" := by decide
      exact ((hkeyword.append (isPlain_of_white hv)).append (by decide)).append
        (isPlain_of_white hw)
    · rw [eq_append_of_afterKeyword? hstatic, hr, hrest]
      simp only [List.append_assoc]
  · obtain ⟨r', hfunc, hr'⟩ := Option.map_eq_some_iff.1 h
    obtain ⟨-, rfl⟩ := Prod.mk.inj hr'
    refine ⟨"func" ++ w, w', IsPlain.append (by decide) (isPlain_of_white hw),
      isPlain_of_white hw', ?_⟩
    rw [eq_append_of_afterKeyword? hfunc, List.append_assoc, ← hrest]

/-- On the line of a method, a name stands before the first parenthesis behind the keyword. -/
theorem exists_of_methodDecl? {code : Text} (h : (methodDecl? code).isSome = true) :
    ∃ isStatic rest, funcKeyword? (trim (stripComment code)) = some (isStatic, rest) ∧
      (40 ∉ trim rest ∨ ∃ n t, trim rest = n ++ 40 :: t ∧ isIdentifier (trim n)) := by
  have hparen : '('.toUInt8 = 40 := rfl
  unfold methodDecl? readMethod at h
  cases hfunc : funcKeyword? (trim (stripComment code)) with
  | none =>
    rw [hfunc] at h
    cases h
  | some found =>
    obtain ⟨isStatic, rest⟩ := found
    refine ⟨isStatic, rest, rfl, ?_⟩
    rw [hfunc] at h
    dsimp only at h
    rw [hparen] at h
    cases hfind : findByte? (trim rest) 40 with
    | none => exact .inl (not_mem_of_findByte? hfind)
    | some i =>
      obtain ⟨n, t, hrest, rfl, -⟩ := exists_of_findByte? hfind
      have htake : (trim rest).take n.length = n := by rw [hrest, List.take_left]
      rw [hfind] at h
      dsimp only at h
      split at h
      · cases h
      · rename_i hident
        rw [Bool.not_eq_true', Bool.not_eq_false, htake] at hident
        exact .inr ⟨n, t, hrest, hident⟩

/-- The first parenthesis on the line of a method opens its parameters; no literal stands before
it. -/
theorem isPlain_of_methodDecl? {code front t : Text} (h : (methodDecl? code).isSome = true)
    (hfront : stripComment code = front ++ 40 :: t) (hopen : 40 ∉ front) : IsPlain front := by
  obtain ⟨isStatic, rest, hfunc, hname⟩ := exists_of_methodDecl? h
  obtain ⟨u, v, hu, hv, hline⟩ := exists_of_funcKeyword? hfunc
  obtain ⟨w, w', hw, hw', htrim⟩ := exists_trim (stripComment code)
  rw [hline] at htrim
  rcases hname with hrest | ⟨n, t', hrest, hident⟩
  · -- Without a parenthesis behind the name, there is none on the line.
    have hmem : 40 ∈ stripComment code := by
      rw [hfront]
      exact List.mem_append_right _ List.mem_cons_self
    rw [htrim] at hmem
    simp only [List.mem_append] at hmem
    rcases hmem with h | (h | h | h) | h
    · exact absurd rfl (isPlain_of_white hw 40 h).2
    · exact absurd rfl (hu 40 h).2
    · exact absurd h hrest
    · exact absurd rfl (hv 40 h).2
    · exact absurd rfl (isPlain_of_white hw' 40 h).2
  · obtain ⟨x, x', hx, hx', hn⟩ := exists_trim n
    have hplain : IsPlain n := by
      rw [hn]
      exact (isPlain_of_white hx).append
        ((isPlain_of_isIdentifier hident).append (isPlain_of_white hx'))
    have hwhole := ((isPlain_of_white hw).append hu).append hplain
    have hsplit : w ++ u ++ n ++ 40 :: (t' ++ v ++ w') = front ++ 40 :: t := by
      rw [← hfront, htrim, hrest]
      simp only [List.append_assoc, List.cons_append]
    rw [← (append_first_inj (fun hmem => (hwhole 40 hmem).2 rfl) hopen hsplit).1]
    exact hwhole

/-! ## The body behind a signature -/

/-- The first parenthesis of a text is that of its code, if the code has one. -/
theorem exists_stripComment_of_mem {s front t : Text} (h : s = front ++ 40 :: t)
    (hopen : 40 ∉ front) (hmem : 40 ∈ stripComment s) :
    ∃ t', stripComment s = front ++ 40 :: t' := by
  obtain ⟨rest, hrest⟩ := exists_stripComment_append s
  obtain ⟨front', t', hfront, hnot⟩ := List.eq_append_cons_of_mem hmem
  rw [hfront, List.append_assoc, List.cons_append, h] at hrest
  obtain ⟨rfl, -⟩ := append_first_inj hopen hnot hrest
  exact ⟨t', hfront⟩

/-- The colon that ends the signature of a method stands outside literals. -/
theorem exists_of_signatureColon? {code : Text} {i : Nat} (hdecl : (methodDecl? code).isSome = true)
    (hopen : 40 ∈ code → 40 ∈ stripComment code) (h : signatureColon? code = some i) :
    ∃ u t, code = u ++ 58 :: t ∧ i = u.length ∧ QuoteState.outside.run u = .outside := by
  have hparen : '('.toUInt8 = 40 := rfl
  have hcolon : Text.ofString ":" = [58] := by decide
  -- The search for the colon begins outside literals, at the start or behind the parameters.
  obtain ⟨front, rest, hcode, hrun, hstart⟩ : ∃ front rest, code = front ++ rest ∧
      QuoteState.outside.run front = .outside ∧
      signatureColon? code = (findUnquoted? rest ":").map (front.length + ·) := by
    unfold signatureColon?
    rw [hparen]
    cases hclose : (findByte? code 40).bind (matchingClose? code) with
    | none => exact ⟨[], code, rfl, rfl, rfl⟩
    | some m =>
      obtain ⟨k, hk, hmatch⟩ := Option.bind_eq_some_iff.1 hclose
      obtain ⟨front, t, ht, rfl, hbefore⟩ := exists_of_findByte? hk
      have hmem : 40 ∈ code := by
        rw [ht]
        exact List.mem_append_right _ List.mem_cons_self
      obtain ⟨t', hcode⟩ := exists_stripComment_of_mem ht hbefore (hopen hmem)
      have hplain := isPlain_of_methodDecl? hdecl hcode hbefore
      obtain ⟨n, hn, rfl⟩ := Option.map_eq_some_iff.1 hmatch
      rw [ht, List.drop_left] at hn
      have hclosed : closeFrom 40 41 .outside 0 0 (40 :: t) = some n := hn
      obtain ⟨u, r, hu, rfl, hrun⟩ := exists_of_closeFrom hclosed
      have hsplit : code = front ++ (u ++ [41]) ++ r := by
        rw [ht, hu]
        simp
      have hlength : (front ++ (u ++ [41])).length = front.length + (0 + u.length) + 1 := by
        simp only [List.length_append, List.length_singleton]
        omega
      refine ⟨_, r, hsplit, ?_, ?_⟩
      · rw [run_append, (shows_of_no_quote fun c hc => (hplain c hc).1).run, hrun]
      · have hrest : code.drop (front.length + (0 + u.length) + 1) = r := by
          rw [hsplit, ← hlength, List.drop_left]
        dsimp only
        rw [hrest, hlength]
  rw [hstart, hcolon, findUnquoted?_cons] at h
  obtain ⟨j, hj, rfl⟩ := Option.map_eq_some_iff.1 h
  obtain ⟨u, t, rfl, rfl, hu⟩ := exists_of_findUnquotedFrom hj
  refine ⟨front ++ u, t, by rw [hcode, List.append_assoc]; rfl, ?_, by rw [run_append, hrun, hu]⟩
  rw [List.length_append, Nat.zero_add]

/-- What the body behind a signature emits, the code of the signature emits as well. -/
theorem mem_emittedIn_of_oneLineBody {code : Text} (hdecl : (methodDecl? code).isSome = true)
    (hopen : 40 ∈ code → 40 ∈ stripComment code) {n : Nat} {l : Line}
    (hl : l ∈ oneLineBody n code) {a : Text} (ha : a ∈ emittedSignals l.text) :
    a ∈ emittedIn code := by
  unfold oneLineBody at hl
  split at hl
  · cases hl
  · rename_i i hcolon
    obtain ⟨u, t, rfl, rfl, hrun⟩ := exists_of_signatureColon? hdecl hopen hcolon
    have hdrop : (u ++ 58 :: t).drop (u.length + 1) = t := by
      rw [List.drop_length_add_append]
      rfl
    rw [hdrop] at hl
    dsimp only at hl
    split at hl
    · cases hl
    · rw [List.mem_singleton.1 hl] at ha
      have htab : White "\t" := white_of_isSpace (by decide)
      rw [emittedSignals_white htab, emittedSignals_eq] at ha
      -- The body is the text behind the colon, without its comment and the white space around it.
      obtain ⟨rest, hrest⟩ := exists_stripComment_append (trim t)
      obtain ⟨w, w', hw, -, ht⟩ := exists_trim t
      have hcolon : EndsApart (u ++ [58]) := by
        refine ⟨by rw [run_append, hrun]; rfl, fun d hd => ?_⟩
        rw [List.getLast?_concat, Option.mem_some_iff] at hd
        rw [← hd]
        exact ⟨rfl, by decide⟩
      have htail := mem_emittedIn_append ha rest
      rw [← hrest] at htail
      have hwhole := (hcolon.append_white hw).mem_emittedIn (mem_emittedIn_append htail w')
      have hsplit : u ++ 58 :: t = u ++ [58] ++ w ++ (trim t ++ w') := by
        nth_rewrite 1 [ht]
        simp
      rw [hsplit]
      exact hwhole

/-! ## Signatures over several lines -/

/-- The code of a line, joined with that of the lines that follow it. -/
def joined (l : Line) (more : List Line) : Text :=
  more.foldl (fun text k => if k.IsBlank then text else text ++ " " ++ k.code) l.code

/-- The parameters that are opened on the line stay open before each of the lines that follow. -/
def RunsOver (l : Line) (more : List Line) : Prop :=
  ∀ front k back, more = front ++ k :: back → hasOpenParameters (joined l front) = true

theorem joined_concat (l : Line) (more : List Line) (k : Line) :
    joined l (more ++ [k]) =
      if k.IsBlank then joined l more else joined l more ++ " " ++ k.code := by
  rw [joined, List.foldl_append]
  rfl

theorem exists_joined (l : Line) (more : List Line) : ∃ t, joined l more = l.code ++ t := by
  induction more using List.reverseRecOn with
  | nil => exact ⟨[], (List.append_nil _).symm⟩
  | append_singleton more k ih =>
    obtain ⟨t, ht⟩ := ih
    rw [joined_concat]
    split
    · exact ⟨t, ht⟩
    · exact ⟨t ++ " " ++ k.code, by rw [ht]; simp only [List.append_assoc]⟩

theorem runsOver_nil (l : Line) : RunsOver l [] := by
  intro front k back h
  simp at h

theorem RunsOver.concat {l : Line} {more : List Line} (h : RunsOver l more)
    (hopen : hasOpenParameters (joined l more) = true) (k : Line) : RunsOver l (more ++ [k]) := by
  intro front e back hsplit
  rcases List.eq_nil_or_concat back with rfl | ⟨back, d, rfl⟩
  · obtain ⟨rfl, -⟩ := List.append_inj' hsplit rfl
    exact hopen
  · rw [List.concat_eq_append, ← List.cons_append, ← List.append_assoc] at hsplit
    obtain ⟨rfl, -⟩ := List.append_inj' hsplit rfl
    exact h front e back rfl

theorem mem_of_hasOpenParameters {code : Text} (h : hasOpenParameters code = true) : 40 ∈ code := by
  have hparen : '('.toUInt8 = 40 := rfl
  unfold hasOpenParameters at h
  rw [hparen] at h
  split at h
  · rename_i i hfind
    obtain ⟨u, t, rfl, -⟩ := exists_of_findByte? hfind
    exact List.mem_append_right _ List.mem_cons_self
  · cases h

/-- No comment is left in the code of a line. -/
theorem noHash_code (l : Line) : 35 ∉ outerBytes .outside l.code := by
  obtain ⟨w, w', hw, -, hcode⟩ := exists_trim (stripComment (trim l.text))
  have hnot := not_mem_outerBytes_codeFrom .outside (trim l.text)
  rw [← stripComment_eq, hcode, outerBytes_append, (isCode_of_white hw).run, outerBytes_append,
    List.mem_append, List.mem_append, not_or, not_or] at hnot
  exact hnot.2.1

/-- The first parenthesis of joined lines stands on the first of them. -/
theorem RunsOver.mem_stripComment {l : Line} {more : List Line} (h : RunsOver l more) :
    40 ∈ joined l more → 40 ∈ stripComment (joined l more) := by
  intro hmem
  obtain ⟨t, ht⟩ := exists_joined l more
  have hfirst : 40 ∈ l.code := by
    cases more with
    | nil => exact hmem
    | cons k more => exact mem_of_hasOpenParameters (h [] k more rfl)
  rw [ht, stripComment_eq, codeFrom_append (noHash_code l)]
  exact List.mem_append_left _ hfirst

/-! ## Where body lines are from -/

/-- A line in the body of a method is a line of the source, or it is the body behind the signature
of the method, which begins on one line and may run over several. -/
inductive BodySource (ls : List Line) (name : Text) : Line → Prop
  | line {l : Line} (hl : l ∈ ls) : BodySource ls name l
  | signature {before after more : List Line} {l bl : Line} {m : MethodDecl}
      (hls : ls = before ++ l :: (more ++ after)) (hruns : RunsOver l more)
      (hdecl : methodDecl? (joined l more) = some m) (hname : m.name = name)
      (hbl : bl ∈ oneLineBody l.number (joined l more)) : BodySource ls name bl

theorem BodySource.later {ls : List Line} {name : Text} {bl : Line} (h : BodySource ls name bl)
    (k : Line) : BodySource (ls ++ [k]) name bl := by
  cases h with
  | line hl => exact .line (List.mem_append_left _ hl)
  | @signature before after more l _ m hls hruns hdecl hname hbl =>
    have hlater : ls ++ [k] = before ++ l :: (more ++ (after ++ [k])) := by
      rw [hls]
      simp
    exact .signature hlater hruns hdecl hname hbl

/-- The signature that is read begins on a line and is open behind all lines that follow it. -/
structure OpenSignature.From (ls : List Line) (sig : OpenSignature) (before : List Line) (l : Line)
    (more : List Line) : Prop where
  lines : ls = before ++ l :: more
  runs : RunsOver l more
  isOpen : hasOpenParameters (joined l more) = true
  text : sig.text = joined l more
  line : sig.line = l.number

/-- What the reader of `ls` keeps true of the bodies and of an open signature. -/
structure State.Sourced (ls : List Line) (st : State) : Prop where
  bodies : ∀ b ∈ st.parsed.bodies, ∀ bl ∈ b.lines, BodySource ls b.name bl
  signature : ∀ sig, st.signature = some sig → ∃ before l more, sig.From ls before l more

namespace State.Sourced

variable {ls : List Line} {st st' : State}

/-- Without an open signature, only the bodies matter. -/
theorem of_bodies (hsig : st.signature = none)
    (h : ∀ b ∈ st.parsed.bodies, ∀ bl ∈ b.lines, BodySource ls b.name bl) : st.Sourced ls :=
  ⟨h, fun sig hs => by
    rw [hsig] at hs
    cases hs⟩

theorem later (h : st.Sourced ls) (k : Line) :
    ∀ b ∈ st.parsed.bodies, ∀ bl ∈ b.lines, BodySource (ls ++ [k]) b.name bl :=
  fun b hb bl hbl => (h.bodies b hb bl hbl).later k

/-- A method may start with the signature on a line and those that follow it. -/
theorem startMethod {before more after : List Line} {l : Line}
    (hbodies : ∀ b ∈ st.parsed.bodies, ∀ bl ∈ b.lines, BodySource ls b.name bl)
    (hls : ls = before ++ l :: (more ++ after)) (hruns : RunsOver l more) :
    ∀ b ∈ (st.startMethod l.number (joined l more)).parsed.bodies, ∀ bl ∈ b.lines,
      BodySource ls b.name bl := by
  unfold State.startMethod
  split
  · exact hbodies
  · rename_i m hdecl
    intro b hb bl hbl
    rcases List.mem_append.1 hb with hb | hb
    · exact hbodies b hb bl hbl
    · rw [List.mem_singleton.1 hb] at hbl ⊢
      exact .signature hls hruns hdecl rfl hbl

theorem closeSignature (h : st.Sourced ls) : st.closeSignature.Sourced ls := by
  unfold State.closeSignature
  cases hsig : st.signature with
  | none => exact h
  | some sig =>
    obtain ⟨before, l, more, hsig⟩ := h.signature sig hsig
    have hls : ls = before ++ l :: (more ++ []) := by rw [List.append_nil, ← hsig.lines]
    dsimp only
    rw [hsig.text, hsig.line]
    exact of_bodies (startMethod_signature _ _ _)
      (@startMethod ls { st with signature := none } before more [] l h.bodies hls hsig.runs)

theorem mem_pushLine {k : Line} {bs : List Body} {b : Body} (hb : b ∈ pushLine k bs) {bl : Line}
    (hbl : bl ∈ b.lines) : bl = k ∨ ∃ b' ∈ bs, b'.name = b.name ∧ bl ∈ b'.lines := by
  rcases List.eq_nil_or_concat bs with rfl | ⟨bs, last, rfl⟩
  · cases hb
  · rw [List.concat_eq_append] at *
    rw [State.Aligned.pushLine_concat] at hb
    rcases List.mem_append.1 hb with hb | hb
    · exact .inr ⟨b, List.mem_append_left _ hb, rfl, hbl⟩
    · rw [List.mem_singleton.1 hb] at hbl ⊢
      rcases List.mem_append.1 hbl with hbl | hbl
      · exact .inr ⟨last, by simp, rfl, hbl⟩
      · exact .inl (List.mem_singleton.1 hbl)

/-- **One line keeps the invariant.** -/
theorem next (h : st.Sourced ls) (opts : Options) (k : Line) :
    (st.next opts k).Sourced (ls ++ [k]) := by
  have hlater := h.later k
  have htakes := State.next_takes opts st k
  generalize st.next opts k = st' at htakes ⊢
  cases htakes with
  | blank hblank =>
    refine ⟨hlater, fun sig hs => ?_⟩
    obtain ⟨before, l, more, hsig⟩ := h.signature sig hs
    have hjoined : joined l (more ++ [k]) = joined l more := by rw [joined_concat, if_pos hblank]
    refine ⟨before, l, more ++ [k], ?_, hsig.runs.concat hsig.isOpen k, ?_, ?_, hsig.line⟩
    · rw [hsig.lines]
      simp
    · rw [hjoined]
      exact hsig.isOpen
    · rw [hjoined]
      exact hsig.text
  | noted hblank htop hs => exact of_bodies hs hlater
  | body hblank htop hs =>
    refine of_bodies hs fun b hb bl hbl => ?_
    rcases mem_pushLine hb hbl with rfl | ⟨b', hb', hname, hbl⟩
    · exact .line (List.mem_append_right _ (List.mem_singleton_self _))
    · rw [← hname]
      exact hlater b' hb' bl hbl
  | @signature sig hblank hs =>
    obtain ⟨before, l, more, hsig⟩ := h.signature sig hs
    have hls : ls ++ [k] = before ++ l :: (more ++ [k]) := by
      rw [hsig.lines]
      simp
    have hruns := hsig.runs.concat hsig.isOpen k
    have hjoined : sig.text ++ " " ++ trim (stripComment (trim k.text)) =
        joined l (more ++ [k]) := by
      rw [joined_concat, if_neg hblank, hsig.text]
      rfl
    unfold State.continueSignature
    dsimp only
    rw [hjoined]
    split
    · rename_i hopen
      refine ⟨hlater, ?_⟩
      rintro _ ⟨⟩
      exact ⟨before, l, more ++ [k], hls, hruns, hopen, rfl, hsig.line⟩
    · have hclosed : ls ++ [k] = before ++ l :: (more ++ [k] ++ []) := by
        rw [List.append_nil, hls]
      unfold State.closeSignature
      dsimp only
      rw [hsig.line]
      exact of_bodies (startMethod_signature _ _ _) (startMethod hlater hclosed hruns)
  | top htop hs =>
    rcases topLine_cases opts (st.seeTop k) k.number (trim k.text) with hk | ⟨hopen, hk⟩ | hk
    · refine of_bodies (hk.signature.trans hs) ?_
      rw [hk.bodies]
      exact hlater
    · rw [hk]
      refine ⟨hlater, ?_⟩
      rintro _ ⟨⟩
      exact ⟨ls, k, [], rfl, runsOver_nil k, hopen, rfl, rfl⟩
    · have hls : ls ++ [k] = ls ++ k :: ([] ++ []) := rfl
      have hcode : trim (stripComment (trim k.text)) = joined k [] := rfl
      rw [hk, hcode]
      exact of_bodies ((startMethod_signature _ _ _).trans hs)
        (startMethod hlater hls (runsOver_nil k))

end State.Sourced

/-- So does a run. -/
theorem sourced_foldl (opts : Options) (ls : List Line) :
    (ls.foldl (State.next opts) {}).Sourced ls := by
  induction ls using List.reverseRecOn with
  | nil => exact .of_bodies rfl (by simp)
  | append_singleton ls k ih =>
    rw [List.foldl_append]
    exact ih.next opts k

/-! ## The lines of emissions -/

/-- What the code of a line emits, the line emits. -/
theorem mem_emittedSignals_of_code {l : Line} {a : Text} (h : a ∈ emittedIn l.code) :
    a ∈ emittedSignals l.text := by
  have hcode := l.code_eq
  obtain ⟨w, w', hw, -, hline⟩ := exists_trim (stripComment l.text)
  rw [emittedSignals_eq, hline, emittedIn_white hw, ← hcode]
  exact mem_emittedIn_append h w'

/-- **An emission is on its line, unless the signature that begins there runs over several lines.**
The line with the number of the emission emits the signal; otherwise the parameters of its method
begin on that line and are not closed there, and the signal is emitted in the code of this line and
those that follow it, joined. -/
theorem emission_line (src : Text) (opts : Options) :
    ∀ e ∈ (parse src opts).decl.emissions, ∃ before l after,
      numberedLines src = before ++ l :: after ∧ l.number = e.line ∧
        (e.signal ∈ emittedSignals l.text ∨
          ∃ more rest m, after = more ++ rest ∧ more ≠ [] ∧ RunsOver l more ∧
            methodDecl? (joined l more) = some m ∧ m.name = e.method ∧
            e.signal ∈ emittedIn (joined l more)) := by
  intro e he
  have hsourced := (sourced_foldl opts (numberedLines src)).closeSignature
  obtain ⟨b, hb, he⟩ := List.mem_flatMap.1 he
  obtain ⟨bl, hbl, he⟩ := List.mem_flatMap.1 he
  obtain ⟨s, hs, rfl⟩ := List.mem_map.1 he
  cases hsourced.bodies b hb bl hbl with
  | line hl =>
    obtain ⟨before, after, hls⟩ := List.append_of_mem hl
    exact ⟨before, bl, after, hls, rfl, .inl hs⟩
  | @signature before after more l _ m hls hruns hdecl hname hbl =>
    have hemitted := mem_emittedIn_of_oneLineBody (by rw [hdecl]; rfl) hruns.mem_stripComment hbl hs
    refine ⟨before, l, more ++ after, hls, (State.Aligned.oneLineBody_number hbl).symm, ?_⟩
    by_cases hmore : more = []
    · rw [hmore] at hemitted
      exact .inl (mem_emittedSignals_of_code hemitted)
    · exact .inr ⟨more, after, m, rfl, hmore, hruns, hdecl, hname, hemitted⟩

/-- A method whose parameters end on the second line, before its body there. -/
def splitParameters : Text := "func f(a,\n\t\tb): emit_signal(\"x\")\n"

/-- The emission is found where the signature runs over both lines. -/
theorem emission_line_splitParameters :
    (⟨"f", "x", 1⟩ : SignalEmission) ∈ (parse splitParameters {}).decl.emissions ∧
      ∃ before l after, numberedLines splitParameters = before ++ l :: after ∧ l.number = 1 ∧
        (Text.ofString "x" ∈ emittedSignals l.text ∨
          ∃ more rest m, after = more ++ rest ∧ more ≠ [] ∧ RunsOver l more ∧
            methodDecl? (joined l more) = some m ∧ m.name = Text.ofString "f" ∧
            Text.ofString "x" ∈ emittedIn (joined l more)) := by
  have he : (⟨"f", "x", 1⟩ : SignalEmission) ∈ (parse splitParameters {}).decl.emissions := by
    decide +kernel
  exact ⟨he, emission_line splitParameters {} _ he⟩

/-- The signal is emitted on the second line, and reported for the first. -/
theorem splitParameters_emission :
    (numberedLines splitParameters).map (fun l => (l.number, emittedSignals l.text)) =
        [(1, []), (2, [Text.ofString "x"]), (3, [])] ∧
      (parse splitParameters {}).decl.emissions = [⟨"f", "x", 1⟩] ∧
      ¬∀ e ∈ (parse splitParameters {}).decl.emissions, ∀ l ∈ numberedLines splitParameters,
        l.number = e.line → e.signal ∈ emittedSignals l.text := by
  decide +kernel

end GodotSurvey.Script
