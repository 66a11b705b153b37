import GodotSurvey.Proofs.Lexing.Argument
import GodotSurvey.Proofs.Lexing.Mask
import GodotSurvey.Proofs.Script.Word
import GodotSurvey.Script.Emission

/-!
# Whose signals a line emits

A signal is emitted as `receiver.name.emit()` or as `receiver.emit_signal("name")`, where the
receiver is a chain of names, `self` or nothing at all. The two forms are found by two scanners: the
first reads back from `.emit(` over the name and its receiver, the second reads on from
`emit_signal` to the literal that follows, and only asks that no longer name ends there.

* `emittersFrom_call`, `emitter?_receiver` — what `.emit(` finds behind a chain of names.
* `emittedSignals_emit`, `emittedSignals_emitSignal` — what a call adds to the signals of a line, in
  either form.
* `emittedSignals_receiver` — **the two forms agree if the script itself is the receiver, and only
  then.**
-/

namespace GodotSurvey.Script

open Text Lexing

/-! ## Names before `.emit(` -/

section

variable {x : Text}

/-- What stands before a text that begins no name and no chain of names does not matter. -/
theorem emitter?_append (hx : ∀ c ∈ x.head?, isIdent c = false ∧ c ≠ 46) (r : Text) :
    emitter? (r ++ x) = emitter? r := by
  have hdot : '.'.toUInt8 = 46 := rfl
  obtain ⟨htake, hdrop⟩ := span_append_of_head (fun c hc => (hx c hc).1) r
  have hself : ∀ c ∈ x.head?, c ∉ (".fles" : Text) := by
    intro c hc hmem
    have hbytes : Text.ofString ".fles" = [46, 102, 108, 101, 115] := by decide
    obtain ⟨hident, hne⟩ := hx c hc
    rw [hbytes] at hmem
    simp only [List.mem_cons, List.not_mem_nil, or_false] at hmem
    rcases hmem with rfl | rfl | rfl | rfl | rfl
    · exact hne rfl
    all_goals cases hident
  have hhead (t : Text) :
      (t ++ x).head?.any (fun d => isIdent d || d == 46) =
        t.head?.any (fun d => isIdent d || d == 46) := by
    cases t with
    | cons c t => rfl
    | nil =>
      cases x with
      | nil => rfl
      | cons c x =>
        obtain ⟨hident, hne⟩ := hx c rfl
        simp [hident, hne]
  rw [emitter?, emitter?, htake, hdrop]
  by_cases hname : isIdentifier (r.takeWhile isIdent).reverse = true
  · simp only [hname, Bool.not_true, Bool.false_eq_true, if_false, hdot]
    cases hreceiver : r.dropWhile isIdent with
    | nil =>
      cases x with
      | nil => rfl
      | cons c x => simp [(hx c rfl).2]
    | cons c t =>
      have hstrip := dropStart?_append_of_head hself (c :: t)
      rw [List.cons_append] at hstrip
      rw [List.cons_append, hstrip]
      cases dropStart? (c :: t) ".fles" with
      | none => rfl
      | some rest => simp only [Option.map_some, hhead]
  · simp [hname]

theorem emittersFrom_context (hx : ∀ c ∈ x.head?, isIdent c = false ∧ c ≠ 46) (r t : Text) :
    emittersFrom (r ++ x) t = emittersFrom r t := by
  induction t generalizing r with
  | nil => rfl
  | cons c t ih =>
    have hrest := ih (c :: r)
    rw [List.cons_append] at hrest
    rw [emittersFrom, emittersFrom, emitter?_append hx, hrest]

end

theorem emit_eq : Text.ofString ".emit(" = Text.ofString ".emit" ++ [40] := by decide

/-- The emissions behind a text are found, and perhaps some that begin in it. -/
theorem exists_emittersFrom_append (before u t : Text) :
    ∃ found, emittersFrom before (u ++ t) = found ++ emittersFrom (u.reverse ++ before) t := by
  induction u generalizing before with
  | nil => exact ⟨[], rfl⟩
  | cons c u ih =>
    obtain ⟨found, hfound⟩ := ih (c :: before)
    rw [List.cons_append, emittersFrom, hfound, ← List.append_assoc, List.reverse_cons,
      List.append_assoc u.reverse]
    exact ⟨_, rfl⟩

/-- Without a dot, nothing begins in it. -/
theorem emittersFrom_append_of_not_mem {u : Text} (hu : 46 ∉ u) (before t : Text) :
    emittersFrom before (u ++ t) = emittersFrom (u.reverse ++ before) t := by
  have hemit : Text.ofString ".emit(" = [46, 101, 109, 105, 116, 40] := by decide
  induction u generalizing before with
  | nil => rfl
  | cons c u ih =>
    rw [List.mem_cons, not_or] at hu
    have hmiss : startsWith (c :: (u ++ t)) ".emit(" = false := by
      rw [hemit]
      simp [startsWith, List.isPrefixOf, hu.1]
    rw [List.cons_append, emittersFrom, hmiss, if_neg (by simp), ih hu.2, List.reverse_cons,
      List.append_assoc]
    rfl

/-- A parenthesis that does not end `.emit(` is passed over. -/
theorem emittersFrom_pass {u : Text} (hu : 40 ∉ u) (hend : ¬(Text.ofString ".emit") <:+ u)
    (before t : Text) :
    emittersFrom before (u ++ 40 :: t) = emittersFrom (40 :: (u.reverse ++ before)) t := by
  induction u generalizing before with
  | nil => rfl
  | cons c u ih =>
    have hmiss : startsWith (c :: (u ++ 40 :: t)) ".emit(" = false := by
      rw [Bool.eq_false_iff, ← List.cons_append, emit_eq, Ne, startsWith_first hu (by decide)]
      exact fun h => hend (h ▸ List.suffix_rfl)
    have hrest := ih (fun h => hu (List.mem_cons_of_mem c h))
      (fun h => hend (h.trans (List.suffix_cons c u))) (c :: before)
    rw [List.cons_append, emittersFrom, hmiss, if_neg (by simp), hrest, List.reverse_cons,
      List.append_assoc]
    rfl

/-- The first call of `emit` finds the name that stands before it. -/
theorem emittersFrom_call {v : Text} (hv : 40 ∉ v) (before t : Text) :
    emittersFrom before (v ++ ".emit(" ++ t) = (emitter? (v.reverse ++ before)).toList ++
      emittersFrom ((v ++ ".emit(").reverse ++ before) t := by
  have hemit : Text.ofString ".emit(" = [46, 101, 109, 105, 116, 40] := by decide
  induction v generalizing before with
  | nil =>
    have hrest := emittersFrom_pass (u := [101, 109, 105, 116]) (by decide) (by decide)
      (46 :: before) t
    have hstart : startsWith ([46, 101, 109, 105, 116, 40] ++ t) [46, 101, 109, 105, 116, 40] =
        true := startsWith_iff.2 ⟨t, rfl⟩
    rw [List.nil_append, hemit, List.cons_append, emittersFrom, hemit, ← List.cons_append, hstart,
      if_pos rfl]
    exact congrArg (_ ++ ·) hrest
  | cons c v ih =>
    have hrest := ih (fun h => hv (List.mem_cons_of_mem c h)) (c :: before)
    have hmiss : startsWith (c :: (v ++ ".emit(" ++ t)) ".emit(" = false := by
      have hsplit : c :: (v ++ Text.ofString ".emit(" ++ t) =
          (c :: (v ++ Text.ofString ".emit")) ++ 40 :: t := by
        rw [emit_eq]
        simp
      have hnot : 40 ∉ c :: (v ++ Text.ofString ".emit") := by
        rw [← List.cons_append, List.mem_append, not_or]
        exact ⟨hv, by decide⟩
      rw [Bool.eq_false_iff, hsplit, emit_eq, Ne, startsWith_first hnot (by decide)]
      intro h
      have hlength := congrArg List.length h
      rw [List.length_cons, List.length_append] at hlength
      omega
    rw [List.cons_append, List.cons_append, emittersFrom, hmiss, if_neg (by simp), hrest,
      List.reverse_cons, List.append_assoc, List.reverse_cons, List.append_assoc]
    rfl

/-- What is found is found whatever else follows. -/
theorem mem_emittersFrom_append {a before s : Text} (h : a ∈ emittersFrom before s) (t : Text) :
    a ∈ emittersFrom before (s ++ t) := by
  induction s generalizing before with
  | nil => cases h
  | cons c s ih =>
    rw [emittersFrom] at h
    rw [List.cons_append, emittersFrom]
    rcases List.mem_append.1 h with h | h
    · refine List.mem_append_left _ ?_
      split at h
      · rename_i hstart
        obtain ⟨r, hr⟩ := startsWith_iff.1 hstart
        have hlong : startsWith (c :: (s ++ t)) ".emit(" = true :=
          startsWith_iff.2 ⟨r ++ t, by rw [← List.cons_append, hr, List.append_assoc]⟩
        rwa [if_pos hlong]
      · cases h
    · exact List.mem_append_right _ (ih h)

/-! ## What a piece of code emits -/

/-- The signals that are emitted in a text without a comment. -/
def emittedIn (code : Text) : List Text :=
  quotedArgs code "emit_signal" true ++ emittersFrom [] (mask code)

theorem emittedSignals_eq (line : Text) : emittedSignals line = emittedIn (stripComment line) := rfl

theorem not_mem_emitSignal {d : UInt8} (hd : isIdent d = false) : d ∉ Text.ofString "emit_signal" :=
  not_mem_of_isIdent hd (by decide)

/-- A text that closes its literals, and with which no name and no chain of names ends. -/
structure EndsApart (u : Text) : Prop where
  run : QuoteState.outside.run u = .outside
  last : ∀ d ∈ u.getLast?, isIdent d = false ∧ d ≠ 46

namespace EndsApart

variable {u : Text} (hu : EndsApart u)

include hu

theorem quotedArgs_append (t : Text) :
    ∃ found, quotedArgs (u ++ t) "emit_signal" true = found ++ quotedArgs t "emit_signal" true ∧
      ((∀ a b, u = a ++ ("emit_signal" ++ b) → firstQuotedArg? (b ++ t) = none) → found = []) :=
  Lexing.quotedArgs_append hu.run (fun d hd =>
    ⟨not_mem_emitSignal (hu.last d hd).1, (hu.last d hd).1, fun _ => rfl⟩) t

theorem emittersFrom_mask (t : Text) :
    emittersFrom (mask u).reverse t = emittersFrom [] t := by
  have hcontext := emittersFrom_context (x := (mask u).reverse) (fun c hc => ?_) [] t
  · rwa [List.nil_append] at hcontext
  rw [List.head?_reverse] at hc
  rcases getLast?_maskFrom .outside u c hc with rfl | hlast
  · exact ⟨rfl, by decide⟩
  · exact hu.last c hlast

/-- What is emitted behind such a text is emitted. -/
theorem mem_emittedIn {a t : Text} (h : a ∈ emittedIn t) : a ∈ emittedIn (u ++ t) := by
  obtain ⟨calls, hcalls, -⟩ := hu.quotedArgs_append t
  obtain ⟨emits, hemits⟩ := exists_emittersFrom_append [] (mask u) (mask t)
  rw [List.append_nil, hu.emittersFrom_mask] at hemits
  rw [emittedIn, hcalls, mask_append hu.run, hemits]
  rcases List.mem_append.1 h with h | h
  · exact List.mem_append_left _ (List.mem_append_right _ h)
  · exact List.mem_append_right _ (List.mem_append_right _ h)

end EndsApart

/-- What is emitted is emitted whatever else follows. -/
theorem mem_emittedIn_append {a s : Text} (h : a ∈ emittedIn s) (t : Text) :
    a ∈ emittedIn (s ++ t) := by
  rw [emittedIn, mask, maskFrom_append]
  rcases List.mem_append.1 h with h | h
  · exact List.mem_append_left _ (mem_quotedArgs_append h t)
  · exact List.mem_append_right _ (mem_emittersFrom_append h _)

theorem endsApart_of_white {w : Text} (hw : White w) : EndsApart w := by
  refine ⟨(isCode_of_white hw).run, fun d hd => ?_⟩
  have hsolid := hw.not_isSolid d (List.mem_of_mem_getLast? hd)
  refine ⟨isIdent_of_not_isSolid hsolid, ?_⟩
  rintro rfl
  cases hsolid

theorem EndsApart.append_white {u w : Text} (hu : EndsApart u) (hw : White w) :
    EndsApart (u ++ w) := by
  have hends := endsApart_of_white hw
  refine ⟨by rw [run_append, hu.run, hends.run], fun d hd => ?_⟩
  rw [List.getLast?_append] at hd
  cases hlast : w.getLast? with
  | none =>
    rw [hlast, Option.none_or] at hd
    exact hu.last d hd
  | some e =>
    rw [hlast, Option.some_or, Option.mem_some_iff] at hd
    exact hends.last d (hd ▸ hlast)

/-- White space before a piece of code emits nothing. -/
theorem emittedIn_white {w : Text} (hw : White w) (t : Text) :
    emittedIn (w ++ t) = emittedIn t := by
  have hends := endsApart_of_white hw
  have hvisible {c : UInt8} (hc : isSolid c = true) : c ∉ w := fun h =>
    absurd hc (by simp [hw.not_isSolid c h])
  obtain ⟨calls, hcalls, hnone⟩ := hends.quotedArgs_append t
  have hmask : mask w = w :=
    mask_of_no_quote fun c hc => isQuote_of_not_isSolid (hw.not_isSolid c hc)
  have hnil : calls = [] := by
    refine hnone fun a b h => absurd ?_ (hvisible (c := 101) rfl)
    rw [h]
    exact List.mem_append_right a (List.mem_append_left b (by decide))
  have hemits := emittersFrom_append_of_not_mem (hvisible rfl) [] (mask t)
  rw [List.append_nil, ← hmask, hends.emittersFrom_mask, hmask] at hemits
  rw [emittedIn, hcalls, hnil, mask_append hends.run, hmask, hemits]
  rfl

theorem emittedSignals_white {w : Text} (hw : White w) (t : Text) :
    emittedSignals (w ++ t) = emittedSignals t := by
  have hcode := isCode_of_white hw
  rw [emittedSignals_eq, emittedSignals_eq, stripComment_eq, codeFrom_append hcode.noHash,
    hcode.run, ← stripComment_eq, emittedIn_white hw]

/-! ## Chains of names -/

/-- The bytes of names and of the dots between them. -/
def IsChain (s : Text) : Prop := ∀ c ∈ s, isIdent c = true ∨ c = 46

instance (s : Text) : Decidable (IsChain s) := inferInstanceAs (Decidable (∀ c ∈ s, _))

theorem IsChain.append {s t : Text} (hs : IsChain s) (ht : IsChain t) : IsChain (s ++ t) :=
  fun c hc => (List.mem_append.1 hc).elim (hs c) (ht c)

theorem isChain_of_isIdentifier {name : Text} (h : isIdentifier name) : IsChain name :=
  fun c hc => .inl (isIdent_of_isIdentifier h c hc)

section

variable {chain : Text} (hchain : IsChain chain)

include hchain

theorem IsChain.noQuote : ∀ c ∈ chain, isQuote c = false := by
  intro c hc
  rcases hchain c hc with hc | rfl
  · exact isQuote_of_isIdent hc
  · rfl

theorem IsChain.noParen : 40 ∉ chain := by
  intro hc
  rcases hchain 40 hc with h | h
  · cases h
  · exact absurd h (by decide)

end

/-! ## Receivers -/

/-- A chain of names before a member, each with the dot behind it; the empty one names nothing. -/
def receiver (names : List Text) : Text := names.flatMap (· ++ [46])

/-- The script itself: nothing before a member, or `self`. -/
def IsOwn (names : List Text) : Prop := names = [] ∨ names = [("self" : Text)]

instance (names : List Text) : Decidable (IsOwn names) := inferInstanceAs (Decidable (_ ∨ _))

theorem isOwn_concat {names : List Text} {name : Text} :
    IsOwn (names ++ [name]) ↔ names = [] ∧ name = "self" := by
  simp [IsOwn, List.append_eq_singleton_iff]

theorem receiver_concat (names : List Text) (name : Text) :
    receiver (names ++ [name]) = receiver names ++ (name ++ [46]) := by
  simp [receiver]

section

variable {names : List Text} {s : Text}

theorem isChain_receiver (hnames : ∀ name ∈ names, isIdentifier name) :
    IsChain (receiver names) := by
  intro c hc
  obtain ⟨name, hname, hc⟩ := List.mem_flatMap.1 hc
  exact (isChain_of_isIdentifier (hnames name hname)).append (by decide) c hc

theorem receiver_eq_nil : receiver names = [] ↔ names = [] := by
  cases names <;> simp [receiver]

/-- The last dot of a receiver stands before the member. -/
theorem head?_reverse_receiver : ∀ c ∈ (receiver names).reverse.head?, c = 46 := by
  intro c hc
  rcases List.eq_nil_or_concat names with rfl | ⟨front, name, rfl⟩
  · cases hc
  · rw [List.concat_eq_append, receiver_concat, List.reverse_append, List.reverse_append] at hc
    exact (Option.mem_some_iff.1 hc).symm

/-- Without a receiver, the name is one of the script's own. -/
theorem emitter?_name (hs : isIdentifier s) : emitter? s.reverse = some s := by
  have hname : ∀ c ∈ s.reverse, isIdent c = true := fun c hc =>
    isIdent_of_isIdentifier hs c (List.mem_reverse.1 hc)
  rw [emitter?, List.takeWhile_eq_self_iff.2 hname, List.dropWhile_eq_nil_iff.2 hname,
    List.reverse_reverse, hs]
  rfl

/-- With one, the last name of the receiver must be `self`, and no other name may stand before. -/
theorem emitter?_member (hs : isIdentifier s) (before : Text) :
    emitter? (s.reverse ++ 46 :: before) = (dropStart? before "fles").bind fun rest =>
      if rest.head?.any (fun d => isIdent d || d == 46) then none else some s := by
  have hdot : '.'.toUInt8 = 46 := rfl
  have hself : Text.ofString ".fles" = 46 :: Text.ofString "fles" := by decide
  have hname : ∀ c ∈ s.reverse, isIdent c = true := fun c hc =>
    isIdent_of_isIdentifier hs c (List.mem_reverse.1 hc)
  have hstop : isIdent 46 = false := rfl
  rw [emitter?, List.takeWhile_append_of_pos hname, List.dropWhile_append_of_pos hname,
    List.takeWhile_cons, List.dropWhile_cons, hstop]
  simp only [Bool.false_eq_true, if_false, List.append_nil, List.reverse_reverse, hs, Bool.not_true,
    hdot, bne_self_eq_false, hself, dropStart?, beq_self_eq_true, if_true]
  cases dropStart? before "fles" <;> rfl

/-- Read backwards, a name is `self`, or a byte of a name stands before what looks like it. -/
theorem name_cases {name : Text} (hname : isIdentifier name) :
    (name = "self" ∧ dropStart? name.reverse "fles" = some []) ∨
      (name ≠ "self" ∧ ∀ rest, dropStart? name.reverse "fles" = some rest →
        ∃ c ∈ rest.head?, isIdent c = true) := by
  have hself : name = "self" ↔ name.reverse = Text.ofString "fles" := by
    rw [List.reverse_eq_iff]
    exact Iff.rfl
  by_cases h : name = "self"
  · rw [h]
    exact .inl ⟨rfl, by decide⟩
  · refine .inr ⟨h, fun rest hrest => ?_⟩
    rw [dropStart?_eq_some_iff] at hrest
    cases rest with
    | nil => exact absurd (hself.2 (hrest.trans (List.append_nil _))) h
    | cons c rest =>
      have hc : c ∈ name.reverse := by
        rw [hrest]
        exact List.mem_append_right _ List.mem_cons_self
      exact ⟨c, rfl, isIdent_of_isIdentifier hname c (List.mem_reverse.1 hc)⟩

/-- **Read backwards, the member is the script's own if nothing or `self` is its receiver.** -/
theorem emitter?_receiver (hnames : ∀ name ∈ names, isIdentifier name) (hs : isIdentifier s) :
    emitter? (receiver names ++ s).reverse = if IsOwn names then some s else none := by
  rw [List.reverse_append]
  rcases List.eq_nil_or_concat names with rfl | ⟨front, name, rfl⟩
  · have hown : IsOwn [] := .inl rfl
    have hnil : (receiver []).reverse = [] := rfl
    rw [if_pos hown, hnil, List.append_nil]
    exact emitter?_name hs
  · rw [List.concat_eq_append] at *
    have hfront : ∀ c ∈ (receiver front).reverse.head?, c ∉ Text.ofString "fles" := by
      intro c hc
      rw [head?_reverse_receiver c hc]
      decide
    rw [receiver_concat, List.reverse_append, List.reverse_append, List.append_assoc]
    change emitter? (s.reverse ++ 46 :: (name.reverse ++ _)) = _
    rw [emitter?_member hs, dropStart?_append_of_head hfront]
    rcases name_cases (hnames name (by simp)) with ⟨hself, hdrop⟩ | ⟨hself, hdrop⟩
    · -- Only the whole chain may be `self`, not its last name.
      rw [hdrop, Option.map_some, Option.bind_some, List.nil_append]
      cases hhead : (receiver front).reverse.head? with
      | none =>
        rw [List.head?_eq_none_iff, List.reverse_eq_nil_iff, receiver_eq_nil] at hhead
        rw [if_pos (isOwn_concat.2 ⟨hhead, hself⟩)]
        rfl
      | some c =>
        have hne : ¬IsOwn (front ++ [name]) := by
          rw [isOwn_concat]
          rintro ⟨rfl, -⟩
          cases hhead
        rw [if_neg hne, head?_reverse_receiver c hhead]
        rfl
    · have hne : ¬IsOwn (front ++ [name]) := fun h => hself (isOwn_concat.1 h).2
      rw [if_neg hne]
      cases hrest : dropStart? name.reverse "fles" with
      | none => rfl
      | some rest =>
        obtain ⟨c, hc, hident⟩ := hdrop rest hrest
        obtain ⟨rest, rfl⟩ := List.head?_eq_some_iff.1 hc
        rw [Option.map_some, Option.bind_some, List.cons_append, List.head?_cons, Option.any_some,
          hident]
        rfl

/-! ## Calls on a line -/

theorem ne_nil_of_getLast?_ne {u a b : Text} (h : u = a ++ ("emit_signal" ++ b))
    (hu : u.getLast? ≠ some 108) : b ≠ [] := by
  have hlast : (Text.ofString "emit_signal").getLast? = some 108 := by decide
  rintro rfl
  rw [h, List.append_nil, List.getLast?_append, hlast] at hu
  exact hu rfl

/-- A name that ends within a chain of names calls nothing. -/
theorem IsChain.no_argument {chain a b : Text} (hchain : IsChain chain)
    (h : chain = a ++ ("emit_signal" ++ b)) (hlast : chain.getLast? ≠ some 108) (t : Text) :
    firstQuotedArg? (b ++ t) = none := by
  obtain ⟨c, b, rfl⟩ := List.exists_cons_of_ne_nil (ne_nil_of_getLast?_ne h hlast)
  have hc : isIdent c = true ∨ c = 46 := hchain c (by rw [h]; simp)
  rcases hc with hc | rfl
  · exact firstQuotedArg?_of_head (isBlank_of_isIdent hc) (ne_of_isIdent hc rfl) _
  · exact firstQuotedArg?_of_head rfl (by decide) _

section

variable {chain : Text} (hchain : IsChain chain) (t : Text)

include hchain

theorem IsChain.noQuote_emit : ∀ c ∈ chain ++ ".emit(", isQuote c = false := by
  intro c hc
  rcases List.mem_append.1 hc with hc | hc
  · exact hchain.noQuote c hc
  · revert hc
    exact (by decide : ∀ c ∈ Text.ofString ".emit(", isQuote c = false) c

theorem IsChain.endsApart_emit : EndsApart (chain ++ ".emit(") := by
  refine ⟨(shows_of_no_quote hchain.noQuote_emit).run, fun d hd => ?_⟩
  rw [emit_eq, ← List.append_assoc, List.getLast?_concat, Option.mem_some_iff] at hd
  rw [← hd]
  exact ⟨rfl, by decide⟩

/-- In a call of `emit`, no `emit_signal` is called. -/
theorem IsChain.quotedArgs_emit : quotedArgs (chain ++ ".emit(" ++ t) "emit_signal" true =
    quotedArgs t "emit_signal" true := by
  have hemit : (Text.ofString ".emit").getLast? = some 116 := by decide
  obtain ⟨calls, hcalls, hnone⟩ := hchain.endsApart_emit.quotedArgs_append t
  suffices hnil : calls = [] by rw [hcalls, hnil, List.nil_append]
  refine hnone fun a b h => ?_
  -- Only the parenthesis could begin arguments, and the name before it is `emit`.
  rw [emit_eq, ← List.append_assoc] at h
  have hb : b ≠ [] := ne_nil_of_getLast?_ne h (by rw [List.getLast?_concat]; decide)
  obtain ⟨b, d, rfl⟩ := (List.eq_nil_or_concat b).resolve_left hb
  rw [List.concat_eq_append, ← List.append_assoc, ← List.append_assoc] at h
  obtain ⟨hbefore, -⟩ := List.append_inj' h rfl
  rw [List.append_assoc a] at hbefore
  rw [List.concat_eq_append, List.append_assoc]
  refine (hchain.append (by decide)).no_argument hbefore ?_ _
  rw [List.getLast?_append, hemit, Option.some_or]
  decide

theorem IsChain.emittersFrom_emit : emittersFrom [] (mask (chain ++ ".emit(" ++ t)) =
    (emitter? chain.reverse).toList ++ emittersFrom [] (mask t) := by
  have hcall := emittersFrom_call hchain.noParen [] (mask t)
  have hends := hchain.endsApart_emit
  have hmask := mask_of_no_quote hchain.noQuote_emit
  rw [List.append_nil, List.append_nil, ← hmask, hends.emittersFrom_mask] at hcall
  rw [mask_append hends.run, hcall]

end

/-- A call of `emit` adds the name before it, if that is the script's own. -/
theorem emittedIn_emit (hnames : ∀ name ∈ names, isIdentifier name) (hs : isIdentifier s)
    (t : Text) :
    (emittedIn (receiver names ++ s ++ ".emit(" ++ t)).Perm
      ((if IsOwn names then [s] else []) ++ emittedIn t) := by
  have hchain := (isChain_receiver hnames).append (isChain_of_isIdentifier hs)
  have hlist : (if IsOwn names then some s else none).toList = if IsOwn names then [s] else [] := by
    split <;> rfl
  rw [emittedIn, hchain.quotedArgs_emit, hchain.emittersFrom_emit, emitter?_receiver hnames hs,
    hlist]
  exact List.perm_append_comm_assoc _ _ _

/-- The search goes on behind the call as at the beginning of a line. -/
theorem quotedArgsFrom_behind_call (hs : isIdentifier s) (p : Option UInt8) (t : Text) :
    quotedArgsFrom "emit_signal" true p .outside 10 ("mit_signal(" ++ literal s ++ t) =
      quotedArgs t "emit_signal" true := by
  have hliteral : literal s = [34] ++ (s ++ [34]) := by
    rw [literal_eq,
      escape_eq_self (not_mem_of_isIdentifier hs rfl) (not_mem_of_isIdentifier hs rfl)]
    rfl
  have hrun : QuoteState.outside.run ("mit_signal(" ++ literal s) = .outside := by
    have hfront : QuoteState.outside.run "mit_signal(" = .outside := by decide
    rw [run_append, hfront, (shows_literal s).run]
  have hlast : (Text.ofString "mit_signal(" ++ literal s).getLast? = some 34 := by
    rw [hliteral, ← List.append_assoc, ← List.append_assoc, List.getLast?_concat]
  have hnot : ∀ d ∈ (Text.ofString "mit_signal(" ++ literal s).getLast?,
      d ∉ Text.ofString "emit_signal" := by
    intro d hd
    rw [hlast, Option.mem_some_iff] at hd
    exact not_mem_emitSignal (hd ▸ rfl)
  have hskip : 10 ≤ (Text.ofString "mit_signal(" ++ literal s).length := by
    have hfront : (Text.ofString "mit_signal(").length = 11 := by decide
    rw [List.length_append, hfront]
    omega
  obtain ⟨found, hfound, hnone⟩ :=
    @quotedArgsFrom_append "emit_signal" true p .outside 10 _ hnot hskip t
  have hnil : found = [] := by
    refine hnone fun a b h => ?_
    obtain ⟨c, b, rfl⟩ :=
      List.exists_cons_of_ne_nil (ne_nil_of_getLast?_ne h (by rw [hlast]; decide))
    have hparts : Text.ofString "mit_signal(" ++ [34] ++ (s ++ [34]) =
        a ++ Text.ofString "emit_signal" ++ c :: b := by
      rw [List.append_assoc a, ← h, hliteral, List.append_assoc]
    -- The name has no place before the literal, so what follows it belongs to the literal.
    rcases List.append_eq_append_iff.1 hparts with ⟨r, hr, htail⟩ | ⟨r, hr, -⟩
    · have hc : c ∈ s ++ [34] := by
        rw [htail]
        exact List.mem_append_right r List.mem_cons_self
      rcases List.mem_append.1 hc with hc | hc
      · have hident := isIdent_of_isIdentifier hs c hc
        exact firstQuotedArg?_of_head (isBlank_of_isIdent hident) (ne_of_isIdent hident rfl) _
      · rw [List.mem_singleton.1 hc]
        exact firstQuotedArg?_of_head rfl (by decide) _
    · have hmem : 101 ∈ Text.ofString "mit_signal(" ++ [34] := by
        rw [hr]
        exact List.mem_append_left r (List.mem_append_right a (by decide))
      exact absurd hmem (by decide)
  rw [hfound, hnil, hlast, hrun, Option.some_or, quotedArgsFrom_previous fun d hd => ?_]
  · rfl
  · rw [← Option.mem_some_iff.1 hd]
    exact ⟨rfl, fun _ => rfl⟩

/-- The literal behind `emit_signal` is its argument. -/
theorem quotedArgs_emitSignal (hs : isIdentifier s) (t : Text) :
    quotedArgs ("emit_signal(" ++ literal s ++ t) "emit_signal" true =
      s :: quotedArgs t "emit_signal" true := by
  have hcall : Text.ofString "emit_signal(" = 101 :: Text.ofString "mit_signal(" := by decide
  have hsplit : Text.ofString "emit_signal(" ++ literal s ++ t =
      Text.ofString "emit_signal" ++ 40 :: (literal s ++ t) := by
    have hopen : Text.ofString "emit_signal(" = Text.ofString "emit_signal" ++ [40] := by decide
    rw [hopen, List.append_assoc, List.append_assoc]
    rfl
  have hfirst : firstQuotedArg? (40 :: (literal s ++ t)) = some s := firstQuotedArg?_literal s t
  have hstart : startsWith ("emit_signal(" ++ literal s ++ t) "emit_signal" = true :=
    startsWith_iff.2 ⟨_, hsplit⟩
  have hdrop : (Text.ofString "emit_signal(" ++ literal s ++ t).drop
      (Text.ofString "emit_signal").length = 40 :: (literal s ++ t) := by
    rw [hsplit, List.drop_left]
  have hbehind := quotedArgsFrom_behind_call hs (some 101) t
  rw [hcall, List.cons_append, List.cons_append] at hstart hdrop ⊢
  rw [quotedArgs, if_neg (by decide), quotedArgsFrom, hstart, if_pos rfl, hdrop, hfirst]
  exact congrArg (s :: ·) hbehind

theorem getLast?_receiver : ∀ d ∈ (receiver names).getLast?, d = 46 := by
  rw [← List.head?_reverse]
  exact head?_reverse_receiver

theorem quotedArgs_receiver (hnames : ∀ name ∈ names, isIdentifier name) (t : Text) :
    quotedArgs (receiver names ++ t) "emit_signal" true = quotedArgs t "emit_signal" true := by
  have hchain := isChain_receiver hnames
  have hlast : ∀ d ∈ (receiver names).getLast?, d ∉ Text.ofString "emit_signal" ∧
      isIdent d = false ∧ (d = 46 → true = true) := by
    intro d hd
    rw [getLast?_receiver d hd]
    exact ⟨not_mem_emitSignal rfl, rfl, fun _ => rfl⟩
  obtain ⟨found, hfound, hnone⟩ :=
    quotedArgs_append (shows_of_no_quote hchain.noQuote).run hlast t
  suffices hnil : found = [] by rw [hfound, hnil, List.nil_append]
  refine hnone fun a b h => hchain.no_argument h ?_ t
  intro hlast
  exact absurd (getLast?_receiver 108 hlast) (by decide)

/-- A call of anything but `emit` with a literal emits nothing by itself. -/
theorem IsChain.emittersFrom_literal {chain : Text} (hchain : IsChain chain)
    (hend : ¬(Text.ofString ".emit") <:+ chain) (s t : Text) :
    emittersFrom [] (mask (chain ++ 40 :: (literal s ++ t))) = emittersFrom [] (mask t) := by
  obtain ⟨blanks, hblanks, hspace⟩ := exists_mask_literal s
  have hquote : ∀ c ∈ chain ++ [40], isQuote c = false := by
    intro c hc
    rcases List.mem_append.1 hc with hc | hc
    · exact hchain.noQuote c hc
    · rw [List.mem_singleton.1 hc]
      rfl
  have hrun := (shows_of_no_quote hquote).run
  have hends : EndsApart (chain ++ [40] ++ literal s) := by
    refine ⟨by rw [run_append, hrun, (shows_literal s).run], fun d hd => ?_⟩
    rw [literal_eq, ← List.cons_append, ← List.append_assoc, List.getLast?_concat,
      Option.mem_some_iff] at hd
    rw [← hd]
    exact ⟨rfl, by decide⟩
  have hdots : 46 ∉ mask (literal s) := by
    rw [hblanks]
    intro h
    simp only [List.mem_cons, List.mem_append, List.not_mem_nil, or_false] at h
    rcases h with h | h | h
    · cases h
    · cases hspace 46 h
    · cases h
  have hmask : mask (chain ++ [40] ++ literal s) = chain ++ [40] ++ mask (literal s) := by
    rw [mask_append hrun, mask_of_no_quote hquote]
  have hpass := emittersFrom_pass hchain.noParen hend [] (mask (literal s) ++ mask t)
  have hsplit : chain ++ 40 :: (literal s ++ t) = chain ++ [40] ++ literal s ++ t := by simp
  rw [hsplit, mask_append hends.run, hmask]
  calc emittersFrom [] (chain ++ [40] ++ mask (literal s) ++ mask t)
      = emittersFrom [] (chain ++ 40 :: (mask (literal s) ++ mask t)) := by simp
    _ = emittersFrom (mask (chain ++ [40] ++ literal s)).reverse (mask t) := by
        rw [hpass, emittersFrom_append_of_not_mem hdots, hmask]
        simp
    _ = emittersFrom [] (mask t) := hends.emittersFrom_mask _

/-- A call of `emit_signal` adds the name that is its argument, whatever its receiver is. -/
theorem emittedIn_emitSignal (hnames : ∀ name ∈ names, isIdentifier name) (hs : isIdentifier s)
    (t : Text) :
    emittedIn (receiver names ++ ("emit_signal(" ++ literal s ++ t)) = s :: emittedIn t := by
  have hopen : Text.ofString "emit_signal(" = Text.ofString "emit_signal" ++ [40] := by decide
  have hchain : IsChain (receiver names ++ Text.ofString "emit_signal") :=
    (isChain_receiver hnames).append (by decide)
  have hend : ¬(Text.ofString ".emit") <:+ receiver names ++ Text.ofString "emit_signal" := by
    rintro ⟨v, hv⟩
    have hemit : (Text.ofString ".emit").getLast? = some 116 := by decide
    have hsignal : (Text.ofString "emit_signal").getLast? = some 108 := by decide
    have hlast := congrArg List.getLast? hv
    rw [List.getLast?_append, List.getLast?_append, hemit, hsignal, Option.some_or,
      Option.some_or] at hlast
    exact absurd hlast (by decide)
  have hemits := hchain.emittersFrom_literal hend s t
  have hsplit : receiver names ++ Text.ofString "emit_signal" ++ 40 :: (literal s ++ t) =
      receiver names ++ (Text.ofString "emit_signal(" ++ literal s ++ t) := by
    rw [hopen]
    simp
  rw [hsplit] at hemits
  rw [emittedIn, quotedArgs_receiver hnames, quotedArgs_emitSignal hs, hemits, emittedIn,
    List.cons_append]

/-! ## The two forms -/

/-- What stands before the comment of a line, with the comment behind it. -/
theorem emittedSignals_append {code : Text} (hcode : IsCode code) (rest : Text) :
    emittedSignals (code ++ rest) = emittedIn (code ++ stripComment rest) := by
  rw [emittedSignals_eq, stripComment_eq, codeFrom_append hcode.noHash, hcode.run,
    ← stripComment_eq]

theorem isCode_of_isChain {chain : Text} (hchain : IsChain chain) : IsCode chain :=
  isCode_of_forall fun c hc => ⟨hchain.noQuote c hc, by
    rintro rfl
    exact (hchain 35 hc).elim (fun h => by cases h) (by decide)⟩

/-- The line `receiver.name.emit(`, with anything behind it. -/
def emitLine (names : List Text) (s rest : Text) : Text := receiver names ++ s ++ ".emit(" ++ rest

/-- The line `receiver.emit_signal("name"`, with anything behind it. -/
def emitSignalLine (names : List Text) (s rest : Text) : Text :=
  receiver names ++ ("emit_signal(" ++ literal s ++ rest)

theorem emittedSignals_emit (hnames : ∀ name ∈ names, isIdentifier name) (hs : isIdentifier s)
    (rest : Text) :
    (emittedSignals (emitLine names s rest)).Perm
      ((if IsOwn names then [s] else []) ++ emittedSignals rest) := by
  have hchain := (isChain_receiver hnames).append (isChain_of_isIdentifier hs)
  have hcode : IsCode (receiver names ++ s ++ ".emit(") :=
    (isCode_of_isChain hchain).append (by decide)
  rw [emitLine, emittedSignals_append hcode]
  exact emittedIn_emit hnames hs _

theorem emittedSignals_emitSignal (hnames : ∀ name ∈ names, isIdentifier name)
    (hs : isIdentifier s) (rest : Text) :
    emittedSignals (emitSignalLine names s rest) = s :: emittedSignals rest := by
  have hcall : IsCode ("emit_signal(" ++ literal s) := IsCode.append (by decide) (isCode_literal s)
  have hcode : IsCode (receiver names ++ ("emit_signal(" ++ literal s)) :=
    (isCode_of_isChain (isChain_receiver hnames)).append hcall
  have hsplit : emitSignalLine names s rest =
      receiver names ++ ("emit_signal(" ++ literal s) ++ rest := (List.append_assoc _ _ _).symm
  rw [hsplit, emittedSignals_append hcode, List.append_assoc, emittedIn_emitSignal hnames hs]
  rfl

/-- **The two forms agree if the script itself is the receiver, and only then.** Behind `.emit(`,
the name before it is a signal of the line exactly if its receiver is `self` or missing; the
literal behind `emit_signal(` is one whatever the receiver is. Nothing else is added to what the
text behind the call emits. -/
theorem emittedSignals_receiver {w : Text} (hw : White w)
    (hnames : ∀ name ∈ names, isIdentifier name) (hs : isIdentifier s) (rest : Text) :
    (emittedSignals (w ++ emitLine names s rest)).Perm
        ((if IsOwn names then [s] else []) ++ emittedSignals rest) ∧
      emittedSignals (w ++ emitSignalLine names s rest) = s :: emittedSignals rest ∧
      ((emittedSignals (w ++ emitSignalLine names s rest)).Perm
        (emittedSignals (w ++ emitLine names s rest)) ↔ IsOwn names) := by
  have hemit := emittedSignals_emit hnames hs rest
  have hemitSignal := emittedSignals_emitSignal hnames hs rest
  rw [emittedSignals_white hw, emittedSignals_white hw]
  refine ⟨hemit, hemitSignal, ?_⟩
  rw [hemitSignal]
  constructor
  · intro hsame
    have hlength := (hsame.trans hemit).length_eq
    by_contra hown
    rw [if_neg hown, List.nil_append, List.length_cons] at hlength
    omega
  · intro hown
    rw [if_pos hown] at hemit
    exact hemit.symm

end

/-- The signal of another object, emitted in both forms; the second call is its argument. -/
theorem emittedSignals_receiver_door :
    let names : List Text := ["level", "door"]
    let rest : Text := ", opened.emit())"
    White "\t" ∧ (∀ name ∈ names, isIdentifier name) ∧ isIdentifier "unlocked" ∧
      (emittedSignals ("\t" ++ emitLine names "unlocked" rest)).Perm
          ((if IsOwn names then [("unlocked" : Text)] else []) ++ emittedSignals rest) ∧
        emittedSignals ("\t" ++ emitSignalLine names "unlocked" rest) =
          ("unlocked" : Text) :: emittedSignals rest ∧
        ((emittedSignals ("\t" ++ emitSignalLine names "unlocked" rest)).Perm
          (emittedSignals ("\t" ++ emitLine names "unlocked" rest)) ↔ IsOwn names) :=
  have hw : White "\t" := white_of_isSpace (by decide +kernel)
  have hnames : ∀ name ∈ ([("level" : Text), "door"] : List Text), isIdentifier name := by
    decide +kernel
  have hs : isIdentifier "unlocked" := by decide +kernel
  ⟨hw, hnames, hs, emittedSignals_receiver hw hnames hs _⟩

/-- What another object emits is taken for a signal of the script in the form with `emit_signal`,
though not in the other one. -/
theorem other_emit_signal_reported :
    ¬IsOwn [("other" : Text)] ∧
      emitSignalLine [("other" : Text)] "hit" ")" = "other.emit_signal(\"hit\")" ∧
      emitLine [("other" : Text)] "hit" ")" = "other.hit.emit()" ∧
      emittedSignals "other.emit_signal(\"hit\")" = [("hit" : Text)] ∧
      emittedSignals "other.hit.emit()" = [] := by
  decide +kernel

end GodotSurvey.Script
