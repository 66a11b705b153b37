import GodotSurvey.Proofs.Script.Step

/-!
# The class header under different options

The options of the reader say what is read of a script, and they also decide which lines are read:
with methods, an open signature swallows the lines up to its end, and without them these lines stand
at the top level like any other. Apart from this the options do not matter to the class header: the
top-level lines are told from the signatures alone (`topLines`), and each of them says the same of
the class under all options (`Line.headerPart`).

* `next_signature_eq` — which signature is open does not depend on what else is read.
* `next_header` — what one line adds to the header; `parse_header` — the header of a parse is the
  one on its top-level lines.
* `filterMap_topLines_eq_iff` — reading lines one by one tells whether lines are swallowed exactly
  if there is something to be read on them.
-/

namespace GodotSurvey

namespace Script

open Text Lexing

/-! ## Signatures and top-level lines -/

/-- The open signature behind a line, told from the one before it. -/
def nextSignature (methods : Bool) (sig : Option OpenSignature) (l : Line) : Option OpenSignature :=
  if l.IsBlank then sig
  else match sig with
    | some sig =>
      let text := sig.text ++ " " ++ l.code
      if hasOpenParameters text then some { sig with text } else none
    | none =>
      if methods && decide l.IsTop && (funcKeyword? l.code).isSome && hasOpenParameters l.code
      then some ⟨l.code, l.number⟩ else none

/-- The lines that stand at the top level and behind no open signature. -/
def topLinesFrom (methods : Bool) (sig : Option OpenSignature) : List Line → List Line
  | [] => []
  | l :: ls =>
    let rest := topLinesFrom methods (nextSignature methods sig l) ls
    if l.IsTop ∧ sig = none then l :: rest else rest

/-- The lines that stand at the top level of a source, read with methods or without. -/
def topLines (methods : Bool) (src : Text) : List Line :=
  topLinesFrom methods none (numberedLines src)

/-- The lines that would stand at the top level and are taken into a signature. -/
def swallowedFrom (sig : Option OpenSignature) : List Line → List Line
  | [] => []
  | l :: ls =>
    let rest := swallowedFrom (nextSignature true sig l) ls
    if l.IsTop ∧ sig.isSome then l :: rest else rest

/-- The lines of a source that are at the top level only if it is read without methods. -/
def swallowed (src : Text) : List Line := swallowedFrom none (numberedLines src)

theorem startMethod_signature (st : State) (line : Nat) (code : Text) :
    (st.startMethod line code).signature = st.signature := by
  unfold State.startMethod
  split <;> rfl

theorem closeSignature_signature (st : State) : st.closeSignature.signature = none := by
  unfold State.closeSignature
  split
  · assumption
  · exact startMethod_signature _ _ _

/-- Only a method that is read opens a signature. -/
theorem topLine_signature (opts : Options) {st : State} (h : st.signature = none) (line : Nat)
    (trimmed : Text) :
    (st.topLine opts line trimmed).signature =
      let code := trim (stripComment trimmed)
      if opts.methods && (funcKeyword? code).isSome && hasOpenParameters code
      then some ⟨code, line⟩ else none := by
  unfold State.topLine
  dsimp only
  by_cases hf : (funcKeyword? (trim (stripComment trimmed))).isSome = true
  · rw [if_pos hf, hf]
    cases hm : opts.methods with
    | false => simpa using h
    | true =>
      by_cases ho : hasOpenParameters (trim (stripComment trimmed)) = true
      · simp [ho]
      · simp [ho, startMethod_signature, h]
  · rw [if_neg hf]
    simp only [hf, Bool.and_false, Bool.false_and, Bool.false_eq_true, if_false]
    split
    · exact h
    · split
      · exact h
      · split
        · exact h
        · split
          · split <;> exact h
          · split
            · exact (State.keepsHeader_variableLine _ _ _).signature.trans h
            · exact h

/-- Of the options, only whether methods are read matters for signatures. -/
theorem next_signature_eq (opts : Options) (st : State) (l : Line) :
    (st.next opts l).signature = nextSignature opts.methods st.signature l := by
  have htakes := State.next_takes opts st l
  generalize st.next opts l = st' at htakes ⊢
  unfold nextSignature
  cases htakes with
  | blank hblank => rw [if_pos hblank]
  | signature hblank hsig =>
    rw [if_neg hblank, hsig, State.continueSignature]
    dsimp only [Line.code]
    split
    · rfl
    · exact closeSignature_signature _
  | noted hblank htop hsig => simp [hblank, htop, hsig]
  | body hblank htop hsig => simp [hblank, htop, hsig]
  | top htop hsig =>
    have hstart : (st.seeTop l).signature = none := hsig
    rw [if_neg htop.nonblank, hsig, topLine_signature opts hstart]
    simp [htop, Line.code]

/-! ## What a line says of the class -/

/-- The part of a class header that stands on one line. -/
structure HeaderPart where
  className : Option Text := none
  base : Option Text := none
  signal : Option SignalDecl := none
  deriving DecidableEq, Repr

/-- What a class is said to be behind `class_name`. -/
def classNamePart (rest : Text) : HeaderPart :=
  match cut? (trim rest) " extends " with
  | some (names, base) =>
    { className := (identifiers names).head?, base := some (baseName base) }
  | none => { className := (identifiers (trim rest)).head? }

/-- What a top-level line says of the class. -/
def Line.headerPart (l : Line) : HeaderPart :=
  if (funcKeyword? l.code).isSome then {}
  else match afterKeyword? l.code "class_name" with
  | some rest => classNamePart rest
  | none =>
  match afterKeyword? l.code "extends" with
  | some rest => { base := some (baseName rest) }
  | none =>
  if hasKeyword l.code "class" then {}
  else if hasKeyword l.code "signal" then
    { signal := (signalDecl? l.code).map fun s => { s with line := l.number } }
  else {}

/-- The header behind further lines: the last name and the last base count, and all signals. -/
def ClassHeader.read (h : ClassHeader) (ls : List Line) : ClassHeader where
  className := (ls.filterMap (·.headerPart.className)).getLastD h.className
  base := (ls.filterMap (·.headerPart.base)).getLastD h.base
  signals := h.signals ++ ls.filterMap (·.headerPart.signal)

/-- The class header on top-level lines. -/
def headerOf (ls : List Line) : ClassHeader := ClassHeader.read {} ls

/-- The header behind one more line. -/
def ClassHeader.add (h : ClassHeader) (p : HeaderPart) : ClassHeader where
  className := p.className.getD h.className
  base := p.base.getD h.base
  signals := h.signals ++ p.signal.toList

theorem getLastD_filterMap_cons {α β : Type} (f : α → Option β) (a : α) (as : List α) (b : β) :
    ((a :: as).filterMap f).getLastD b = (as.filterMap f).getLastD ((f a).getD b) := by
  cases h : f a with
  | none => rw [List.filterMap_cons_none h, Option.getD_none]
  | some c => rw [List.filterMap_cons_some h, Option.getD_some, List.getLastD_cons]

theorem ClassHeader.read_cons (h : ClassHeader) (l : Line) (ls : List Line) :
    h.read (l :: ls) = (h.add l.headerPart).read ls := by
  unfold ClassHeader.read ClassHeader.add
  simp only [getLastD_filterMap_cons, ClassHeader.mk.injEq, true_and]
  cases hsignal : l.headerPart.signal <;> simp [hsignal]

theorem readClassName_header (rest : Text) (d : ScriptDecl) :
    (readClassName rest d).header = d.header.add (classNamePart rest) := by
  unfold readClassName classNamePart
  dsimp only
  cases cut? (trim rest) " extends " with
  | none => cases identifiers (trim rest) <;> simp [ScriptDecl.header, ClassHeader.add]
  | some parts =>
    dsimp only
    cases identifiers parts.1 <;> simp [ScriptDecl.header, ClassHeader.add]

@[simp] theorem ClassHeader.add_nothing (h : ClassHeader) : h.add {} = h := by
  simp [ClassHeader.add]

/-- A top-level line adds to the header what it says of the class, under all options. -/
theorem topLine_header (opts : Options) (st : State) (l : Line) :
    (st.topLine opts l.number (trim l.text)).parsed.decl.header =
      st.parsed.decl.header.add l.headerPart := by
  unfold State.topLine Line.headerPart
  dsimp only
  rw [← Line.code]
  by_cases hfunc : (funcKeyword? l.code).isSome
  · rw [if_pos hfunc, if_pos hfunc, ClassHeader.add_nothing]
    split
    · rfl
    · split
      · rfl
      · exact (State.keepsRest_startMethod _ _ _).header
  rw [if_neg hfunc, if_neg hfunc]
  cases afterKeyword? l.code "class_name" with
  | some rest => exact readClassName_header _ _
  | none =>
    cases afterKeyword? l.code "extends" with
    | some rest => simp [State.updateDecl, ScriptDecl.header, ClassHeader.add]
    | none =>
      dsimp only
      split
      · exact (ClassHeader.add_nothing _).symm
      · split
        · cases signalDecl? l.code <;>
            simp [State.updateDecl, ScriptDecl.header, ClassHeader.add]
        · rw [ClassHeader.add_nothing]
          split
          · exact (State.keepsHeader_variableLine _ _ _).header
          · rfl

theorem next_header (opts : Options) (st : State) (l : Line) :
    (st.next opts l).parsed.decl.header =
      if l.IsTop ∧ st.signature = none then st.parsed.decl.header.add l.headerPart
      else st.parsed.decl.header := by
  have htakes := State.next_takes opts st l
  generalize st.next opts l = st' at htakes ⊢
  cases htakes with
  | blank hblank => rw [if_neg fun h => h.1.nonblank hblank]
  | signature _ hsig =>
    rw [if_neg (by simp [hsig])]
    exact (State.keepsRest_continueSignature _ _ _).header
  | noted _ htop =>
    rw [if_neg fun h => htop h.1]
    rfl
  | body _ htop =>
    rw [if_neg fun h => htop h.1]
    rfl
  | top htop hsig =>
    rw [if_pos ⟨htop, hsig⟩]
    exact topLine_header _ _ _

theorem foldl_next_header (opts : Options) (ls : List Line) (st : State) :
    (ls.foldl (State.next opts) st).parsed.decl.header =
      st.parsed.decl.header.read (topLinesFrom opts.methods st.signature ls) := by
  induction ls generalizing st with
  | nil => simp [topLinesFrom, ClassHeader.read, ScriptDecl.header]
  | cons l ls ih =>
    rw [List.foldl_cons, ih, next_header, next_signature_eq, topLinesFrom]
    split
    · exact (ClassHeader.read_cons _ _ _).symm
    · rfl

/-- A parse has the class header that its top-level lines declare. -/
theorem parse_header (src : Text) (opts : Options) :
    (parse src opts).decl.header = headerOf (topLines opts.methods src) :=
  (State.keepsRest_closeSignature _).header.trans (foldl_next_header opts (numberedLines src) {})

theorem parse_className (src : Text) (opts : Options) :
    (parse src opts).decl.className =
      ((topLines opts.methods src).filterMap (·.headerPart.className)).getLastD [] :=
  congrArg ClassHeader.className (parse_header src opts)

theorem parse_base (src : Text) (opts : Options) :
    (parse src opts).decl.base =
      ((topLines opts.methods src).filterMap (·.headerPart.base)).getLastD [] :=
  congrArg ClassHeader.base (parse_header src opts)

theorem parse_signals (src : Text) (opts : Options) :
    (parse src opts).decl.signals =
      (topLines opts.methods src).filterMap (·.headerPart.signal) :=
  congrArg ClassHeader.signals (parse_header src opts)

/-! ## Swallowed lines -/

theorem topLinesFrom_false (ls : List Line) :
    topLinesFrom false none ls = ls.filter fun l => l.IsTop := by
  induction ls with
  | nil => rfl
  | cons l ls ih =>
    have hsig : nextSignature false none l = none := by simp [nextSignature]
    rw [topLinesFrom, hsig, ih]
    by_cases h : l.IsTop <;> simp [h]

/-- Read without methods, a source has all its top-level lines. -/
theorem topLines_false (src : Text) :
    topLines false src = (numberedLines src).filter fun l => l.IsTop :=
  topLinesFrom_false _

theorem topLinesFrom_sublist (sig : Option OpenSignature) (ls : List Line) :
    (topLinesFrom true sig ls).Sublist (ls.filter fun l => l.IsTop) := by
  induction ls generalizing sig with
  | nil => exact .slnil
  | cons l ls ih =>
    rw [topLinesFrom]
    by_cases h : l.IsTop
    · rw [List.filter_cons_of_pos (by simpa using h)]
      split
      · exact (ih _).cons_cons l
      · exact (ih _).cons l
    · rw [List.filter_cons_of_neg (by simpa using h), if_neg (not_and_of_not_left _ h)]
      exact ih _

theorem topLinesFrom_append_swallowedFrom (sig : Option OpenSignature) (ls : List Line) :
    (topLinesFrom true sig ls ++ swallowedFrom sig ls).Perm (ls.filter fun l => l.IsTop) := by
  induction ls generalizing sig with
  | nil => exact .nil
  | cons l ls ih =>
    rw [topLinesFrom, swallowedFrom]
    by_cases h : l.IsTop
    · rw [List.filter_cons_of_pos (by simpa using h)]
      cases sig with
      | none => simpa [h] using ih (nextSignature true none l)
      | some sig => simpa [h] using List.perm_middle.trans ((ih (nextSignature true sig l)).cons l)
    · rw [List.filter_cons_of_neg (by simpa using h)]
      simpa [h] using ih (nextSignature true sig l)

/-- What is read of single lines is the same with methods and without exactly if there is nothing
to be read on swallowed lines. -/
theorem filterMap_topLines_eq_iff {α : Type} (f : Line → Option α) (src : Text) :
    (topLines true src).filterMap f = (topLines false src).filterMap f ↔
      ∀ l ∈ swallowed src, f l = none := by
  have hperm := (topLinesFrom_append_swallowedFrom none (numberedLines src)).filterMap f
  have hsub := (topLinesFrom_sublist none (numberedLines src)).filterMap f
  rw [List.filterMap_append] at hperm
  have hlength := hperm.length_eq
  rw [List.length_append] at hlength
  rw [topLines_false, ← List.filterMap_eq_nil_iff, ← List.length_eq_zero_iff, topLines, swallowed]
  constructor
  · intro h
    rw [h] at hlength
    omega
  · intro h
    exact hsub.eq_of_length (by omega)

theorem filterMap_topLines {α : Type} {f : Line → Option α} {src : Text}
    (h : ∀ l ∈ swallowed src, f l = none) (m m' : Bool) :
    (topLines m src).filterMap f = (topLines m' src).filterMap f := by
  have heq := (filterMap_topLines_eq_iff f src).2 h
  cases m <;> cases m' <;> simp [heq]

end Script

end GodotSurvey
