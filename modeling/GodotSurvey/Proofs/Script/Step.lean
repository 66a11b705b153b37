import GodotSurvey.Proofs.Lexing.Comment
import GodotSurvey.Script.Parser

/-!
# What one line does

What the reader does with a line is told by the kind of the line and by whether a signature is
open: a blank line is passed over, a line behind an open signature continues it, a comment is only
noted, an indented line may go to a body, and any other line is read at the top level.

* `State.next_takes` — these are all cases.
* `State.KeepsRest`, `State.KeepsHeader` — what the reading of methods and of variables leaves alone.
* `parse_lines` — the lines noted are those that are not blank.
-/

namespace GodotSurvey

namespace Script

open Text Lexing

/-! ## Kinds of lines -/

namespace Line

/-- The line holds white space only. -/
def IsBlank (l : Line) : Prop := trim l.text = []

/-- Only white space stands before the `#` of the line. -/
def IsComment (l : Line) : Prop := startsWith (trim l.text) "#" = true

/-- The line may declare something: it is not blank, no comment and not indented. -/
structure IsTop (l : Line) : Prop where
  nonblank : ¬ l.IsBlank
  code : ¬ l.IsComment
  start : indent l.text = 0

instance (l : Line) : Decidable l.IsBlank := inferInstanceAs (Decidable (trim l.text = []))

instance (l : Line) : Decidable l.IsComment :=
  inferInstanceAs (Decidable (startsWith (trim l.text) "#" = true))

instance (l : Line) : Decidable l.IsTop :=
  decidable_of_iff (¬ l.IsBlank ∧ ¬ l.IsComment ∧ indent l.text = 0)
    ⟨fun ⟨h₁, h₂, h₃⟩ => ⟨h₁, h₂, h₃⟩, fun ⟨h₁, h₂, h₃⟩ => ⟨h₁, h₂, h₃⟩⟩

/-- The code on a top-level line. -/
def code (l : Line) : Text := trim (stripComment (trim l.text))

theorem code_eq (l : Line) : l.code = trim (stripComment l.text) := trim_stripComment_trim l.text

theorem not_isBlank_of_isComment {l : Line} (h : l.IsComment) : ¬ l.IsBlank := by
  intro hb
  rw [IsBlank] at hb
  rw [IsComment, hb] at h
  exact absurd h (by decide)

end Line

/-! ## Steps -/

/-- The line is noted as one that is not blank. -/
def State.see (st : State) (l : Line) : State :=
  { st with parsed := { st.parsed with lines := st.parsed.lines ++ [l] } }

/-- The line is noted, and whatever block was being read ends before it. -/
def State.seeTop (st : State) (l : Line) : State := { st.see l with place := .topLevel }

namespace State

variable {opts : Options} {st : State} {l : Line}

@[simp] theorem see_signature (st : State) (l : Line) : (st.see l).signature = st.signature := rfl

theorem next_blank (h : l.IsBlank) : st.next opts l = st := by
  rw [Line.IsBlank] at h
  simp [State.next, h]

theorem next_signature {sig : OpenSignature} (h : ¬ l.IsBlank) (hsig : st.signature = some sig) :
    st.next opts l = (st.see l).continueSignature sig (trim l.text) := by
  rw [Line.IsBlank] at h
  simp [State.next, State.see, h, hsig]

theorem next_comment (h : l.IsComment) (hsig : st.signature = none) :
    st.next opts l = st.see l := by
  have hb := Line.not_isBlank_of_isComment h
  rw [Line.IsBlank] at hb
  rw [Line.IsComment] at h
  simp [State.next, State.see, h, hb, hsig]

theorem next_indented (hb : ¬ l.IsBlank) (hc : ¬ l.IsComment) (hi : indent l.text ≠ 0)
    (hsig : st.signature = none) :
    st.next opts l = if st.place = .body
      then { st.see l with parsed := { (st.see l).parsed with bodies := pushLine l st.parsed.bodies } }
      else st.see l := by
  rw [Line.IsBlank] at hb
  rw [Line.IsComment] at hc
  simp [State.next, State.see, hb, hc, Nat.pos_of_ne_zero hi, hsig]

theorem next_top (h : l.IsTop) (hsig : st.signature = none) :
    st.next opts l = (st.seeTop l).topLine opts l.number (trim l.text) := by
  have hb := h.nonblank
  have hc := h.code
  rw [Line.IsBlank] at hb
  rw [Line.IsComment] at hc
  simp [State.next, State.seeTop, State.see, hb, hc, h.start, hsig]

/-- How a line is taken, and the state behind it. -/
inductive Takes (opts : Options) (st : State) (l : Line) : State → Prop
  | blank (hblank : l.IsBlank) : Takes opts st l st
  | signature {sig : OpenSignature} (hblank : ¬ l.IsBlank) (hsig : st.signature = some sig) :
    Takes opts st l ((st.see l).continueSignature sig (trim l.text))
  | noted (hblank : ¬ l.IsBlank) (htop : ¬ l.IsTop) (hsig : st.signature = none) :
    Takes opts st l (st.see l)
  | body (hblank : ¬ l.IsBlank) (htop : ¬ l.IsTop) (hsig : st.signature = none) :
    Takes opts st l
      { st.see l with parsed := { (st.see l).parsed with bodies := pushLine l st.parsed.bodies } }
  | top (htop : l.IsTop) (hsig : st.signature = none) :
    Takes opts st l ((st.seeTop l).topLine opts l.number (trim l.text))

theorem next_takes (opts : Options) (st : State) (l : Line) : Takes opts st l (st.next opts l) := by
  by_cases hb : l.IsBlank
  · rw [next_blank hb]
    exact .blank hb
  cases hsig : st.signature with
  | some sig =>
    rw [next_signature hb hsig]
    exact .signature hb hsig
  | none =>
    by_cases hc : l.IsComment
    · rw [next_comment hc hsig]
      exact .noted hb (fun htop => htop.code hc) hsig
    by_cases hi : indent l.text = 0
    · rw [next_top ⟨hb, hc, hi⟩ hsig]
      exact .top ⟨hb, hc, hi⟩ hsig
    · rw [next_indented hb hc hi hsig]
      split
      · exact .body hb (fun htop => hi htop.start) hsig
      · exact .noted hb (fun htop => hi htop.start) hsig

end State

/-! ## What a line keeps -/

/-- What a script says of its class as a whole. -/
structure ClassHeader where
  className : Text := []
  base : Text := []
  signals : List SignalDecl := []
  deriving DecidableEq, Repr

end Script

def ScriptDecl.header (d : ScriptDecl) : Script.ClassHeader := ⟨d.className, d.base, d.signals⟩

/-- The exported variables and the others. -/
def ScriptDecl.members (d : ScriptDecl) : List VariableDecl × List VariableDecl :=
  (d.exports, d.vars)

namespace Script

namespace State

/-- `st'` differs from `st` at most in the methods and in where the reader stands. -/
structure KeepsRest (st st' : State) : Prop where
  pending : st'.pending = st.pending
  lines : st'.parsed.lines = st.parsed.lines
  header : st'.parsed.decl.header = st.parsed.decl.header
  members : st'.parsed.decl.members = st.parsed.decl.members

theorem KeepsRest.trans {st st' st'' : State} (h : st.KeepsRest st') (h' : st'.KeepsRest st'') :
    st.KeepsRest st'' :=
  ⟨h'.pending.trans h.pending, h'.lines.trans h.lines, h'.header.trans h.header,
    h'.members.trans h.members⟩

theorem keepsRest_startMethod (st : State) (line : Nat) (code : Text) :
    st.KeepsRest (st.startMethod line code) := by
  unfold State.startMethod
  split <;> exact ⟨rfl, rfl, rfl, rfl⟩

theorem keepsRest_closeSignature (st : State) : st.KeepsRest st.closeSignature := by
  unfold State.closeSignature
  split
  · exact ⟨rfl, rfl, rfl, rfl⟩
  · have hclosed : st.KeepsRest { st with signature := none } := ⟨rfl, rfl, rfl, rfl⟩
    exact hclosed.trans (keepsRest_startMethod _ _ _)

/-- A line behind an open signature tells only of a method. -/
theorem keepsRest_continueSignature (st : State) (sig : OpenSignature) (trimmed : Text) :
    st.KeepsRest (st.continueSignature sig trimmed) := by
  have hnext (sig : OpenSignature) : st.KeepsRest { st with signature := some sig } :=
    ⟨rfl, rfl, rfl, rfl⟩
  unfold State.continueSignature
  dsimp only
  split
  · exact hnext _
  · exact (hnext _).trans (keepsRest_closeSignature _)

/-- `st'` differs from `st` at most in the variables and in the annotations that wait for one. -/
structure KeepsHeader (st st' : State) : Prop where
  signature : st'.signature = st.signature
  lines : st'.parsed.lines = st.parsed.lines
  header : st'.parsed.decl.header = st.parsed.decl.header

theorem keepsHeader_addVariable (st : State) (pending : List Text) (v : VariableDecl) :
    st.KeepsHeader (State.updateDecl { st with pending } (addVariable v)) := by
  refine ⟨rfl, rfl, ?_⟩
  unfold State.updateDecl addVariable
  split <;> rfl

theorem keepsHeader_variableLine (st : State) (line : Nat) (code : Text) :
    st.KeepsHeader (st.variableLine line code) := by
  unfold State.variableLine
  split
  · cases enumDecl? code with
    | none => exact ⟨rfl, rfl, rfl⟩
    | some v => exact keepsHeader_addVariable _ _ _
  · dsimp only
    split
    · exact ⟨rfl, rfl, rfl⟩
    · cases variableDecl? code with
      | none => exact ⟨rfl, rfl, rfl⟩
      | some v => exact keepsHeader_addVariable _ _ _

/-! ## The lines noted -/

theorem topLine_lines (opts : Options) (st : State) (line : Nat) (trimmed : Text) :
    (st.topLine opts line trimmed).parsed.lines = st.parsed.lines := by
  unfold State.topLine
  dsimp only
  split
  · split
    · rfl
    · split
      · rfl
      · exact (keepsRest_startMethod _ _ _).lines
  · split
    · rfl
    · split
      · rfl
      · split
        · rfl
        · split
          · split <;> rfl
          · split
            · exact (keepsHeader_variableLine _ _ _).lines
            · rfl

/-- Every line is noted, unless it is blank. -/
theorem next_lines (opts : Options) (st : State) (l : Line) :
    (st.next opts l).parsed.lines = st.parsed.lines ++ if l.IsBlank then [] else [l] := by
  have htakes := next_takes opts st l
  generalize st.next opts l = st' at htakes ⊢
  cases htakes with
  | blank hblank => rw [if_pos hblank, List.append_nil]
  | signature hblank =>
    rw [if_neg hblank]
    exact (keepsRest_continueSignature _ _ _).lines
  | noted hblank =>
    rw [if_neg hblank]
    rfl
  | body hblank =>
    rw [if_neg hblank]
    rfl
  | top htop =>
    rw [if_neg htop.nonblank]
    exact topLine_lines _ _ _ _

theorem foldl_next_lines (opts : Options) (ls : List Line) (st : State) :
    (ls.foldl (State.next opts) st).parsed.lines =
      st.parsed.lines ++ ls.filter fun l => ¬ l.IsBlank := by
  induction ls generalizing st with
  | nil => exact (List.append_nil _).symm
  | cons l ls ih =>
    rw [List.foldl_cons, ih, next_lines, List.append_assoc]
    by_cases hb : l.IsBlank <;> simp [hb]

end State

/-- The lines of a parsed script are those of its source that are not blank. -/
theorem parse_lines (src : Text) (opts : Options) :
    (parse src opts).lines = (numberedLines src).filter fun l => ¬ l.IsBlank := by
  have h := State.foldl_next_lines opts (numberedLines src) {}
  rw [List.nil_append] at h
  exact (State.keepsRest_closeSignature _).lines.trans h

end Script

end GodotSurvey
