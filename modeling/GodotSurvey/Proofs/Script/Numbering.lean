import GodotSurvey.Proofs.Script.Bodies
import GodotSurvey.Proofs.Script.Step

/-!
# Line numbers are labels

The reader of a script copies line numbers into declarations and bodies and never looks at them.
So a source whose lines are renumbered gives the same declarations and bodies, renumbered
(`State.Renumbers`). Two things follow.

* `read_inserted` — **a blank line, or a comment where no signature is open, leaves no trace** but
  the numbers of the lines behind it.
* `parse_placed` — every declaration has the number of a line that is not blank, since a renumbering
  that fixes the numbers of those lines changes nothing.
-/

namespace GodotSurvey

/-! ## Renumbered declarations -/

def SignalDecl.renumber (f : Nat → Nat) (s : SignalDecl) : SignalDecl := { s with line := f s.line }

def VariableDecl.renumber (f : Nat → Nat) (v : VariableDecl) : VariableDecl :=
  { v with line := f v.line }

def MethodDecl.renumber (f : Nat → Nat) (m : MethodDecl) : MethodDecl := { m with line := f m.line }

def SignalEmission.renumber (f : Nat → Nat) (e : SignalEmission) : SignalEmission :=
  { e with line := f e.line }

def Dependency.renumber (f : Nat → Nat) (d : Dependency) : Dependency := { d with line := f d.line }

/-- The declarations with every line number changed by `f`. -/
def ScriptDecl.renumber (f : Nat → Nat) (d : ScriptDecl) : ScriptDecl :=
  { d with
    signals := d.signals.map (SignalDecl.renumber f)
    exports := d.exports.map (VariableDecl.renumber f)
    vars := d.vars.map (VariableDecl.renumber f)
    methods := d.methods.map (MethodDecl.renumber f)
    dependencies := d.dependencies.map (Dependency.renumber f)
    emissions := d.emissions.map (SignalEmission.renumber f) }

namespace Script

open Text Lexing

def Line.renumber (f : Nat → Nat) (l : Line) : Line := { l with number := f l.number }

def Body.renumber (f : Nat → Nat) (b : Body) : Body :=
  { b with start := f b.start, lines := b.lines.map (Line.renumber f) }

def OpenSignature.renumber (f : Nat → Nat) (sig : OpenSignature) : OpenSignature :=
  { sig with line := f sig.line }

variable {f : Nat → Nat}

theorem readClassName_renumber (rest : Text) (d : ScriptDecl) :
    readClassName rest (d.renumber f) = (readClassName rest d).renumber f := by
  unfold readClassName
  dsimp only
  cases cut? (trim rest) " extends " <;> dsimp only <;> split <;> rfl

theorem addVariable_renumber (v : VariableDecl) (d : ScriptDecl) :
    addVariable (v.renumber f) (d.renumber f) = (addVariable v d).renumber f := by
  unfold addVariable
  cases h : v.isExport <;> simp [ScriptDecl.renumber, VariableDecl.renumber, h]

theorem oneLineBody_renumber (line : Nat) (code : Text) :
    oneLineBody (f line) code = (oneLineBody line code).map (Line.renumber f) := by
  unfold oneLineBody
  cases signatureColon? code with
  | none => rfl
  | some i => dsimp only; split <;> rfl

theorem pushLine_renumber (l : Line) (bs : List Body) :
    pushLine (l.renumber f) (bs.map (Body.renumber f)) = (pushLine l bs).map (Body.renumber f) := by
  fun_induction pushLine l bs with
  | case1 => rfl
  | case2 b => simp [pushLine, Body.renumber]
  | case3 b bs hbs ih =>
    cases bs with
    | nil => contradiction
    | cons b' bs => simpa [pushLine] using ih

theorem emissions_renumber (bs : List Body) :
    emissions (bs.map (Body.renumber f)) = (emissions bs).map (SignalEmission.renumber f) := by
  simp [emissions, List.flatMap_map, List.map_flatMap, Body.renumber, Line.renumber,
    SignalEmission.renumber, Function.comp_def]

/-! ## Renumbered runs -/

/-- `st'` is `st` with every line number changed by `f`; the lines seen so far, which the reader
does not look at, are left aside. -/
structure State.Renumbers (f : Nat → Nat) (st st' : State) : Prop where
  place : st'.place = st.place
  pending : st'.pending = st.pending
  signature : st'.signature = st.signature.map (OpenSignature.renumber f)
  decl : st'.parsed.decl = st.parsed.decl.renumber f
  bodies : st'.parsed.bodies = st.parsed.bodies.map (Body.renumber f)

namespace State.Renumbers

variable {st st' : State}

theorem updateDecl {g g' : ScriptDecl → ScriptDecl} (h : st.Renumbers f st')
    (hg : ∀ d, g' (d.renumber f) = (g d).renumber f) :
    (st.updateDecl g).Renumbers f (st'.updateDecl g') :=
  ⟨h.place, h.pending, h.signature, by simp [State.updateDecl, h.decl, hg], h.bodies⟩

theorem setPending (h : st.Renumbers f st') (pending : List Text) :
    State.Renumbers f { st with pending } { st' with pending } :=
  ⟨h.place, rfl, h.signature, h.decl, h.bodies⟩

theorem setPlace (h : st.Renumbers f st') (place : Place) :
    State.Renumbers f { st with place } { st' with place } :=
  ⟨rfl, h.pending, h.signature, h.decl, h.bodies⟩

theorem setSignature (h : st.Renumbers f st') (sig : Option OpenSignature) :
    State.Renumbers f { st with signature := sig }
      { st' with signature := sig.map (OpenSignature.renumber f) } :=
  ⟨h.place, h.pending, rfl, h.decl, h.bodies⟩

theorem see (h : st.Renumbers f st') (l l' : Line) : (st.see l).Renumbers f (st'.see l') :=
  ⟨h.place, h.pending, h.signature, h.decl, h.bodies⟩

theorem pushLine (h : st.Renumbers f st') (l : Line) :
    State.Renumbers f
      { st with parsed := { st.parsed with bodies := Script.pushLine l st.parsed.bodies } }
      { st' with
        parsed := { st'.parsed with bodies := Script.pushLine (l.renumber f) st'.parsed.bodies } } :=
  ⟨h.place, h.pending, h.signature, h.decl, by simp only [h.bodies, pushLine_renumber]⟩

theorem startMethod (h : st.Renumbers f st') (line : Nat) (code : Text) :
    (st.startMethod line code).Renumbers f (st'.startMethod (f line) code) := by
  unfold State.startMethod
  cases methodDecl? code with
  | none => exact h.setPlace .skipped
  | some m =>
    refine ⟨rfl, h.pending, h.signature, ?_, ?_⟩
    · simp [h.decl, ScriptDecl.renumber, MethodDecl.renumber]
    · simp [h.bodies, Body.renumber, oneLineBody_renumber]

theorem closeSignature (h : st.Renumbers f st') :
    st.closeSignature.Renumbers f st'.closeSignature := by
  unfold State.closeSignature
  rw [h.signature]
  cases st.signature with
  | none => exact h
  | some sig => exact (h.setSignature none).startMethod sig.line sig.text

theorem variableLine (h : st.Renumbers f st') (line : Nat) (code : Text) :
    (st.variableLine line code).Renumbers f (st'.variableLine (f line) code) := by
  have hadd (v : VariableDecl) : (State.updateDecl { st with pending := [] }
      (addVariable { v with line })).Renumbers f
        (State.updateDecl { st' with pending := [] } (addVariable { v with line := f line })) :=
    (h.setPending []).updateDecl fun d => addVariable_renumber { v with line } d
  unfold State.variableLine
  split
  · cases enumDecl? code with
    | none => exact h.setPending []
    | some v => exact hadd v
  · dsimp only
    rw [h.pending]
    split
    · exact h.setPending _
    · cases variableDecl? code with
      | none => exact h.setPending []
      | some v => exact hadd _

theorem topLine (h : st.Renumbers f st') (opts : Options) (line : Nat) (trimmed : Text) :
    (st.topLine opts line trimmed).Renumbers f (st'.topLine opts (f line) trimmed) := by
  have hcleared := h.setPending []
  unfold State.topLine
  dsimp only
  split
  · split
    · exact hcleared.setPlace .skipped
    · split
      · exact hcleared.setSignature (some ⟨_, line⟩)
      · exact hcleared.startMethod line _
  · split
    · exact hcleared.updateDecl (readClassName_renumber _)
    · split
      · exact hcleared.updateDecl fun _ => rfl
      · split
        · exact hcleared.setPlace .skipped
        · split
          · split
            · refine hcleared.updateDecl fun d => ?_
              simp [ScriptDecl.renumber, SignalDecl.renumber]
            · exact hcleared
          · split
            · exact h.variableLine line _
            · exact h

theorem continueSignature {sig : OpenSignature} (h : st.Renumbers f st') (trimmed : Text) :
    (st.continueSignature sig trimmed).Renumbers f
      (st'.continueSignature (sig.renumber f) trimmed) := by
  have hnext (text : Text) : State.Renumbers f { st with signature := some { sig with text } }
      { st' with signature := some { sig.renumber f with text } } :=
    h.setSignature (some { sig with text })
  unfold State.continueSignature
  dsimp only [OpenSignature.renumber]
  split
  · exact hnext _
  · exact (hnext _).closeSignature

/-- **A line keeps renumbered states renumbered.** -/
theorem next (h : st.Renumbers f st') (opts : Options) (l : Line) :
    (st.next opts l).Renumbers f (st'.next opts (l.renumber f)) := by
  have hsee := h.see l (l.renumber f)
  by_cases hb : l.IsBlank
  · rw [next_blank hb, next_blank (l := l.renumber f) hb]
    exact h
  cases hsig : st.signature with
  | some sig =>
    have hsig' : st'.signature = some (sig.renumber f) := by rw [h.signature, hsig]; rfl
    rw [next_signature hb hsig, next_signature (l := l.renumber f) hb hsig']
    exact hsee.continueSignature _
  | none =>
    have hsig' : st'.signature = none := by rw [h.signature, hsig]; rfl
    by_cases hc : l.IsComment
    · rw [next_comment hc hsig, next_comment (l := l.renumber f) hc hsig']
      exact hsee
    by_cases hi : indent l.text = 0
    · have htop : l.IsTop := ⟨hb, hc, hi⟩
      have htop' : (l.renumber f).IsTop := ⟨hb, hc, hi⟩
      rw [next_top htop hsig, next_top htop' hsig']
      exact (hsee.setPlace .topLevel).topLine opts l.number _
    · rw [next_indented hb hc hi hsig, next_indented (l := l.renumber f) hb hc hi hsig', h.place]
      split
      · exact hsee.pushLine l
      · exact hsee

theorem run (h : st.Renumbers f st') (opts : Options) (ls : List Line) :
    (ls.foldl (State.next opts) st).Renumbers f
      ((ls.map (Line.renumber f)).foldl (State.next opts) st') := by
  induction ls generalizing st st' with
  | nil => exact h
  | cons l ls ih => exact ih (h.next opts l)

end State.Renumbers

/-- `p'` is `p` with every line number changed by `f`; the lines noted are left aside. -/
structure Parsed.Renumbers (f : Nat → Nat) (p p' : Parsed) : Prop where
  decl : p'.decl = p.decl.renumber f
  bodies : p'.bodies = p.bodies.map (Body.renumber f)

/-! ## Reading a list of lines -/

/-- The lines with their numbers. -/
def numbered (ls : List Text) : List Line := ls.mapIdx fun i text => ⟨i + 1, text⟩

/-- The state of the reader behind the lines. -/
def readState (opts : Options) (ls : List Text) : State := (numbered ls).foldl (State.next opts) {}

/-- The script whose last state is `st`. -/
def State.finish (st : State) : Parsed :=
  let st := st.closeSignature
  { st.parsed with decl := { st.parsed.decl with emissions := emissions st.parsed.bodies } }

/-- Reads a script that is given by its lines. -/
def readLines (opts : Options) (ls : List Text) : Parsed := (readState opts ls).finish

/-- A script is read through its lines. -/
theorem parse_eq_readLines (src : Text) (opts : Options) :
    parse src opts = readLines opts (sourceLines src) := rfl

theorem State.Renumbers.finish {st st' : State} (h : st.Renumbers f st') :
    st.finish.Renumbers f st'.finish := by
  have hclosed := h.closeSignature
  constructor
  · simp [State.finish, ScriptDecl.renumber, hclosed.decl, hclosed.bodies, emissions_renumber]
  · exact hclosed.bodies

/-! ## Inserted lines -/

/-- The line number after a line was inserted behind the first `k`. -/
def shiftBehind (k n : Nat) : Nat := if n ≤ k then n else n + 1

/-- The lines behind `n` others, with their numbers. -/
def numberedFrom (n : Nat) (ls : List Text) : List Line :=
  ls.mapIdx fun i text => ⟨n + i + 1, text⟩

theorem numberedFrom_cons (n : Nat) (text : Text) (ls : List Text) :
    numberedFrom n (text :: ls) = ⟨n + 1, text⟩ :: numberedFrom (n + 1) ls := by
  simp [numberedFrom, List.mapIdx_cons, Nat.add_assoc, Nat.add_comm 1]

theorem numberedFrom_renumber {n m : Nat} (hf : ∀ i, f (n + i + 1) = m + i + 1) (ls : List Text) :
    (numberedFrom n ls).map (Line.renumber f) = numberedFrom m ls := by
  refine List.ext_getElem (by simp [numberedFrom]) fun i _ _ => ?_
  simp [numberedFrom, Line.renumber, hf]

theorem numbered_append (before after : List Text) :
    numbered (before ++ after) = numbered before ++ numberedFrom before.length after := by
  simp [numbered, numberedFrom, List.mapIdx_append, Nat.add_comm]

/-- Lines keep their numbers if all numbers up to the last of them are kept. -/
theorem numbered_renumber {ls : List Text} (hf : ∀ n ≤ ls.length, f n = n) :
    (numbered ls).map (Line.renumber f) = numbered ls := by
  refine List.ext_getElem (by simp) fun i h _ => ?_
  have hi : i + 1 ≤ ls.length := by simpa [numbered, Nat.succ_le_iff] using h
  simp [numbered, Line.renumber, hf (i + 1) hi]

/-- The lines behind the inserted one have the numbers they had, each one greater. -/
theorem numbered_inserted (before after : List Text) (text : Text) :
    numbered (before ++ text :: after) =
      numbered before ++ ⟨before.length + 1, text⟩ ::
        (numberedFrom before.length after).map (Line.renumber (shiftBehind before.length)) := by
  have hshift (i : Nat) :
      shiftBehind before.length (before.length + i + 1) = before.length + 1 + i + 1 := by
    rw [shiftBehind, if_neg (by omega)]
    omega
  rw [numbered_append, numberedFrom_cons, numberedFrom_renumber hshift]

/-- The line may be inserted behind the lines `before` without a trace: it is blank, or it is a
comment and no signature is open there. -/
def LeavesNoTrace (opts : Options) (before : List Text) (text : Text) : Prop :=
  let l : Line := ⟨before.length + 1, text⟩
  l.IsBlank ∨ (l.IsComment ∧ (readState opts before).signature = none)

instance (opts : Options) (before : List Text) (text : Text) :
    Decidable (LeavesNoTrace opts before text) := inferInstanceAs (Decidable (_ ∨ _))

theorem readState_inserted {opts : Options} {before : List Text} {text : Text}
    (h : LeavesNoTrace opts before text) (after : List Text) :
    (readState opts (before ++ after)).Renumbers (shiftBehind before.length)
      (readState opts (before ++ text :: after)) := by
  have hstart : State.Renumbers (shiftBehind before.length) {} {} := ⟨rfl, rfl, rfl, rfl, rfl⟩
  have hbefore := hstart.run opts (numbered before)
  have hkept : (numbered before).map (Line.renumber (shiftBehind before.length)) =
      numbered before := numbered_renumber fun n hn => if_pos hn
  rw [hkept] at hbefore
  have hline : (readState opts before).Renumbers (shiftBehind before.length)
      ((readState opts before).next opts ⟨before.length + 1, text⟩) := by
    rcases h with hblank | ⟨hcomment, hsig⟩
    · rw [State.next_blank hblank]
      exact hbefore
    · rw [State.next_comment hcomment hsig]
      exact ⟨hbefore.place, hbefore.pending, hbefore.signature, hbefore.decl, hbefore.bodies⟩
  rw [readState, readState, numbered_append, numbered_inserted, List.foldl_append,
    List.foldl_append]
  exact hline.run opts _

/-- **Blank lines and comments leave no trace.** Inserting one anywhere among the lines of a script,
a comment where no signature is open, changes nothing in the declarations and bodies but the line
numbers behind it, which grow by one. -/
theorem read_inserted (opts : Options) (before after : List Text) (text : Text)
    (h : LeavesNoTrace opts before text) :
    (readLines opts (before ++ after)).Renumbers (shiftBehind before.length)
      (readLines opts (before ++ text :: after)) ∧
    ∀ src src', sourceLines src = before ++ after → sourceLines src' = before ++ text :: after →
      (parse src opts).Renumbers (shiftBehind before.length) (parse src' opts) := by
  have hlines := (readState_inserted h after).finish
  refine ⟨hlines, fun src src' hsrc hsrc' => ?_⟩
  rw [parse_eq_readLines, parse_eq_readLines, hsrc, hsrc']
  exact hlines

/-- A comment inside a body moves the emission and the method behind it. -/
theorem read_inserted_body :
    let before : List Text := ["func open():", "\tpass"]
    let after : List Text := ["\topened.emit()", "func close():"]
    let comment : Text := "\t# says so"
    LeavesNoTrace {} before comment ∧
      (readLines {} (before ++ after)).Renumbers (shiftBehind 2)
        (readLines {} (before ++ comment :: after)) := by
  intro before after comment
  have h : LeavesNoTrace {} before comment := by decide
  exact ⟨h, (read_inserted {} before after comment h).1⟩

/-! ## Lines that declare -/

theorem foldl_next_nonblank (opts : Options) (ls : List Line) (st : State) :
    (ls.filter fun l => ¬ l.IsBlank).foldl (State.next opts) st = ls.foldl (State.next opts) st := by
  rw [List.foldl_filter]
  congr 1
  funext st l
  by_cases hb : l.IsBlank
  · simp [hb, State.next_blank hb]
  · simp [hb]

/-- A renumbering that fixes the lines that are not blank fixes the script. -/
theorem parse_renumber {src : Text} (opts : Options)
    (hf : ∀ l ∈ (parse src opts).lines, f l.number = l.number) :
    (parse src opts).decl.renumber f = (parse src opts).decl := by
  have hsame : (parse src opts).lines.map (Line.renumber f) = (parse src opts).lines := by
    refine (List.map_congr_left fun l hl => ?_).trans (List.map_id _)
    simp [Line.renumber, hf l hl]
  have hstart : State.Renumbers f {} {} := ⟨rfl, rfl, rfl, rfl, rfl⟩
  have hrun := hstart.run opts (parse src opts).lines
  rw [hsame, parse_lines, foldl_next_nonblank] at hrun
  exact hrun.finish.decl.symm

/-- The declarations stand on lines that are not blank. -/
structure Parsed.Placed (p : Parsed) : Prop where
  signals : ∀ s ∈ p.decl.signals, ∃ l ∈ p.lines, l.number = s.line
  vars : ∀ v ∈ p.decl.allVariables, ∃ l ∈ p.lines, l.number = v.line
  methods : ∀ m ∈ p.decl.methods, ∃ l ∈ p.lines, l.number = m.line

/-- **Every declaration stands on a line that is not blank.** -/
theorem parse_placed (src : Text) (opts : Options) : (parse src opts).Placed := by
  let seen (n : Nat) : Bool := (parse src opts).lines.any (·.number == n)
  -- This renumbering moves just the numbers that are not those of lines.
  let f (n : Nat) : Nat := if seen n then n else n + 1
  have hseen {n : Nat} (h : f n = n) : ∃ l ∈ (parse src opts).lines, l.number = n := by
    by_cases hn : seen n = true
    · simpa [seen] using hn
    · simp [f, hn] at h
  have hfix := parse_renumber (f := f) opts fun l hl => by
    have : seen l.number = true := List.any_eq_true.2 ⟨l, hl, by simp⟩
    simp [f, this]
  have hentry {α : Type} {g : α → α} {xs : List α} (h : xs.map g = xs) {x : α} (hx : x ∈ xs) :
      g x = x := List.map_eq_map_iff.1 (h.trans (List.map_id xs).symm) x hx
  have hvar {v : VariableDecl} (h : v.renumber f = v) : f v.line = v.line :=
    congrArg VariableDecl.line h
  refine ⟨fun s hs => hseen ?_, fun v hv => hseen ?_, fun m hm => hseen ?_⟩
  · exact congrArg SignalDecl.line (hentry (congrArg ScriptDecl.signals hfix) hs)
  · rcases List.mem_append.1 hv with hv | hv
    · exact hvar (hentry (congrArg ScriptDecl.exports hfix) hv)
    · exact hvar (hentry (congrArg ScriptDecl.vars hfix) hv)
  · exact congrArg MethodDecl.line (hentry (congrArg ScriptDecl.methods hfix) hm)

end Script

end GodotSurvey
