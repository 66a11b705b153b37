import GodotSurvey.Proofs.Script.ClassHeader

/-!
# Variables under different options

A parse that reads variables has those that its top-level lines declare when they are read one after
the other, with methods or without. They are not read line by line as the class header is:
annotations on a line of their own wait for the next declaration. So the relation that every line
keeps, `State.SameMembers`, compares the waiting annotations too.

* `State.SameMembers.next` — a line is read at the top level, or it declares no variable.
* `parse_members` — the variables of a parse are those that its top-level lines declare.
* `declared_topLines` — swallowed lines make no difference if they declare no variable.
-/

namespace GodotSurvey

namespace Script

open Text Lexing

/-! ## What top-level lines declare -/

/-- Everything but methods is read. -/
def withoutMethods : Options := { vars := true, methods := false }

/-- The line is read at the top level. -/
def State.declare (st : State) (l : Line) : State :=
  st.topLine withoutMethods l.number (trim l.text)

/-- What lines declare that are read at the top level one after the other. -/
def declared (ls : List Line) : ScriptDecl := (ls.foldl State.declare {}).parsed.decl

theorem readClassName_members (rest : Text) (d : ScriptDecl) :
    (readClassName rest d).members = d.members := by
  unfold readClassName
  dsimp only
  cases cut? (trim rest) " extends " <;> dsimp only <;> split <;> rfl

theorem addVariable_members (v : VariableDecl) {d d' : ScriptDecl} (h : d.members = d'.members) :
    (addVariable v d).members = (addVariable v d').members := by
  simp only [ScriptDecl.members, Prod.mk.injEq] at h
  unfold addVariable
  split <;> simp [ScriptDecl.members, h]

/-- The two states have the same variables, and the same annotations wait for the next one. -/
structure State.SameMembers (st d : State) : Prop where
  members : st.parsed.decl.members = d.parsed.decl.members
  pending : st.pending = d.pending

namespace State.SameMembers

variable {st d : State} {opts : Options}

theorem cleared (h : st.SameMembers d) :
    State.SameMembers { st with pending := [] } { d with pending := [] } :=
  ⟨h.members, rfl⟩

theorem keepsRest {st' : State} (h : st.SameMembers d) (hrest : st.KeepsRest st') :
    st'.SameMembers d :=
  ⟨hrest.members.trans h.members, hrest.pending.trans h.pending⟩

theorem variableLine (h : st.SameMembers d) (line : Nat) (code : Text) :
    (st.variableLine line code).SameMembers (d.variableLine line code) := by
  have hadd (v : VariableDecl) : (State.updateDecl { st with pending := [] }
      (addVariable v)).SameMembers (State.updateDecl { d with pending := [] } (addVariable v)) :=
    ⟨addVariable_members v h.members, rfl⟩
  unfold State.variableLine
  rw [h.pending]
  split
  · dsimp only
    cases enumDecl? code with
    | none => exact h.cleared
    | some v => exact hadd _
  · dsimp only
    split
    · exact ⟨h.members, rfl⟩
    · cases variableDecl? code with
      | none => exact h.cleared
      | some v => exact hadd _

/-- A line at the top level is read alike under all options that read variables. -/
theorem topLine (h : st.SameMembers d) (hopts : (opts.vars || opts.methods) = true) (line : Nat)
    (trimmed : Text) :
    (st.topLine opts line trimmed).SameMembers (d.topLine withoutMethods line trimmed) := by
  unfold State.topLine
  dsimp only [withoutMethods]
  split
  · -- A method says nothing of variables, whether it is read or not.
    have hskipped : State.SameMembers { st with pending := [] }
        { d with pending := [], place := .skipped } := ⟨h.members, rfl⟩
    simp only [Bool.not_false, if_true]
    split
    · exact ⟨h.members, rfl⟩
    · split
      · exact ⟨h.members, rfl⟩
      · exact hskipped.keepsRest (keepsRest_startMethod _ _ _)
  · split
    · refine ⟨?_, rfl⟩
      exact (readClassName_members _ _).trans (h.members.trans (readClassName_members _ _).symm)
    · split
      · exact ⟨h.members, rfl⟩
      · split
        · exact ⟨h.members, rfl⟩
        · split
          · split
            · exact ⟨h.members, rfl⟩
            · exact h.cleared
          · exact h.variableLine line _

theorem declare (h : st.SameMembers d) (l : Line) : (st.declare l).SameMembers (d.declare l) :=
  h.topLine rfl _ _

/-- A line is read at the top level, or it declares nothing but methods. -/
theorem next (h : st.SameMembers d) (hopts : (opts.vars || opts.methods) = true) (l : Line) :
    (st.next opts l).SameMembers (if l.IsTop ∧ st.signature = none then d.declare l else d) := by
  have htakes := next_takes opts st l
  generalize st.next opts l = st' at htakes ⊢
  have hsee : (st.see l).SameMembers d := ⟨h.members, h.pending⟩
  cases htakes with
  | blank hblank =>
    rw [if_neg fun ht => ht.1.nonblank hblank]
    exact h
  | signature _ hsig =>
    rw [if_neg (by simp [hsig])]
    exact hsee.keepsRest (keepsRest_continueSignature _ _ _)
  | noted _ htop =>
    rw [if_neg fun ht => htop ht.1]
    exact hsee
  | body _ htop =>
    rw [if_neg fun ht => htop ht.1]
    exact ⟨h.members, h.pending⟩
  | top htop hsig =>
    have hstart : (st.seeTop l).SameMembers d := ⟨h.members, h.pending⟩
    rw [if_pos ⟨htop, hsig⟩]
    exact hstart.topLine hopts _ _

theorem run (h : st.SameMembers d) (hopts : (opts.vars || opts.methods) = true)
    (ls : List Line) :
    (ls.foldl (State.next opts) st).SameMembers
      ((topLinesFrom opts.methods st.signature ls).foldl State.declare d) := by
  induction ls generalizing st d with
  | nil => exact h
  | cons l ls ih =>
    have htail := ih (h.next hopts l)
    rw [next_signature_eq] at htail
    rw [List.foldl_cons, topLinesFrom]
    split at htail
    · rwa [if_pos ‹_›]
    · rwa [if_neg ‹_›]

end State.SameMembers

/-- A parse has the variables that its top-level lines declare, if it reads any. -/
theorem parse_members (src : Text) {opts : Options} (h : (opts.vars || opts.methods) = true) :
    (parse src opts).decl.members = (declared (topLines opts.methods src)).members := by
  have hstart : State.SameMembers {} {} := ⟨rfl, rfl⟩
  exact ((hstart.run h (numberedLines src)).keepsRest (State.keepsRest_closeSignature _)).members

/-! ## Swallowed lines that declare no variable -/

/-- The line declares a variable or an enum, or it has annotations for the next declaration. -/
def Line.DeclaresMember (l : Line) : Prop :=
  (enumDecl? l.code).isSome = true ∨ (variableDecl? l.code).isSome = true ∨
    (splitAnnotations l.code).2 = [] ∧ ∃ a ∈ (splitAnnotations l.code).1, carriesOver a = true

instance (l : Line) : Decidable l.DeclaresMember := by
  unfold Line.DeclaresMember
  infer_instance

/-- A method leaves no annotations waiting. -/
theorem declare_func_pending {l : Line} (h : (funcKeyword? l.code).isSome = true) (d : State) :
    (d.declare l).pending = [] := by
  rw [Line.code] at h
  simp [State.declare, State.topLine, withoutMethods, h]

namespace State.SameMembers

variable {st d : State} {l : Line}

theorem variableLine_right (h : st.SameMembers d) (hl : ¬ l.DeclaresMember)
    (hpending : d.pending = []) (line : Nat) : st.SameMembers (d.variableLine line l.code) := by
  simp only [Line.DeclaresMember, not_or, Option.not_isSome_iff_eq_none] at hl
  obtain ⟨henum, hvar, hcarry⟩ := hl
  have hcleared : st.SameMembers { d with pending := [] } :=
    ⟨h.members, h.pending.trans hpending⟩
  unfold State.variableLine
  simp only [henum, hvar]
  split
  · exact hcleared
  · split
    · -- The annotations on the line belong to no declaration.
      rename_i hrest
      rw [Bool.and_eq_true, List.isEmpty_iff] at hrest
      have hnone : (splitAnnotations l.code).1.filter carriesOver = [] := by
        rw [List.filter_eq_nil_iff]
        exact fun a ha hc => hcarry ⟨hrest.1, a, ha, hc⟩
      simp only [hnone, hpending, List.append_nil]
      exact hcleared
    · exact hcleared

/-- With no annotations waiting, a line that declares no variable changes nothing. -/
theorem declare_right (h : st.SameMembers d) (hl : ¬ l.DeclaresMember)
    (hpending : d.pending = []) : st.SameMembers (d.declare l) := by
  have hcleared : st.SameMembers { d with pending := [] } :=
    ⟨h.members, h.pending.trans hpending⟩
  have hskipped : st.SameMembers { d with pending := [], place := .skipped } :=
    ⟨hcleared.members, hcleared.pending⟩
  unfold State.declare State.topLine
  dsimp only [withoutMethods]
  rw [← Line.code]
  split
  · exact hskipped
  split
  · exact ⟨hcleared.members.trans (readClassName_members _ _).symm, hcleared.pending⟩
  split
  · exact ⟨hcleared.members, hcleared.pending⟩
  split
  · exact hskipped
  split
  · split
    · exact ⟨hcleared.members, hcleared.pending⟩
    · exact hcleared
  exact h.variableLine_right hl hpending _

end State.SameMembers

/-- Only a top-level line with a method opens a signature. -/
theorem isTop_of_nextSignature {l : Line} (h : (nextSignature true none l).isSome = true) :
    l.IsTop ∧ (funcKeyword? l.code).isSome = true := by
  unfold nextSignature at h
  split at h
  · simp at h
  · simp only [Bool.true_and] at h
    split at h
    · rename_i hopen
      simp only [Bool.and_eq_true, decide_eq_true_eq] at hopen
      exact hopen.1
    · simp at h

/-- Reading swallowed lines too makes no difference if they declare no variable. Behind an open
signature no annotations wait, since the method has cleared them. -/
theorem topLinesFrom_sameMembers (ls : List Line) {sig : Option OpenSignature} {st d : State}
    (h : st.SameMembers d) (hpending : sig.isSome = true → st.pending = [])
    (hl : ∀ l ∈ swallowedFrom sig ls, ¬ l.DeclaresMember) :
    ((topLinesFrom true sig ls).foldl State.declare st).SameMembers
      ((ls.filter fun l => l.IsTop).foldl State.declare d) := by
  induction ls generalizing sig st d with
  | nil => exact h
  | cons l ls ih =>
    rw [swallowedFrom] at hl
    rw [topLinesFrom]
    by_cases htop : l.IsTop
    · rw [List.filter_cons_of_pos (by simpa using htop)]
      cases sig with
      | none =>
        rw [if_neg (by simp)] at hl
        rw [if_pos ⟨htop, rfl⟩]
        exact ih (h.declare l)
          (fun hsig => declare_func_pending (isTop_of_nextSignature hsig).2 st) hl
      | some sig =>
        rw [if_pos ⟨htop, rfl⟩] at hl
        rw [if_neg (by simp)]
        have hright := h.declare_right (hl l List.mem_cons_self)
          (h.pending.symm.trans (hpending rfl))
        exact ih hright (fun _ => hpending rfl) fun k hk => hl k (List.mem_cons_of_mem _ hk)
    · rw [if_neg (not_and_of_not_left _ htop)] at hl ⊢
      rw [List.filter_cons_of_neg (by simpa using htop)]
      refine ih h (fun hsig => ?_) hl
      cases sig with
      | none => exact absurd (isTop_of_nextSignature hsig).1 htop
      | some sig => exact hpending rfl

/-- If no swallowed line declares a variable, the variables do not depend on what else is read. -/
theorem declared_topLines {src : Text} (h : ∀ l ∈ swallowed src, ¬ l.DeclaresMember)
    (m m' : Bool) :
    (declared (topLines m src)).members = (declared (topLines m' src)).members := by
  have hstart : State.SameMembers {} {} := ⟨rfl, rfl⟩
  have heq : (declared (topLines true src)).members = (declared (topLines false src)).members := by
    rw [topLines_false]
    exact (topLinesFrom_sameMembers (numberedLines src) hstart (by simp) h).members
  cases m <;> cases m' <;> simp [heq]

end Script

end GodotSurvey
