import GodotSurvey.Proofs.Script.VariableLine
import GodotSurvey.Proofs.Script.Numbering

/-!
# Annotations before a variable and on its line

Annotations may stand on the line of a variable or on lines of their own before it. The reader takes
them two ways: those on the line are read with the variable, the others wait for it. It lets no
annotation wait that opens a group or speaks of the whole script, but on the line of a variable it
takes these too, and an annotation that opens a group is spelled like one that exports.

A script and the same script with the annotations moved are read side by side. The lines before the
annotations are the same; the lines behind the variable are the same but for their numbers, and what
they declare does not depend on what stands before them (`State.Behind`).

* `readLines_hasBetween` — the variables before the annotations, the variable with what waited for
  it, and the variables behind it.
* `sameVariables_iff` — among the same others, one variable decides whether the lists agree.
* `sameVariables_parse_iff` — **moving annotations changes nothing but whether the variable is
  exported, and that exactly if nothing else exports it but annotations that do not wait.**
* `group_exports_variable` — the annotation of a group, moved.
-/

namespace GodotSurvey

/-- The variable with its line moved, and without the annotations it was read with. -/
def VariableDecl.moved (f : Nat → Nat) (v : VariableDecl) : VariableDecl :=
  { v with line := f v.line, annotations := [] }

/-- The variable as `moved` leaves it, without what tells in which list it is. -/
def VariableDecl.unlisted (f : Nat → Nat) (v : VariableDecl) : VariableDecl :=
  { v.moved f with isExport := false }

/-- Lines moved by `f`, the same variables are reported in the same lists: only their annotations
may differ. -/
structure ScriptDecl.SameVariables (f : Nat → Nat) (d d' : ScriptDecl) : Prop where
  exports : d.exports.map (VariableDecl.moved f) = d'.exports.map (VariableDecl.moved id)
  vars : d.vars.map (VariableDecl.moved f) = d'.vars.map (VariableDecl.moved id)

/-- Lines moved by `f`, the same variables are reported, though not all in the same lists. -/
def ScriptDecl.SameButListed (f : Nat → Nat) (d d' : ScriptDecl) : Prop :=
  (d.allVariables.map (VariableDecl.unlisted f)).Perm
    (d'.allVariables.map (VariableDecl.unlisted id))

/-- The variables of `d` are those of `before`, then `v`, then those of `behind`. -/
structure ScriptDecl.HasBetween (d before : ScriptDecl) (v : VariableDecl) (behind : ScriptDecl) :
    Prop where
  exports : d.exports = before.exports ++ [v].filter (·.isExport) ++ behind.exports
  vars : d.vars = before.vars ++ [v].filter (!·.isExport) ++ behind.vars

namespace Script

open Text Lexing

/-! ## Variables behind others -/

/-- The variables of `st` are those of `d` behind some others, and the same annotations wait. -/
structure State.Behind (exports vars : List VariableDecl) (d st : State) : Prop where
  exports : st.parsed.decl.exports = exports ++ d.parsed.decl.exports
  vars : st.parsed.decl.vars = vars ++ d.parsed.decl.vars
  pending : st.pending = d.pending

namespace State.Behind

variable {exports vars : List VariableDecl} {d st : State}

theorem addVariable (h : Behind exports vars d st) (v : VariableDecl) :
    Behind exports vars (State.updateDecl { d with pending := [] } (addVariable v))
      (State.updateDecl { st with pending := [] } (Script.addVariable v)) := by
  have hexports := h.exports
  have hvars := h.vars
  unfold Script.addVariable
  cases v.isExport with
  | false => exact ⟨hexports, by simp [State.updateDecl, hvars], rfl⟩
  | true => exact ⟨by simp [State.updateDecl, hexports], hvars, rfl⟩

theorem variableLine (h : Behind exports vars d st) (line : Nat) (code : Text) :
    Behind exports vars (d.variableLine line code) (st.variableLine line code) := by
  have hcleared : Behind exports vars { d with pending := [] } { st with pending := [] } :=
    ⟨h.exports, h.vars, rfl⟩
  unfold State.variableLine
  rw [h.pending]
  split
  · cases enumDecl? code with
    | none => exact hcleared
    | some v => exact h.addVariable _
  · dsimp only
    split
    · exact ⟨h.exports, h.vars, rfl⟩
    · cases variableDecl? code with
      | none => exact hcleared
      | some v => exact h.addVariable _

theorem readClassName_vars (rest : Text) (d : ScriptDecl) :
    (readClassName rest d).exports = d.exports ∧ (readClassName rest d).vars = d.vars := by
  have h := readClassName_members rest d
  exact ⟨congrArg Prod.fst h, congrArg Prod.snd h⟩

/-- What a line declares does not depend on the variables before it. -/
theorem declare (h : Behind exports vars d st) (l : Line) :
    Behind exports vars (d.declare l) (st.declare l) := by
  have hcleared : Behind exports vars { d with pending := [] } { st with pending := [] } :=
    ⟨h.exports, h.vars, rfl⟩
  unfold State.declare State.topLine
  dsimp only [withoutMethods]
  simp only [Bool.not_false, Bool.or_false, if_true]
  split
  · exact ⟨h.exports, h.vars, rfl⟩
  split
  · rename_i rest _
    have hst := readClassName_vars rest st.parsed.decl
    have hd := readClassName_vars rest d.parsed.decl
    refine ⟨?_, ?_, rfl⟩
    · exact hst.1.trans (h.exports.trans (congrArg _ hd.1.symm))
    · exact hst.2.trans (h.vars.trans (congrArg _ hd.2.symm))
  split
  · exact ⟨h.exports, h.vars, rfl⟩
  split
  · exact ⟨h.exports, h.vars, rfl⟩
  split
  · split
    · exact ⟨h.exports, h.vars, rfl⟩
    · exact hcleared
  exact h.variableLine _ _

theorem run (h : Behind exports vars d st) (ls : List Line) :
    Behind exports vars (ls.foldl State.declare d) (ls.foldl State.declare st) := by
  induction ls generalizing d st with
  | nil => exact h
  | cons l ls ih => exact ih (h.declare l)

end State.Behind

/-! ## Renumbered lines -/

section

variable {f : Nat → Nat}

namespace State.Renumbers

variable {st st' : State}

theorem declare (h : st.Renumbers f st') (l : Line) :
    (st.declare l).Renumbers f (st'.declare (l.renumber f)) :=
  h.topLine withoutMethods l.number (trim l.text)

theorem runDeclare (h : st.Renumbers f st') (ls : List Line) :
    (ls.foldl State.declare st).Renumbers f
      ((ls.map (Line.renumber f)).foldl State.declare st') := by
  induction ls generalizing st st' with
  | nil => exact h
  | cons l ls ih => exact ih (h.declare l)

end State.Renumbers

theorem isTop_renumber (l : Line) : (l.renumber f).IsTop ↔ l.IsTop := by
  constructor
  · intro h
    exact ⟨h.nonblank, h.code, h.start⟩
  · intro h
    exact ⟨h.nonblank, h.code, h.start⟩

theorem nextSignature_renumber (m : Bool) (sig : Option OpenSignature) (l : Line) :
    nextSignature m (sig.map (OpenSignature.renumber f)) (l.renumber f) =
      (nextSignature m sig l).map (OpenSignature.renumber f) := by
  have hblank : (l.renumber f).IsBlank ↔ l.IsBlank := Iff.rfl
  have hcode : (l.renumber f).code = l.code := rfl
  unfold nextSignature
  simp only [hblank, isTop_renumber, hcode]
  split
  · rfl
  · cases sig with
    | some sig =>
      simp only [Option.map_some, OpenSignature.renumber]
      split <;> rfl
    | none =>
      simp only [Option.map_none]
      split <;> rfl

theorem topLinesFrom_renumber (m : Bool) (sig : Option OpenSignature) (ls : List Line) :
    topLinesFrom m (sig.map (OpenSignature.renumber f)) (ls.map (Line.renumber f)) =
      (topLinesFrom m sig ls).map (Line.renumber f) := by
  induction ls generalizing sig with
  | nil => rfl
  | cons l ls ih =>
    rw [List.map_cons, topLinesFrom, topLinesFrom, nextSignature_renumber, ih]
    simp only [isTop_renumber, Option.map_eq_none_iff]
    split <;> rfl

end

/-- The variables read behind a line. -/
def readBehind (opts : Options) (n : Nat) (ls : List Text) : State :=
  (topLinesFrom opts.methods none (numberedFrom n ls)).foldl State.declare {}

/-! ## A variable and the annotations before it -/

/-- Annotations on lines of their own wait, unless they stand for themselves. -/
theorem declare_annotations {as : List Annotation} (has : ∀ a ∈ as, a.WellFormed) (n : Nat)
    (st : State) :
    (numberedFrom n (as.map (·.print))).foldl State.declare st =
      { st with pending := st.pending ++ (as.map (·.print)).filter carriesOver } := by
  induction as generalizing n st with
  | nil => simp [numberedFrom]
  | cons a as ih =>
    have ha := has a List.mem_cons_self
    rw [List.map_cons, numberedFrom_cons, List.foldl_cons, declare_print ha rfl,
      ih fun b hb => has b (List.mem_cons_of_mem a hb)]
    simp [List.filter_cons]
    split <;> simp

theorem topLinesFrom_annotations {m : Bool} {as : List Annotation} (has : ∀ a ∈ as, a.WellFormed)
    (n : Nat) (ls : List Text) :
    topLinesFrom m none (numberedFrom n (as.map (·.print) ++ ls)) =
      numberedFrom n (as.map (·.print)) ++
        topLinesFrom m none (numberedFrom (n + as.length) ls) := by
  induction as generalizing n with
  | nil => rfl
  | cons a as ih =>
    have ha := has a List.mem_cons_self
    have hcode := code_of_print (l := ⟨n + 1, a.print⟩) ha rfl
    have hbegins := beginsMember_of_annotationLength (annotationLength_print ha)
    rw [List.map_cons, List.cons_append, numberedFrom_cons, numberedFrom_cons,
      topLinesFrom_cons (isTop_of_print ha rfl) (by rwa [hcode]),
      ih fun b hb => has b (List.mem_cons_of_mem a hb)]
    rw [List.length_cons, Nat.add_assoc n 1, Nat.add_comm 1]
    rfl

/-- A variable that is declared stands behind those before it, and nothing waits any more. -/
theorem behind_variable (st : State) (v : VariableDecl) :
    State.Behind (st.parsed.decl.exports ++ [v].filter (·.isExport))
      (st.parsed.decl.vars ++ [v].filter (!·.isExport)) {}
      (State.updateDecl { st with pending := [] } (addVariable v)) := by
  unfold addVariable State.updateDecl
  cases h : v.isExport <;> constructor <;> simp [h]

section

variable {opts : Options} {before after : List Text} {as : List Annotation} {d : Text}
  {v : VariableDecl}

/-- Behind lines that leave no signature open, the variables are those of the next lines. -/
theorem readLines_members (hopts : (opts.vars || opts.methods) = true)
    (hsig : (readState opts before).signature = none) (ls : List Text) :
    (readLines opts (before ++ ls)).decl.members =
      ((topLinesFrom opts.methods none (numberedFrom before.length ls)).foldl State.declare
        (readState opts before)).parsed.decl.members := by
  have hstart : (readState opts before).SameMembers (readState opts before) := ⟨rfl, rfl⟩
  have hrun := hstart.run hopts (numberedFrom before.length ls)
  have hlines : readState opts (before ++ ls) =
      (numberedFrom before.length ls).foldl (State.next opts) (readState opts before) := by
    rw [readState, numbered_append, List.foldl_append]
    rfl
  rw [hsig, ← hlines] at hrun
  exact (State.keepsRest_closeSignature _).members.trans hrun.members

/-- Annotations on lines of their own before a variable are reported with it, as far as they wait
for it. -/
theorem readLines_hasBetween (hopts : (opts.vars || opts.methods) = true)
    (hsig : (readState opts before).signature = none) (has : ∀ a ∈ as, a.WellFormed)
    (hindent : indent d = 0) (hv : variableDecl? d = some v) (after : List Text) :
    let st := readState opts before
    let n := before.length + as.length + 1
    let carried := (as.map (·.print)).filter carriesOver
    (readLines opts (before ++ (as.map (·.print) ++ d :: after))).decl.HasBetween
      st.parsed.decl { annotate (st.pending ++ carried) v with line := n }
      (readBehind opts n after).parsed.decl := by
  intro st n carried
  let v' : VariableDecl := { annotate (st.pending ++ carried) v with line := n }
  have hbegins : BeginsMember (Line.code ⟨n, d⟩) := Line.beginsMember hv
  have htop : Line.IsTop ⟨n, d⟩ := Line.isTop_of_variableDecl? hv hindent
  have hrun := (behind_variable st v').run (topLinesFrom opts.methods none (numberedFrom n after))
  have hlines : (topLinesFrom opts.methods none (numberedFrom before.length
      (as.map (·.print) ++ d :: after))).foldl State.declare st =
        (topLinesFrom opts.methods none (numberedFrom n after)).foldl State.declare
          (State.updateDecl { st with pending := [] } (addVariable v')) := by
    rw [topLinesFrom_annotations has, numberedFrom_cons, topLinesFrom_cons htop hbegins,
      List.foldl_append, declare_annotations has, List.foldl_cons, declare_variable hv]
  have hmembers := readLines_members hopts hsig (as.map (·.print) ++ d :: after)
  rw [hlines] at hmembers
  exact ⟨(congrArg Prod.fst hmembers).trans hrun.exports,
    (congrArg Prod.snd hmembers).trans hrun.vars⟩

end

/-! ## One variable among the same others -/

section

variable {f : Nat → Nat}

theorem map_unlisted (f : Nat → Nat) (vs : List VariableDecl) :
    vs.map (VariableDecl.unlisted f) =
      (vs.map (VariableDecl.moved f)).map fun v => { v with isExport := false } := by
  rw [List.map_map]
  rfl

theorem State.Renumbers.sameVariables {st st' : State} (h : st.Renumbers f st') :
    st.parsed.decl.SameVariables f st'.parsed.decl := by
  have hmap (vs : List VariableDecl) : vs.map (VariableDecl.moved f) =
      (vs.map (VariableDecl.renumber f)).map (VariableDecl.moved id) := by
    rw [List.map_map]
    rfl
  rw [h.decl]
  exact ⟨hmap _, hmap _⟩

variable {d d' b b' e e' : ScriptDecl} {v v' : VariableDecl}

theorem perm_allVariables (h : d.HasBetween b v e) :
    d.allVariables.Perm (v :: ((b.exports ++ e.exports) ++ (b.vars ++ e.vars))) := by
  rw [ScriptDecl.allVariables, h.exports, h.vars]
  cases hv : v.isExport with
  | true =>
    simp [hv]
  | false =>
    have hperm : ((b.exports ++ e.exports ++ b.vars) ++ v :: e.vars).Perm
        (v :: ((b.exports ++ e.exports ++ b.vars) ++ e.vars)) := List.perm_middle
    simpa [hv] using hperm

theorem sameButListed (h : d.HasBetween b v e) (h' : d'.HasBetween b' v' e')
    (hb : b.SameVariables f b') (he : e.SameVariables f e')
    (hv : v.unlisted f = v'.unlisted id) : d.SameButListed f d' := by
  have hothers : ((b.exports ++ e.exports) ++ (b.vars ++ e.vars)).map (VariableDecl.unlisted f) =
      ((b'.exports ++ e'.exports) ++ (b'.vars ++ e'.vars)).map (VariableDecl.unlisted id) := by
    rw [map_unlisted, map_unlisted]
    simp only [List.map_append, hb.exports, hb.vars, he.exports, he.vars]
  have hleft := (perm_allVariables h).map (VariableDecl.unlisted f)
  have hright := (perm_allVariables h').map (VariableDecl.unlisted id)
  rw [List.map_cons, hv, hothers] at hleft
  exact hleft.trans hright.symm

/-- Whether the lists agree is told by the one variable alone. -/
theorem sameVariables_iff (h : d.HasBetween b v e) (h' : d'.HasBetween b' v' e')
    (hb : b.SameVariables f b') (he : e.SameVariables f e')
    (hv : v.unlisted f = v'.unlisted id) :
    d.SameVariables f d' ↔ v.isExport = v'.isExport := by
  constructor
  · intro hsame
    have hlength := congrArg List.length hsame.exports
    have hlengthb := congrArg List.length hb.exports
    have hlengthe := congrArg List.length he.exports
    simp only [h.exports, h'.exports, List.length_map, List.length_append]
      at hlength hlengthb hlengthe
    cases hexport : v.isExport <;> cases hexport' : v'.isExport <;>
      simp [hexport, hexport'] at hlength ⊢ <;> omega
  · intro hexport
    have hmoved : v.moved f = v'.moved id := by
      have hparts := hv
      simp only [VariableDecl.unlisted, VariableDecl.moved, VariableDecl.mk.injEq] at hparts ⊢
      exact ⟨hparts.1, hparts.2.1, hparts.2.2.1, hexport, hparts.2.2.2.2⟩
    constructor
    · rw [h.exports, h'.exports]
      simp only [List.map_append, hb.exports, he.exports]
      cases hcase : v'.isExport <;> simp [hexport, hcase, hmoved]
    · rw [h.vars, h'.vars]
      simp only [List.map_append, hb.vars, he.vars]
      cases hcase : v'.isExport <;> simp [hexport, hcase, hmoved]

end

/-! ## Annotations that do not carry over -/

theorem carriesOver_of_isOnready {a : Text} (h : isOnreadyAnnotation a = true) :
    carriesOver a = true := by
  simp only [ isOnreadyAnnotation, Bool.or_eq_true, beq_iff_eq] at h
  rcases h with rfl | rfl <;> decide

/-- Without the annotations that do not carry over, a variable differs at most in whether it is
exported. -/
theorem unlisted_annotate_filter (p xs : List Text) (v : VariableDecl) {f : Nat → Nat} {n m : Nat}
    (hf : f n = m) :
    VariableDecl.unlisted f { annotate (p ++ xs.filter carriesOver) v with line := n } =
      VariableDecl.unlisted id { annotate (p ++ xs) v with line := m } := by
  have honready : (xs.filter carriesOver).any isOnreadyAnnotation =
      xs.any isOnreadyAnnotation := by
    rw [List.any_filter]
    congr 1
    funext a
    cases h : isOnreadyAnnotation a with
    | false => exact Bool.and_false _
    | true => rw [carriesOver_of_isOnready h]; rfl
  simp only [VariableDecl.unlisted, VariableDecl.moved, annotate, List.any_append, honready, hf, id]

/-- They matter to the export exactly if the variable is not exported without them. -/
theorem isExport_annotate_filter_iff (p xs : List Text) (v : VariableDecl) :
    (annotate (p ++ xs.filter carriesOver) v).isExport = (annotate (p ++ xs) v).isExport ↔
      ((∃ a ∈ xs, isExportAnnotation a = true) →
        v.isExport = true ∨ (∃ a ∈ p, isExportAnnotation a = true) ∨
          ∃ a ∈ xs, isExportAnnotation a = true ∧ carriesOver a = true) := by
  have hfilter : (xs.filter carriesOver).any isExportAnnotation = true ↔
      ∃ a ∈ xs, isExportAnnotation a = true ∧ carriesOver a = true := by
    simp [and_comm]
  have hany : xs.any isExportAnnotation = true ↔ ∃ a ∈ xs, isExportAnnotation a = true :=
    List.any_eq_true
  have hfewer : (∃ a ∈ xs, isExportAnnotation a = true ∧ carriesOver a = true) →
      ∃ a ∈ xs, isExportAnnotation a = true := fun ⟨a, ha, h, _⟩ => ⟨a, ha, h⟩
  have hpending : p.any isExportAnnotation = true ↔ ∃ a ∈ p, isExportAnnotation a = true :=
    List.any_eq_true
  rw [Bool.eq_iff_iff]
  simp only [annotate, List.any_append, Bool.or_eq_true, hfilter, hany, hpending]
  constructor
  · intro h hexport
    exact h.2 (.inr (.inr hexport))
  · intro h
    constructor
    · rintro (hv | hp | hx)
      · exact .inl hv
      · exact .inr (.inl hp)
      · exact .inr (.inr (hfewer hx))
    · rintro (hv | hp | hx)
      · exact .inl hv
      · exact .inr (.inl hp)
      · exact h hx

/-! ## Annotations apart and together -/

/-- The number of a line once the `k` lines behind the first `n` are gone. -/
def closeGap (n k i : Nat) : Nat := if i ≤ n then i else i - k

theorem closeGap_behind (n k i : Nat) : closeGap n k (n + k + 1 + i) = n + 1 + i := by
  rw [closeGap, if_neg (by omega)]
  omega

theorem sameVariables_readState (opts : Options) (ls : List Text) (k : Nat) :
    let decl := (readState opts ls).parsed.decl
    decl.SameVariables (closeGap ls.length k) decl := by
  intro decl
  have hlines : (numbered ls).map (Line.renumber (closeGap ls.length k)) = numbered ls :=
    numbered_renumber fun n hn => if_pos hn
  have hstart : State.Renumbers (closeGap ls.length k) {} {} := ⟨rfl, rfl, rfl, rfl, rfl⟩
  have hrun := hstart.run opts (numbered ls)
  rw [hlines] at hrun
  exact hrun.sameVariables

theorem sameVariables_readBehind (opts : Options) (n k : Nat) (ls : List Text) :
    (readBehind opts (n + k + 1) ls).parsed.decl.SameVariables (closeGap n k)
      (readBehind opts (n + 1) ls).parsed.decl := by
  have hlines := numberedFrom_renumber (fun i => closeGap_behind n k (i + 1)) ls
  have hstart : State.Renumbers (closeGap n k) {} {} := ⟨rfl, rfl, rfl, rfl, rfl⟩
  have htop := topLinesFrom_renumber (f := closeGap n k) opts.methods none
    (numberedFrom (n + k + 1) ls)
  have hrun := hstart.runDeclare (topLinesFrom opts.methods none (numberedFrom (n + k + 1) ls))
  rw [← htop, hlines] at hrun
  exact hrun.sameVariables

theorem indent_printAnnotations (as : List Annotation) {d : Text} (h : indent d = 0) :
    indent (printAnnotations as ++ d) = 0 := by
  cases as with
  | nil => exact h
  | cons a as =>
    obtain ⟨s, hs⟩ := a.exists_print
    rw [printAnnotations_cons, hs]
    rfl

/-- **Where annotations stand does not matter to their variable, but for its export.** On lines of
their own directly before a variable or on its line, they make a script report the same variables
with the same flags and scopes. It reports them in the same lists exactly if the variable is not
exported by those annotations alone that carry over to no other line. -/
theorem sameVariables_parse_iff {opts : Options} (hopts : (opts.vars || opts.methods) = true)
    {before after : List Text} (hsig : (readState opts before).signature = none)
    {as : List Annotation} (has : ∀ a ∈ as, a.WellFormed) {d : Text} (hindent : indent d = 0)
    {v : VariableDecl} (hv : variableDecl? d = some v) {apart together : Text}
    (hapart : sourceLines apart = before ++ (as.map (·.print) ++ d :: after))
    (htogether : sourceLines together = before ++ (printAnnotations as ++ d) :: after) :
    let f := closeGap before.length as.length
    (parse apart opts).decl.SameButListed f (parse together opts).decl ∧
      ((parse apart opts).decl.SameVariables f (parse together opts).decl ↔
        ((∃ a ∈ as, isExportAnnotation a.print = true) →
          v.isExport = true ∨ (∃ a ∈ (readState opts before).pending, isExportAnnotation a = true) ∨
            ∃ a ∈ as, isExportAnnotation a.print = true ∧ carriesOver a.print = true)) := by
  intro f
  have hfront : variableDecl? (printAnnotations as ++ d) =
      some (annotate (as.map (·.print)) v) := by
    rw [variableDecl?_printAnnotations has, hv]
    rfl
  have hleft := readLines_hasBetween hopts hsig has hindent hv after
  have hnone : ∀ a ∈ ([] : List Annotation), a.WellFormed := by simp
  have hright := readLines_hasBetween hopts hsig hnone (indent_printAnnotations as hindent) hfront
    after
  simp only [List.map_nil, List.filter_nil, List.append_nil, List.length_nil, List.nil_append,
    Nat.add_zero, ← annotate_append] at hright
  have hvariable := unlisted_annotate_filter (readState opts before).pending (as.map (·.print)) v
    (closeGap_behind before.length as.length 0)
  have hbefore := sameVariables_readState opts before as.length
  have hbehind := sameVariables_readBehind opts before.length as.length after
  have hexport := isExport_annotate_filter_iff (readState opts before).pending (as.map (·.print)) v
  rw [parse_eq_readLines, parse_eq_readLines, hapart, htogether]
  refine ⟨sameButListed hleft hright hbefore hbehind hvariable, ?_⟩
  rw [sameVariables_iff hleft hright hbefore hbehind hvariable]
  have hmap (P : Text → Prop) : (∃ s ∈ as.map (·.print), P s) ↔ ∃ a ∈ as, P a.print := by
    constructor
    · rintro ⟨s, hs, h⟩
      obtain ⟨a, ha, rfl⟩ := List.mem_map.1 hs
      exact ⟨a, ha, h⟩
    · rintro ⟨a, ha, h⟩
      exact ⟨a.print, List.mem_map_of_mem ha, h⟩
  rwa [hmap, hmap] at hexport

/-- The annotations `@export_range(0, 9)` and `@onready` export a variable from their own lines as
they do from its line. -/
theorem sameVariables_parse_iff_range :
    let before : List Text := ["extends Node"]
    let as : List Annotation := [⟨"export_range", some "0, 9"⟩, ⟨"onready", none⟩]
    let d : Text := "var hp = 1 # life"
    let v : VariableDecl := { name := "hp", default := "1" }
    let apart : Text := "extends Node\n@export_range(0, 9)\n@onready\nvar hp = 1 # life\nvar x"
    let together : Text := "extends Node\n@export_range(0, 9) @onready var hp = 1 # life\nvar x"
    ((readState {} before).signature = none ∧ (∀ a ∈ as, a.WellFormed) ∧ indent d = 0 ∧
      variableDecl? d = some v ∧
      sourceLines apart = before ++ (as.map (·.print) ++ [d, "var x"]) ∧
      sourceLines together = before ++ [printAnnotations as ++ d, "var x"]) ∧
      (parse apart {}).decl.SameVariables (closeGap before.length as.length)
        (parse together {}).decl := by
  intro before as d v apart together
  have hsig : (readState {} before).signature = none := by decide +kernel
  have has : ∀ a ∈ as, a.WellFormed := by decide +kernel
  have hindent : indent d = 0 := by decide
  have hv : variableDecl? d = some v := by decide +kernel
  have hapart : sourceLines apart = before ++ (as.map (·.print) ++ [d, "var x"]) := by
    decide +kernel
  have htogether : sourceLines together = before ++ [printAnnotations as ++ d, "var x"] := by
    decide +kernel
  refine ⟨⟨hsig, has, hindent, hv, hapart, htogether⟩, ?_⟩
  have h := sameVariables_parse_iff rfl hsig has hindent hv hapart htogether
  exact h.2.2 fun _ => .inr (.inr ⟨⟨"export_range", some "0, 9"⟩, by decide, by decide, by decide⟩)

/-- An annotation that opens a group exports no variable from a line of its own, but it does so from
the line of the variable. -/
theorem group_exports_variable :
    (⟨"export_group", some "\"Combat\""⟩ : Annotation).WellFormed ∧
      (let apart := (parse "@export_group(\"Combat\")\nvar hp = 1\n" {}).decl
       apart.exports = [] ∧ apart.vars.map (·.name) = [Text.ofString "hp"]) ∧
      (let together := (parse "@export_group(\"Combat\") var hp = 1\n" {}).decl
       together.exports.map (·.name) = [Text.ofString "hp"] ∧ together.vars = []) := by
  decide +kernel

end Script

end GodotSurvey
