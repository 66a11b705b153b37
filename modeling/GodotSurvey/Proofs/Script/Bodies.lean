import GodotSurvey.Script.Parser

/-!
# Bodies run parallel to methods

The reader keeps one body for each method. Its state carries an invariant, `Aligned`: after `n`
lines the bodies have the names and lines of the methods, each body ends before the next one
starts, and a signature that is still open lies behind every body read so far.

* `topLine_cases` — what a top-level line can do to methods and bodies.
* `State.Aligned.next` — a line keeps the invariant; `aligned_stateAfter` — so does a run.
* `parse_aligned` — what that means for a parsed script.
-/

namespace GodotSurvey.Script

open Text Lexing

/-! ## What a top-level line can do -/

/-- `st'` has the methods, the bodies and the open signature of `st`, and is inside a body only
if `st` is. -/
structure State.Keeps (st st' : State) : Prop where
  methods : st'.parsed.decl.methods = st.parsed.decl.methods
  bodies : st'.parsed.bodies = st.parsed.bodies
  signature : st'.signature = st.signature
  place : st'.place = .body → st.place = .body

theorem readClassName_methods (rest : Text) (d : ScriptDecl) :
    (readClassName rest d).methods = d.methods := by
  unfold readClassName
  dsimp only
  cases cut? (trim rest) " extends " <;> dsimp only <;> split <;> rfl

theorem addVariable_methods (v : VariableDecl) (d : ScriptDecl) :
    (addVariable v d).methods = d.methods := by
  unfold addVariable
  split <;> rfl

theorem keeps_updateDecl {st : State} {f : ScriptDecl → ScriptDecl} (pending : List Text)
    (hf : ∀ d, (f d).methods = d.methods) :
    st.Keeps ({ st with pending := pending }.updateDecl f) :=
  ⟨hf _, rfl, rfl, id⟩

theorem keeps_pending (st : State) (pending : List Text) :
    st.Keeps { st with pending := pending } :=
  ⟨rfl, rfl, rfl, id⟩

theorem keeps_variableLine (st : State) (line : Nat) (code : Text) :
    st.Keeps (st.variableLine line code) := by
  unfold State.variableLine
  split
  · dsimp only
    split
    · exact keeps_updateDecl [] (addVariable_methods _)
    · exact keeps_pending st []
  · dsimp only
    split
    · exact keeps_pending st _
    · split
      · exact keeps_updateDecl [] (addVariable_methods _)
      · exact keeps_pending st []

/-- A top-level line keeps the methods, opens a signature whose parameters are not closed on the
line, or starts a method. -/
theorem topLine_cases (opts : Options) (st : State) (line : Nat) (trimmed : Text) :
    let code := trim (stripComment trimmed)
    st.Keeps (st.topLine opts line trimmed) ∨
    (hasOpenParameters code = true ∧ st.topLine opts line trimmed =
      { st with pending := [], signature := some ⟨code, line⟩ }) ∨
    st.topLine opts line trimmed = { st with pending := [] }.startMethod line code := by
  intro code
  have skip : st.Keeps { st with pending := [], place := .skipped } :=
    ⟨rfl, rfl, rfl, by simp⟩
  unfold State.topLine
  dsimp only
  split
  · split
    · exact .inl skip
    · split
      · rename_i hopen
        exact .inr (.inl ⟨hopen, rfl⟩)
      · exact .inr (.inr rfl)
  · left
    split
    · exact keeps_updateDecl [] (readClassName_methods _)
    · split
      · exact keeps_updateDecl [] fun _ => rfl
      · split
        · exact skip
        · split
          · split
            · exact keeps_updateDecl [] fun _ => rfl
            · exact keeps_pending st []
          · split
            · exact keeps_variableLine st line _
            · exact ⟨rfl, rfl, rfl, id⟩

/-! ## The invariant -/

/-- The body starts before line `k` and has no line from there on. -/
structure Body.Below (b : Body) (k : Nat) : Prop where
  start : b.start < k
  lines : ∀ l ∈ b.lines, l.number < k

theorem Body.Below.mono {b : Body} {j k : Nat} (h : b.Below j) (hjk : j ≤ k) : b.Below k :=
  ⟨by have := h.start; omega, fun l hl => by have := h.lines l hl; omega⟩

/-- The lines of a body ascend from its start, and all but those on the line of the signature
are lines of the source `ls`. -/
structure Body.Faithful (ls : List Line) (b : Body) : Prop where
  ascending : b.lines.Pairwise fun l l' => l.number < l'.number
  start_le : ∀ l ∈ b.lines, b.start ≤ l.number
  verbatim : ∀ l ∈ b.lines, b.start < l.number → l ∈ ls

/-- The body with one more line. -/
def Body.push (b : Body) (line : Line) : Body := { b with lines := b.lines ++ [line] }

/-- What the reader of `ls` keeps true after `n` lines. -/
structure State.Aligned (ls : List Line) (n : Nat) (st : State) : Prop where
  heads : st.parsed.bodies.map (fun b => (b.name, b.start)) =
    st.parsed.decl.methods.map (fun m => (m.name, m.line))
  faithful : ∀ b ∈ st.parsed.bodies, b.Faithful ls
  ordered : st.parsed.bodies.Pairwise fun a b => a.Below b.start
  seen : ∀ b ∈ st.parsed.bodies, b.Below (n + 1)
  signature : ∀ sig, st.signature = some sig →
    sig.line ≤ n ∧ ∀ b ∈ st.parsed.bodies, b.Below sig.line
  place : st.place = .body → st.parsed.bodies ≠ []

namespace State.Aligned

variable {ls : List Line} {n : Nat} {st st' : State}

theorem keeps (h : st.Aligned ls n) (k : st.Keeps st') : st'.Aligned ls n where
  heads := by rw [k.bodies, k.methods, h.heads]
  faithful := by rw [k.bodies]; exact h.faithful
  ordered := by rw [k.bodies]; exact h.ordered
  seen := by rw [k.bodies]; exact h.seen
  signature := by rw [k.bodies, k.signature]; exact h.signature
  place := by rw [k.bodies]; exact fun hp => h.place (k.place hp)

theorem later (h : st.Aligned ls n) : st.Aligned ls (n + 1) where
  heads := h.heads
  faithful := h.faithful
  ordered := h.ordered
  seen b hb := (h.seen b hb).mono (by omega)
  signature sig hs := ⟨by have := (h.signature sig hs).1; omega, (h.signature sig hs).2⟩
  place := h.place

theorem oneLineBody_number {line : Nat} {code : Text} {l : Line} (h : l ∈ oneLineBody line code) :
    l.number = line := by
  unfold oneLineBody at h
  split at h
  · simp at h
  · dsimp only at h
    split at h
    · simp at h
    · rw [List.mem_singleton.1 h]

theorem oneLineBody_length (line : Nat) (code : Text) : (oneLineBody line code).length ≤ 1 := by
  unfold oneLineBody
  split
  · simp
  · dsimp only
    split <;> simp

theorem faithful_oneLineBody (name : Text) (line : Nat) (code : Text) :
    Body.Faithful ls { name, start := line, lines := oneLineBody line code } where
  ascending := by
    have hlen := oneLineBody_length line code
    match h : oneLineBody line code with
    | [] => exact .nil
    | [l] => exact List.pairwise_singleton _ _
    | _ :: _ :: _ => simp [h] at hlen
  start_le l hl := Nat.le_of_eq (oneLineBody_number hl).symm
  verbatim l hl hlt := by
    have := oneLineBody_number hl
    simp only at hlt
    omega

/-- A method may start on any line up to `n` that lies behind all bodies. -/
theorem startMethod {line : Nat} (h : st.Aligned ls n) (hsig : st.signature = none)
    (hn : line ≤ n) (hb : ∀ b ∈ st.parsed.bodies, b.Below line) (code : Text) :
    (st.startMethod line code).Aligned ls n := by
  unfold State.startMethod
  split
  · exact h.keeps ⟨rfl, rfl, rfl, by simp⟩
  · rename_i m _
    exact {
      heads := by simp [h.heads]
      faithful := by
        intro b hmem
        rcases List.mem_append.1 hmem with hmem | hmem
        · exact h.faithful b hmem
        · rw [List.mem_singleton.1 hmem]
          exact faithful_oneLineBody m.name line code
      ordered := by
        refine List.pairwise_append.2 ⟨h.ordered, List.pairwise_singleton _ _, ?_⟩
        intro a ha b hmem
        rw [List.mem_singleton.1 hmem]
        exact hb a ha
      seen := by
        intro b hmem
        rcases List.mem_append.1 hmem with hmem | hmem
        · exact h.seen b hmem
        · rw [List.mem_singleton.1 hmem]
          exact ⟨Nat.lt_succ_of_le hn, fun l hl => by rw [oneLineBody_number hl]; omega⟩
      signature := by simp [hsig]
      place := by simp }

theorem closeSignature (h : st.Aligned ls n) : st.closeSignature.Aligned ls n := by
  unfold State.closeSignature
  split
  · exact h
  · rename_i sig hs
    obtain ⟨hn, hb⟩ := h.signature sig hs
    have h' : State.Aligned ls n { st with signature := none } :=
      ⟨h.heads, h.faithful, h.ordered, h.seen, by simp, h.place⟩
    exact h'.startMethod rfl hn hb sig.text

/-! ## One line -/

theorem pushLine_concat (line : Line) (bs : List Body) (b : Body) :
    pushLine line (bs ++ [b]) = bs ++ [b.push line] := by
  induction bs with
  | nil => rfl
  | cons a bs ih =>
    cases bs with
    | nil => rfl
    | cons a' bs => simpa [pushLine] using ih

theorem faithful_push {b : Body} {line : Line} (h : b.Faithful ls) (hb : b.Below (n + 1))
    (hl : line.number = n + 1) (hmem : line ∈ ls) : (b.push line).Faithful ls where
  ascending := by
    refine List.pairwise_append.2 ⟨h.ascending, List.pairwise_singleton _ _, ?_⟩
    intro l hmem' l' hl'
    rw [List.mem_singleton.1 hl', hl]
    exact hb.lines l hmem'
  start_le l hl' := by
    rcases List.mem_append.1 hl' with hl' | hl'
    · exact h.start_le l hl'
    · rw [List.mem_singleton.1 hl', hl]
      exact Nat.le_of_lt hb.start
  verbatim l hl' hlt := by
    rcases List.mem_append.1 hl' with hl' | hl'
    · exact h.verbatim l hl' hlt
    · rw [List.mem_singleton.1 hl']
      exact hmem

/-- The next line of the source may be added to the last body. -/
theorem pushLine {line : Line} (h : st.Aligned ls n) (hsig : st.signature = none)
    (hl : line.number = n + 1) (hmem : line ∈ ls) :
    State.Aligned ls (n + 1)
      { st with parsed := { st.parsed with bodies := Script.pushLine line st.parsed.bodies } } := by
  rcases List.eq_nil_or_concat st.parsed.bodies with hnil | ⟨bs, b, hbs⟩
  · have hsame : st.Keeps { st with
        parsed := { st.parsed with bodies := Script.pushLine line st.parsed.bodies } } :=
      ⟨rfl, by rw [hnil]; rfl, rfl, id⟩
    exact h.later.keeps hsame
  · rw [List.concat_eq_append] at hbs
    have hheads := h.heads
    have hord := h.ordered
    have hfaith := h.faithful
    have hseen := h.seen
    rw [hbs] at hheads hord hfaith hseen
    obtain ⟨hord, -, hlast⟩ := List.pairwise_append.1 hord
    have hb : b ∈ bs ++ [b] := List.mem_append_right _ (List.mem_singleton_self b)
    simp only [hbs, pushLine_concat]
    exact {
      heads := by simpa [Body.push] using hheads
      faithful := by
        intro a ha
        rcases List.mem_append.1 ha with ha | ha
        · exact hfaith a (List.mem_append_left _ ha)
        · rw [List.mem_singleton.1 ha]
          exact faithful_push (hfaith b hb) (hseen b hb) hl hmem
      ordered := by
        refine List.pairwise_append.2 ⟨hord, List.pairwise_singleton _ _, ?_⟩
        intro a ha c hc
        rw [List.mem_singleton.1 hc]
        exact hlast a ha b (List.mem_singleton_self b)
      seen := by
        intro a ha
        rcases List.mem_append.1 ha with ha | ha
        · exact (hseen a (List.mem_append_left _ ha)).mono (by omega)
        · rw [List.mem_singleton.1 ha]
          refine ⟨(Nat.lt_succ_of_lt (hseen b hb).start), fun l hl' => ?_⟩
          rcases List.mem_append.1 hl' with hl' | hl'
          · exact Nat.lt_succ_of_lt ((hseen b hb).lines l hl')
          · rw [List.mem_singleton.1 hl', hl]
            exact Nat.lt_succ_self _
      signature := by simp [hsig]
      place := by simp }

theorem continueSignature {sig : OpenSignature} (h : st.Aligned ls n)
    (hsig : st.signature = some sig) (trimmed : Text) :
    (st.continueSignature sig trimmed).Aligned ls n := by
  have h' (text : Text) : State.Aligned ls n { st with signature := some { sig with text } } :=
    ⟨h.heads, h.faithful, h.ordered, h.seen,
      fun sig' hs => by cases hs; exact h.signature sig hsig, h.place⟩
  unfold State.continueSignature
  dsimp only
  split
  · exact h' _
  · exact (h' _).closeSignature

theorem topLine {line : Nat} (h : st.Aligned ls n) (hsig : st.signature = none)
    (hl : line = n + 1) (opts : Options) (trimmed : Text) :
    (st.topLine opts line trimmed).Aligned ls (n + 1) := by
  have hcleared := h.later.keeps (keeps_pending st [])
  have hseen : ∀ b ∈ st.parsed.bodies, b.Below line := hl ▸ h.seen
  rcases topLine_cases opts st line trimmed with hk | ⟨-, hc⟩ | hc
  · exact h.later.keeps hk
  · rw [hc]
    refine ⟨hcleared.heads, hcleared.faithful, hcleared.ordered, hcleared.seen, ?_,
      hcleared.place⟩
    rintro sig ⟨⟩
    exact ⟨Nat.le_of_eq hl, hseen⟩
  · rw [hc]
    exact hcleared.startMethod hsig (Nat.le_of_eq hl) hseen _

/-- **One line keeps the invariant**, whatever it holds. -/
theorem next {line : Line} (h : st.Aligned ls n) (hl : line.number = n + 1) (hmem : line ∈ ls)
    (opts : Options) : (st.next opts line).Aligned ls (n + 1) := by
  let seen : Parsed := { st.parsed with lines := st.parsed.lines ++ [line] }
  have hlines : State.Aligned ls n { st with parsed := seen } := h.keeps ⟨rfl, rfl, rfl, id⟩
  unfold State.next
  dsimp only
  split
  · exact h.later
  · split
    · rename_i sig hsig
      exact hlines.later.continueSignature hsig _
    · rename_i hsig
      split
      · exact hlines.later
      · split
        · split
          · exact hlines.pushLine hsig hl hmem
          · exact hlines.later
        · have htop : State.Aligned ls n { st with place := .topLevel, parsed := seen } :=
            hlines.keeps ⟨rfl, rfl, rfl, by simp⟩
          exact htop.topLine hsig hl opts _

end State.Aligned

/-! ## The body being read -/

/-- The line is indented and neither blank nor a comment. -/
structure Line.IsIndented (l : Line) : Prop where
  nonempty : trim l.text ≠ []
  code : startsWith (trim l.text) "#" = false
  indented : 0 < indent l.text

/-- Inside a body, the body being read is the one with the last index, which is in range: an
indented line goes there and nowhere else. -/
def State.FillsLast (opts : Options) (st : State) : Prop :=
  st.place = .body → ∃ i, i + 1 = st.parsed.bodies.length ∧
    ∀ l : Line, l.IsIndented → st.signature = none →
      (st.next opts l).parsed.bodies = st.parsed.bodies.modify i (·.push l)

theorem next_bodies_of_isIndented {opts : Options} {st : State} {l : Line} (hl : l.IsIndented)
    (hplace : st.place = .body) (hsig : st.signature = none) :
    (st.next opts l).parsed.bodies = pushLine l st.parsed.bodies := by
  have h₁ : (trim l.text).isEmpty = false := by simpa using hl.nonempty
  simp [State.next, h₁, hsig, hl.code, hl.indented, hplace]

theorem State.Aligned.fillsLast {ls : List Line} {n : Nat} {st : State} (h : st.Aligned ls n)
    (opts : Options) : st.FillsLast opts := by
  intro hplace
  rcases List.eq_nil_or_concat st.parsed.bodies with hnil | ⟨bs, b, hbs⟩
  · exact absurd hnil (h.place hplace)
  · rw [List.concat_eq_append] at hbs
    refine ⟨bs.length, by simp [hbs], fun l hl hsig => ?_⟩
    rw [next_bodies_of_isIndented hl hplace hsig, hbs, State.Aligned.pushLine_concat,
      List.modify_eq_take_cons_drop (by simp)]
    simp

/-! ## A whole run -/

/-- The state of the reader after the first `k` lines of a source. -/
def stateAfter (src : Text) (opts : Options) (k : Nat) : State :=
  ((numberedLines src).take k).foldl (State.next opts) {}

theorem stateAfter_succ (src : Text) (opts : Options) {k : Nat}
    (hk : k < (numberedLines src).length) :
    stateAfter src opts (k + 1) = (stateAfter src opts k).next opts (numberedLines src)[k] := by
  rw [stateAfter, List.take_succ_eq_append_getElem hk, List.foldl_append]
  rfl

theorem numberedLines_getElem (src : Text) {k : Nat} (hk : k < (numberedLines src).length) :
    (numberedLines src)[k].number = k + 1 := by
  simp [numberedLines]

theorem mem_numberedLines {src : Text} {l : Line} (h : l ∈ numberedLines src) :
    ∃ i, l.number = i + 1 ∧ (sourceLines src)[i]? = some l.text := by
  obtain ⟨i, hi, rfl⟩ := List.mem_iff_getElem.1 h
  have hi' : i < (sourceLines src).length := by simpa [numberedLines] using hi
  exact ⟨i, numberedLines_getElem src hi, by simp [numberedLines, hi']⟩

theorem aligned_stateAfter (src : Text) (opts : Options) {k : Nat}
    (hk : k ≤ (numberedLines src).length) :
    (stateAfter src opts k).Aligned (numberedLines src) k := by
  induction k with
  | zero => exact ⟨rfl, by simp [stateAfter], by simp [stateAfter], by simp [stateAfter],
      by simp [stateAfter], by simp [stateAfter]⟩
  | succ k ih =>
    rw [stateAfter_succ src opts hk]
    exact (ih (Nat.le_of_succ_le hk)).next (numberedLines_getElem src hk)
      (List.getElem_mem hk) opts

theorem fillsLast_stateAfter (src : Text) (opts : Options) (k : Nat) :
    (stateAfter src opts k).FillsLast opts := by
  by_cases hk : k ≤ (numberedLines src).length
  · exact (aligned_stateAfter src opts hk).fillsLast opts
  · have hall : stateAfter src opts k = stateAfter src opts (numberedLines src).length := by
      rw [stateAfter, stateAfter, List.take_length, List.take_of_length_le (by omega)]
    rw [hall]
    exact (aligned_stateAfter src opts Nat.le.refl).fillsLast opts

/-- The last state of the reader, with the signature that was still open. -/
def finalState (src : Text) (opts : Options) : State :=
  (stateAfter src opts (numberedLines src).length).closeSignature

theorem aligned_finalState (src : Text) (opts : Options) :
    (finalState src opts).Aligned (numberedLines src) (numberedLines src).length :=
  (aligned_stateAfter src opts Nat.le.refl).closeSignature

theorem parse_bodies (src : Text) (opts : Options) :
    (parse src opts).bodies = (finalState src opts).parsed.bodies := by
  simp [parse, finalState, stateAfter]

theorem parse_methods (src : Text) (opts : Options) :
    (parse src opts).decl.methods = (finalState src opts).parsed.decl.methods := by
  simp [parse, finalState, stateAfter]

/-! ## The last body of a name -/

theorem body?_eq_some_iff {p : Parsed} {name : Text} {b : Body} :
    p.body? name = some b ↔
      b.name = name ∧ ∃ before after, p.bodies = before ++ b :: after ∧
        ∀ a ∈ after, a.name ≠ name := by
  rw [Parsed.body?, List.find?_eq_some_iff_append]
  simp only [beq_iff_eq, Bool.not_eq_eq_eq_not, Bool.not_true, beq_eq_false_iff_ne]
  refine and_congr_right fun _ => ⟨?_, ?_⟩
  · rintro ⟨as, bs, h, has⟩
    refine ⟨bs.reverse, as.reverse, ?_, fun a ha => has a (List.mem_reverse.1 ha)⟩
    rw [← List.reverse_reverse p.bodies, h]
    simp
  · rintro ⟨before, after, h, hafter⟩
    refine ⟨after.reverse, before.reverse, by simp [h], fun a ha => hafter a ?_⟩
    exact List.mem_reverse.1 ha

theorem body?_eq_none_iff {p : Parsed} {name : Text} :
    p.body? name = none ↔ ∀ b ∈ p.bodies, b.name ≠ name := by
  simp [Parsed.body?, List.find?_eq_none]

/-! ## Parsed scripts -/

/-- Method `j` is the last one of that name. -/
structure Parsed.IsLast (p : Parsed) (name : Text) (j : Nat) : Prop where
  named : (p.decl.methods[j]?).map MethodDecl.name = some name
  later : ∀ (k : Nat) (m : MethodDecl), j < k → p.decl.methods[k]? = some m → m.name ≠ name

/-- Bodies and methods of a script with the source `src` fit together. -/
structure Parsed.Aligned (src : Text) (p : Parsed) : Prop where
  length_eq : p.bodies.length = p.decl.methods.length
  heads : ∀ i (hb : i < p.bodies.length) (hm : i < p.decl.methods.length),
    p.bodies[i].name = p.decl.methods[i].name ∧ p.bodies[i].start = p.decl.methods[i].line
  methods_ascend : p.decl.methods.Pairwise fun m m' => m.line < m'.line
  lines_ascend : (p.bodies.flatMap (·.lines)).Pairwise fun l l' => l.number < l'.number
  within : ∀ i (hi : i < p.bodies.length), ∀ l ∈ p.bodies[i].lines,
    p.bodies[i].start ≤ l.number ∧
      ∀ hi' : i + 1 < p.bodies.length, l.number < p.bodies[i + 1].start
  verbatim : ∀ b ∈ p.bodies, ∀ l ∈ b.lines, b.start < l.number →
    ∃ i, l.number = i + 1 ∧ (sourceLines src)[i]? = some l.text
  body?_some : ∀ name b, p.body? name = some b ↔ ∃ j : Nat, p.bodies[j]? = some b ∧ p.IsLast name j
  body?_none : ∀ name, p.body? name = none ↔ ∀ m ∈ p.decl.methods, m.name ≠ name

section Parsed

variable {ls : List Line} {n : Nat} {st : State} {p : Parsed}

theorem names_eq (heads : p.bodies.map (fun b => (b.name, b.start)) =
    p.decl.methods.map (fun m => (m.name, m.line))) :
    p.bodies.map Body.name = p.decl.methods.map MethodDecl.name := by
  have := congrArg (List.map Prod.fst) heads
  rw [List.map_map, List.map_map] at this
  exact this

theorem lines_ascend_of_ordered (faithful : ∀ b ∈ p.bodies, b.Faithful ls)
    (ordered : p.bodies.Pairwise fun a b => a.Below b.start) :
    (p.bodies.flatMap (·.lines)).Pairwise fun l l' => l.number < l'.number := by
  refine List.pairwise_flatMap.2 ⟨fun b hb => (faithful b hb).ascending, ?_⟩
  refine ordered.imp_of_mem fun {a b} _ hb hab l hl l' hl' => ?_
  exact Nat.lt_of_lt_of_le (hab.lines l hl) ((faithful b hb).start_le l' hl')

theorem body?_some_of_names (names : p.bodies.map Body.name = p.decl.methods.map MethodDecl.name)
    (name : Text) (b : Body) :
    p.body? name = some b ↔ ∃ j : Nat, p.bodies[j]? = some b ∧ p.IsLast name j := by
  have hat (j : Nat) :
      (p.decl.methods[j]?).map MethodDecl.name = (p.bodies[j]?).map Body.name := by
    simpa using congrArg (·[j]?) names.symm
  rw [body?_eq_some_iff]
  constructor
  · rintro ⟨hname, before, after, hb, hafter⟩
    refine ⟨before.length, by simp [hb], by rw [hat]; simp [hb, hname], fun k m hk hm => ?_⟩
    -- The method at `k` has the name of a body in `after`.
    have hm' := hat k
    rw [hm, hb, List.getElem?_append_right (Nat.le_of_lt hk)] at hm'
    obtain ⟨i, hi⟩ : ∃ i, k - before.length = i + 1 := ⟨k - before.length - 1, by omega⟩
    rw [hi, List.getElem?_cons_succ, Option.map_some, eq_comm, Option.map_eq_some_iff] at hm'
    obtain ⟨a, ha, hma⟩ := hm'
    rw [← hma]
    exact hafter a (List.mem_of_getElem? ha)
  · rintro ⟨j, hj, hname, hlater⟩
    obtain ⟨hlt, rfl⟩ := List.getElem?_eq_some_iff.1 hj
    rw [hat, hj] at hname
    refine ⟨by simpa using hname, p.bodies.take j, p.bodies.drop (j + 1), ?_, fun a ha => ?_⟩
    · rw [List.getElem_cons_drop, List.take_append_drop]
    · obtain ⟨i, hi⟩ := List.mem_iff_getElem?.1 ha
      rw [List.getElem?_drop] at hi
      have ha' := hat (j + 1 + i)
      rw [hi, Option.map_some, Option.map_eq_some_iff] at ha'
      obtain ⟨m, hm, hma⟩ := ha'
      rw [← hma]
      exact hlater _ m (by omega) hm

theorem State.Aligned.parsed (h : st.Aligned ls n) {src : Text} (hls : ls = numberedLines src)
    (hb : p.bodies = st.parsed.bodies) (hm : p.decl.methods = st.parsed.decl.methods) :
    p.Aligned src := by
  have heads := h.heads
  have faithful := h.faithful
  have ordered := h.ordered
  rw [← hb, ← hm] at heads
  rw [← hb] at faithful ordered
  have names := names_eq heads
  have hlen : p.bodies.length = p.decl.methods.length := by simpa using congrArg List.length heads
  exact {
    length_eq := hlen
    heads := by
      intro i hi hi'
      have := congrArg (·[i]?) heads
      simpa [hi, hi'] using this
    methods_ascend := by
      have hstarts : (p.bodies.map fun b => (b.name, b.start)).Pairwise fun x y => x.2 < y.2 :=
        List.pairwise_map.2 (ordered.imp fun hab => hab.start)
      rw [heads] at hstarts
      simpa only [List.pairwise_map] using hstarts
    lines_ascend := lines_ascend_of_ordered faithful ordered
    within := by
      intro i hi l hl
      refine ⟨(faithful _ (List.getElem_mem hi)).start_le l hl, fun hi' => ?_⟩
      exact (List.pairwise_iff_getElem.1 ordered i (i + 1) hi hi' (Nat.lt_succ_self i)).lines l hl
    verbatim := by
      intro b hb' l hl hlt
      exact mem_numberedLines (hls ▸ (faithful b hb').verbatim l hl hlt)
    body?_some := body?_some_of_names names
    body?_none := by
      intro name
      rw [body?_eq_none_iff, ← List.forall_mem_map (P := (· ≠ name)), names,
        List.forall_mem_map] }

end Parsed

/-- **Bodies run parallel to methods**, for every source and all options; and at every point of
the run, the body being read is the last one. -/
theorem parse_aligned (src : Text) (opts : Options) :
    (parse src opts).Aligned src ∧
    (∀ k, (stateAfter src opts k).FillsLast opts) ∧ (finalState src opts).FillsLast opts :=
  ⟨(aligned_finalState src opts).parsed rfl (parse_bodies src opts) (parse_methods src opts),
    fillsLast_stateAfter src opts, (aligned_finalState src opts).fillsLast opts⟩

end GodotSurvey.Script
