import GodotSurvey.Proofs.Scene.LastNode
import GodotSurvey.Proofs.Scene.LineKind
import GodotSurvey.Proofs.Text.Lines
import GodotSurvey.Proofs.Text.Trim

/-!
# Values over several lines

The reader takes every line by itself, and does not know whether a literal is still open. So a value
that spans lines is kept together by the kinds of its lines: a line that looks like a heading, a
comment or an assignment is read as one, though it stands inside a literal.

* `foldl_continues` — lines that continue a value are joined to it, and nothing else changes.
* `State.Behind` — a run that has left the value: it has opened a node, or can add nothing to the
  value any more, or the value is too short. `Behind.next` — it does not catch up.
* `reads_as_one_iff` — **a literal over several lines is read as the one value of its property,
  whatever follows it, exactly if each of its lines but the first is taken for a continuation.**
-/

namespace GodotSurvey

/-- The property with one more line. -/
def Property.addLine (p : Property) (l : Script.Line) : Property :=
  ⟨p.value ++ "\n" ++ Text.trim l.text, p.raw ++ "\n" ++ l.text⟩

namespace Scene

open Text Lexing

/-! ## One value -/

/-- The property that these lines write, the value beginning on the first: the lines without the
white space around them, and the lines as they are. -/
def spanned (value : Text) (first : Script.Line) (rest : List Script.Line) : Property where
  value := Text.join "\n" (value :: rest.map fun l => trim l.text)
  raw := Text.join "\n" (first.text :: rest.map (·.text))

theorem join_merge (sep a b : Text) (ts : List Text) :
    Text.join sep ((a ++ sep ++ b) :: ts) = Text.join sep (a :: b :: ts) := by
  cases ts with
  | nil => rfl
  | cons t ts => simp [Text.join]

/-- Adding the lines one after the other writes the whole value. -/
theorem foldl_addLine (p : Property) (ls : List Script.Line) :
    ls.foldl Property.addLine p =
      ⟨Text.join "\n" (p.value :: ls.map fun l => trim l.text),
        Text.join "\n" (p.raw :: ls.map (·.text))⟩ := by
  induction ls generalizing p with
  | nil => rfl
  | cons l ls ih => rw [List.foldl_cons, ih, Property.addLine, join_merge, join_merge]; rfl

theorem length_addLine (p : Property) (l : Script.Line) :
    (p.addLine l).value.length = p.value.length + 1 + (trim l.text).length := by
  have hone : (Text.ofString "\n").length = 1 := rfl
  rw [Property.addLine, List.length_append, List.length_append, hone]

/-! ## Setting a property again -/

/-- Continuing a property that was just set is setting it to the longer value. -/
theorem assign_extend (st : State) (key : Text) (p : Property) (l : Script.Line) :
    (st.assign key p).extend (trim l.text) l.text = st.assign key (p.addLine l) := by
  have hlast : (st.assign key p).lastKey = some key := rfl
  rw [State.extend, hlast]
  simp only [State.assign, State.setProperty, updateLast_updateLast]
  congr 3
  funext n
  simp [extendProperty, NodeDecl.property?, lookup_putProperty, putProperty_putProperty,
    Property.addLine]

/-- **Lines that continue a value are joined to it.** -/
theorem foldl_continues (opts : Options) {st : State} (hnode : st.inNode = true) (key : Text)
    (p : Property) {ls : List Script.Line} (h : ∀ l ∈ ls, kind l = .continues) :
    ls.foldl (State.next opts) (st.assign key p) = st.assign key (ls.foldl Property.addLine p) := by
  induction ls generalizing p with
  | nil => rfl
  | cons l ls ih =>
    have hin : (st.assign key p).inNode = true := hnode
    have hnext : (st.assign key p).next opts l = st.assign key (p.addLine l) := by
      rw [next_eq, h l List.mem_cons_self]
      simp only [hin, if_true, assign_extend]
    rw [List.foldl_cons, List.foldl_cons, hnext, ih _ fun l hl => h l (List.mem_cons_of_mem _ hl)]

/-! ## How long a value is -/

/-- The length of the value that a property of the last node has. -/
def State.valueLength (st : State) (key : Text) : Nat :=
  ((st.file.nodes.getLast?.bind (·.property? key)).map (·.value.length)).getD 0

theorem nodes_setProperty (st : State) (f : NodeDecl → Text × Property) :
    (st.setProperty f).file.nodes = updateLast (fun n =>
      { n with properties := putProperty (f n).1 (f n).2 n.properties }) st.file.nodes := rfl

theorem length_setProperty (st : State) (f : NodeDecl → Text × Property) :
    (st.setProperty f).file.nodes.length = st.file.nodes.length := by
  rw [nodes_setProperty, length_updateLast]

/-- Setting a property leaves the others as they are. -/
theorem valueLength_setProperty_of_ne (st : State) {f : NodeDecl → Text × Property} {key : Text}
    (h : ∀ n, (f n).1 ≠ key) : (st.setProperty f).valueLength key = st.valueLength key := by
  rw [State.valueLength, nodes_setProperty, getLast?_updateLast, State.valueLength]
  cases st.file.nodes.getLast? with
  | none => rfl
  | some n => simp [NodeDecl.property?, lookup_putProperty, Ne.symm (h n)]

theorem valueLength_setProperty_le (st : State) {f : NodeDecl → Text × Property} {key : Text}
    {len : Nat} (hkey : ∀ n, (f n).1 = key)
    (hlen : ∀ n, st.file.nodes.getLast? = some n → (f n).2.value.length ≤ len) :
    (st.setProperty f).valueLength key ≤ len := by
  rw [State.valueLength, nodes_setProperty, getLast?_updateLast]
  cases hlast : st.file.nodes.getLast? with
  | none => simp
  | some n => simpa [NodeDecl.property?, lookup_putProperty, hkey n] using hlen n hlast

theorem length_assign (st : State) (key : Text) (p : Property) :
    (st.assign key p).file.nodes.length = st.file.nodes.length :=
  length_setProperty st fun _ => (key, p)

theorem valueLength_assign_le (st : State) (key : Text) (p : Property) :
    (st.assign key p).valueLength key ≤ p.value.length :=
  valueLength_setProperty_le st (f := fun _ => (key, p)) (fun _ => rfl) fun _ _ => Nat.le_refl _

theorem valueLength_assign_of_ne (st : State) {key other : Text} (h : other ≠ key) (p : Property) :
    (st.assign other p).valueLength key = st.valueLength key :=
  valueLength_setProperty_of_ne st (f := fun _ => (other, p)) fun _ => h

/-- A line that continues another property leaves this one as it is. -/
theorem valueLength_extend_of_ne {st : State} {key : Text} (h : st.lastKey ≠ some key)
    (line raw : Text) : (st.extend line raw).valueLength key = st.valueLength key := by
  rw [State.extend]
  cases hlast : st.lastKey with
  | none => rfl
  | some k => exact valueLength_setProperty_of_ne st fun _ hk => h (by rw [hlast, ← hk]; rfl)

/-- A continuation makes the value longer by a line at most. -/
theorem valueLength_extend_le (st : State) (key line raw : Text) :
    (st.extend line raw).valueLength key ≤ st.valueLength key + 1 + line.length := by
  by_cases hlast : st.lastKey = some key
  · rw [State.extend, hlast]
    apply valueLength_setProperty_le st (f := extendProperty key line raw) fun _ => rfl
    intro n hn
    have hone : (Text.ofString "\n").length = 1 := rfl
    rw [State.valueLength, hn, Option.bind_some, extendProperty]
    cases n.property? key with
    | none => simp [hone]
    | some p =>
      simp [hone]
      omega
  · rw [valueLength_extend_of_ne hlast]
    omega

/-! ## Leaving a value -/

/-- The run has left a value of that length, which was given to the node that came last of so many:
it has opened another node, or it can add nothing to the value any more, or it is too short. -/
def State.Behind (st : State) (count : Nat) (key : Text) (len : Nat) : Prop :=
  count < st.file.nodes.length ∨
    st.file.nodes.length = count ∧ st.valueLength key ≤ len ∧
      (st.inNode = true → st.lastKey = some key → st.valueLength key < len)

/-- A heading opens a node, or there is no node any more. -/
theorem openSection_cases (opts : Options) (st : State) (line : Nat) (header : Text) :
    (st.openSection opts line header).file.nodes.length = st.file.nodes.length + 1 ∨
      (st.openSection opts line header).file.nodes = st.file.nodes ∧
        (st.openSection opts line header).inNode = false := by
  unfold State.openSection
  dsimp only
  split
  · exact .inr ⟨rfl, rfl⟩
  · split
    · refine .inr ⟨?_, rfl⟩
      simp only [readExtResource]
      split <;> rfl
    · split
      · exact .inr ⟨rfl, rfl⟩
      · split
        · exact .inl (by simp [State.openNode])
        · split
          · exact .inr ⟨rfl, rfl⟩
          · exact .inr ⟨rfl, rfl⟩

/-- A value is shorter than the line that it was read from. -/
theorem length_of_assigns {l : Script.Line} {key value : Text} (h : kind l = .assigns key value) :
    value.length ≤ (trim l.text).length := by
  have hassign : assignment? (trim l.text) = some (key, value) := by
    rw [kind, kindOf] at h
    split at h
    · cases h
    · split at h
      · cases h
      · split at h
        · cases h
        · cases h
          assumption
  rw [assignment?] at hassign
  split at hassign
  · cases hassign
  · cases hassign
  · cases hassign
    refine Nat.le_trans (length_trim_le _) ?_
    rw [List.length_drop]
    omega

section Step

variable {opts : Options} {st : State} {count len : Nat} {key : Text} {l : Script.Line}

/-- A line that is not joined to the value leaves the run behind. -/
theorem behind_next (hcount : st.file.nodes.length = count) (hlen : st.valueLength key ≤ len)
    (h : kind l = .continues → st.inNode = true → st.lastKey = some key →
      st.valueLength key < len) :
    (st.next opts l).Behind count key (len + 1 + (trim l.text).length) := by
  rw [next_eq]
  cases hkind : kind l with
  | passed => exact .inr ⟨hcount, by dsimp only; omega, fun _ _ => by dsimp only; omega⟩
  | header =>
    rcases openSection_cases opts st l.number (trim l.text) with hopen | ⟨hnodes, hclosed⟩
    · exact .inl (by dsimp only; omega)
    · have hsame : (st.openSection opts l.number (trim l.text)).valueLength key =
          st.valueLength key := by rw [State.valueLength, hnodes, State.valueLength]
      refine .inr ⟨by dsimp only; rw [hnodes, hcount], by dsimp only; omega, fun hin => ?_⟩
      rw [hclosed] at hin
      cases hin
  | assigns k value =>
    have hvalue := length_of_assigns hkind
    dsimp only
    split
    · split
      · by_cases hk : k = key
        · subst hk
          have hshort := valueLength_assign_le st k ⟨value, l.text⟩
          dsimp only at hshort
          exact .inr ⟨(length_assign ..).trans hcount, by omega, fun _ _ => by omega⟩
        · have hother := valueLength_assign_of_ne st hk ⟨value, l.text⟩
          refine .inr ⟨(length_assign ..).trans hcount, by omega, fun _ hlast => ?_⟩
          exact absurd (Option.some.inj hlast) hk
      · have hsame : st.forget.valueLength key = st.valueLength key := rfl
        exact .inr ⟨hcount, by omega, fun _ hlast => by cases hlast⟩
    · exact .inr ⟨hcount, by omega, fun _ _ => by omega⟩
  | continues =>
    have hshort := valueLength_extend_le st key (trim l.text) l.text
    dsimp only
    split
    · rename_i hin
      have hnodes : (st.extend (trim l.text) l.text).file.nodes.length = count := by
        rw [State.extend]
        split
        · exact hcount
        · exact (length_setProperty st _).trans hcount
      have hlast : (st.extend (trim l.text) l.text).lastKey = st.lastKey := by
        rw [State.extend]
        split <;> rfl
      refine .inr ⟨hnodes, by omega, fun _ hkey => ?_⟩
      have hless := h hkind hin (hlast ▸ hkey)
      omega
    · exact .inr ⟨hcount, by omega, fun hin _ => by omega⟩

theorem length_next (opts : Options) (st : State) (l : Script.Line) :
    st.file.nodes.length ≤ (st.next opts l).file.nodes.length := by
  have hnext : (st.next opts l).Behind _ [] _ :=
    behind_next rfl (Nat.le_succ (st.valueLength [])) fun _ _ _ => Nat.lt_succ_self _
  rcases hnext with h | h
  · omega
  · omega

/-- **A run that has left a value does not catch up.** -/
theorem Behind.next (h : st.Behind count key len) :
    (st.next opts l).Behind count key (len + 1 + (trim l.text).length) := by
  rcases h with h | ⟨hcount, hlen, hable⟩
  · exact .inl (Nat.lt_of_lt_of_le h (length_next opts st l))
  · exact behind_next hcount hlen fun _ => hable

theorem Behind.foldl {p : Property} (h : st.Behind count key p.value.length)
    (ls : List Script.Line) : (ls.foldl (State.next opts) st).Behind count key
      (ls.foldl Property.addLine p).value.length := by
  induction ls generalizing st p with
  | nil => exact h
  | cons l ls ih =>
    apply ih
    rw [length_addLine]
    exact Behind.next h

end Step

/-! ## Literals over several lines -/

/-- The state of the reader behind some lines of a file. -/
def readLines (opts : Options) (ls : List Script.Line) : State := ls.foldl (State.next opts) {}

/-- One literal and nothing else: it is closed by the last byte and no earlier one. -/
def IsLiteral (t : Text) : Prop :=
  ∃ rest, t = 34 :: rest ∧ (closeLiteral? 34 rest).map (· + 1) = some rest.length

/-- The lines give the property a literal that is opened on the first of them and closed at the end
of the last; no line is blank. -/
structure SpansLines (key value : Text) (first : Script.Line) (rest : List Script.Line) :
    Prop where
  assigns : kind first = .assigns key value
  literal : IsLiteral (spanned value first rest).value
  solid : ∀ l ∈ rest, trim l.text ≠ []

/-- Whatever follows the lines is read as if one line had given the property its whole value. -/
def ReadAsOne (opts : Options) (st : State) (key value : Text) (first : Script.Line)
    (rest : List Script.Line) : Prop :=
  ∀ after, ((first :: (rest ++ after)).foldl (State.next opts) st).file =
    (after.foldl (State.next opts) (st.assign key (spanned value first rest))).file

section Literal

variable {opts : Options} {st : State} {key value : Text} {first : Script.Line}
  {rest : List Script.Line}

/-- While a node is read, there is one. -/
theorem nodes_of_inNode (ls : List Script.Line) (h : (readLines opts ls).inNode = true) :
    (readLines opts ls).file.nodes ≠ [] := by
  suffices hrun : ∀ st : State, (st.inNode = true → st.file.nodes ≠ []) →
      (ls.foldl (State.next opts) st).inNode = true →
        (ls.foldl (State.next opts) st).file.nodes ≠ [] from
    hrun {} (fun h => by cases h) h
  clear h
  induction ls with
  | nil => exact fun st hst => hst
  | cons l ls ih =>
    intro st hst
    apply ih
    intro hin
    have hlength := length_next opts st l
    by_cases hnode : st.inNode = true
    · have hpos := List.length_pos_iff.2 (hst hnode)
      exact List.ne_nil_of_length_pos (by omega)
    · -- only a heading can bring the reader into a node
      rw [next_eq] at hin ⊢
      cases hkind : kind l with
      | header =>
        simp only [hkind] at hin ⊢
        rcases openSection_cases opts st l.number (trim l.text) with hopen | ⟨-, hclosed⟩
        · exact List.ne_nil_of_length_pos (by omega)
        · rw [hclosed] at hin
          cases hin
      | passed => simp_all
      | assigns k v => simp_all
      | continues => simp_all

theorem property_assign (hnodes : st.file.nodes ≠ []) (key : Text) (p : Property) :
    (st.assign key p).file.nodes.getLast?.bind (·.property? key) = some p := by
  have hlast := getLast?_updateLast
    (fun n => { n with properties := putProperty key p n.properties }) st.file.nodes
  rw [List.getLast?_eq_some_getLast hnodes] at hlast
  simp [State.assign, nodes_setProperty, hlast, NodeDecl.property?, lookup_putProperty]

theorem next_of_assigns (hnode : st.inNode = true) (hkeeps : opts.keeps key = true)
    (h : kind first = .assigns key value) :
    st.next opts first = st.assign key ⟨value, first.text⟩ := by
  rw [next_eq, h]
  simp [hnode, hkeeps]

theorem foldl_addLine_spanned :
    rest.foldl Property.addLine ⟨value, first.text⟩ = spanned value first rest :=
  foldl_addLine _ _

/-- Lines that are taken for continuations are read as one. -/
theorem readAsOne_of_continues (hnode : st.inNode = true) (hkeeps : opts.keeps key = true)
    (h : kind first = .assigns key value) (hrest : ∀ l ∈ rest, kind l = .continues) :
    ReadAsOne opts st key value first rest := by
  intro after
  rw [List.foldl_cons, List.foldl_append, next_of_assigns hnode hkeeps h,
    foldl_continues opts hnode key _ hrest, foldl_addLine_spanned]

/-- Unless every line is taken for a continuation, the run leaves the value. -/
theorem continues_or_behind (opts : Options) (hnode : st.inNode = true) (key : Text) (p : Property)
    (ls : List Script.Line) :
    (∀ l ∈ ls, kind l = .continues) ∨
      (ls.foldl (State.next opts) (st.assign key p)).Behind st.file.nodes.length key
        (ls.foldl Property.addLine p).value.length := by
  induction ls generalizing p with
  | nil => exact .inl (by simp)
  | cons l ls ih =>
    by_cases hl : kind l = .continues
    · have hall : ∀ l' ∈ [l], kind l' = .continues := by simpa using hl
      have hnext := foldl_continues opts hnode key p hall
      rcases ih (p.addLine l) with hall | hbehind
      · exact .inl (by simpa [hl] using hall)
      · right
        rw [List.foldl_cons, List.foldl_cons]
        rw [List.foldl_cons, List.foldl_nil, List.foldl_cons, List.foldl_nil] at hnext
        rwa [hnext]
    · right
      rw [List.foldl_cons, List.foldl_cons]
      apply Behind.foldl
      rw [length_addLine]
      exact behind_next (length_assign st key p) (valueLength_assign_le st key p)
        fun h => absurd h hl

/-- A line that continues any value. -/
def plainLine : Script.Line := ⟨0, "x"⟩

/-- A run that is behind a value shows it: continued by one more line, the value is too short. -/
theorem Behind.shows (opts : Options) {count len : Nat} (h : st.Behind count key len) :
    (st.next opts plainLine).file.nodes.length ≠ count ∨
      (st.next opts plainLine).valueLength key < len + 2 := by
  rcases h with h | ⟨hcount, hlen, hable⟩
  · have hmore := length_next opts st plainLine
    exact .inl (by omega)
  · right
    rw [next_eq, show kind plainLine = .continues by decide]
    dsimp only
    by_cases hin : st.inNode = true
    · rw [if_pos hin]
      by_cases hlast : st.lastKey = some key
      · have hless := hable hin hlast
        have hshort := valueLength_extend_le st key (trim plainLine.text) plainLine.text
        have hone : (trim plainLine.text).length = 1 := by decide
        omega
      · rw [valueLength_extend_of_ne hlast]
        omega
    · rw [if_neg hin]
      omega

/-- A run that reads the lines as one value has taken each of them for a continuation. -/
theorem continues_of_readAsOne (hnode : st.inNode = true) (hnodes : st.file.nodes ≠ [])
    (hkeeps : opts.keeps key = true) (h : kind first = .assigns key value)
    (hread : ReadAsOne opts st key value first rest) : ∀ l ∈ rest, kind l = .continues := by
  rcases continues_or_behind opts hnode key ⟨value, first.text⟩ rest with hall | hbehind
  · exact hall
  · exfalso
    -- one more line that continues the value shows that the run is behind
    have hplain : ∀ l ∈ [plainLine], kind l = .continues := by decide
    have hfile := hread [plainLine]
    rw [foldl_continues opts hnode key _ hplain, List.foldl_cons, List.foldl_append,
      next_of_assigns hnode hkeeps h] at hfile
    have hproperty := property_assign hnodes key
      ([plainLine].foldl Property.addLine (spanned value first rest))
    rw [← hfile] at hproperty
    simp only [List.foldl_cons, List.foldl_nil] at hfile hproperty
    have hlong : ((rest.foldl (State.next opts) (st.assign key ⟨value, first.text⟩)).next opts
        plainLine).valueLength key = (spanned value first rest).value.length + 2 := by
      rw [State.valueLength, hproperty]
      exact length_addLine _ plainLine
    have hcount := (congrArg (fun f : SceneFile => f.nodes.length) hfile).trans
      (length_assign ..)
    rw [foldl_addLine_spanned] at hbehind
    rcases Behind.shows opts hbehind with hmore | hshort
    · exact hmore hcount
    · omega

/-- **When a literal over several lines stays inside its property.** In the section of a node let a
line give a property a literal that is closed only at the end of a later line, with no blank line
between. Whatever stands behind it, the lines are read as if one line had given the property all of
the value, exactly if each of them but the first is taken for a continuation: it is no comment, does
not begin with `[` and end with `]`, and sets no property. Then the node has the lines, trimmed and
joined by line feeds, as the value of the property, and no node is added. -/
theorem reads_as_one_iff {src : Text} {before after : List Script.Line}
    (hsrc : Script.numberedLines src = before ++ first :: (rest ++ after))
    (hnode : (readLines opts before).inNode = true) (hkeeps : opts.keeps key = true)
    (h : SpansLines key value first rest) :
    (ReadAsOne opts (readLines opts before) key value first rest ↔
      ∀ l ∈ rest, kind l = .continues) ∧
    ((∀ l ∈ rest, kind l = .continues) →
      let whole := (readLines opts before).assign key (spanned value first rest)
      parse src opts = (after.foldl (State.next opts) whole).file ∧
        whole.file.nodes.length = (readLines opts before).file.nodes.length ∧
        whole.file.nodes.getLast?.bind (·.property? key) = some (spanned value first rest)) := by
  have hnodes := nodes_of_inNode before hnode
  refine ⟨⟨continues_of_readAsOne hnode hnodes hkeeps h.assigns,
    readAsOne_of_continues hnode hkeeps h.assigns⟩, fun hrest => ⟨?_, length_assign .., ?_⟩⟩
  · rw [parse, hsrc, List.foldl_append]
    exact readAsOne_of_continues hnode hkeeps h.assigns hrest after
  · exact property_assign hnodes key _

end Literal

/-! ## A sign -/

/-- A scene with a sign whose text has three lines, the middle one given. -/
def signScene (middle : Text) : Text :=
  "[node name=\"Sign\"]\ntext = \"Welcome to\n" ++ middle ++
    "\nstranger\"\n[node name=\"Door\" parent=\".\"]\n"

def signHeading : List Script.Line := [⟨1, "[node name=\"Sign\"]"⟩]

def signFirst : Script.Line := ⟨2, "text = \"Welcome to"⟩

def signRest (middle : Text) : List Script.Line := [⟨3, middle⟩, ⟨4, "stranger\""⟩]

def signAfter : List Script.Line := [⟨5, "[node name=\"Door\" parent=\".\"]"⟩, ⟨6, []⟩]

/-- What is read of the scene if the text of the sign is read as one value. -/
def signWhole (middle : Text) : SceneFile :=
  (signAfter.foldl (State.next {}) ((readLines {} signHeading).assign "text"
    (spanned "\"Welcome to" signFirst (signRest middle)))).file

/-- A line with a tag inside is taken for a continuation, and the text is read as one value. -/
theorem reads_as_one_iff_signScene :
    Script.numberedLines (signScene "the [b]old[/b] cave,") =
        signHeading ++ signFirst :: (signRest "the [b]old[/b] cave," ++ signAfter) ∧
      (readLines {} signHeading).inNode = true ∧ Options.keeps {} "text" = true ∧
      SpansLines "text" "\"Welcome to" signFirst (signRest "the [b]old[/b] cave,") ∧
      parse (signScene "the [b]old[/b] cave,") {} = signWhole "the [b]old[/b] cave," := by
  have hsrc : Script.numberedLines (signScene "the [b]old[/b] cave,") =
      signHeading ++ signFirst :: (signRest "the [b]old[/b] cave," ++ signAfter) := by
    decide +kernel
  have hspans : SpansLines "text" "\"Welcome to" signFirst (signRest "the [b]old[/b] cave,") :=
    ⟨by decide +kernel, ⟨_, rfl, by decide +kernel⟩, by decide +kernel⟩
  have hnode : (readLines {} signHeading).inNode = true := by decide +kernel
  have hread := (reads_as_one_iff hsrc hnode rfl hspans).2 (by decide +kernel)
  exact ⟨hsrc, hnode, rfl, hspans, hread.1⟩

/-- A line that is all in tags is taken for a heading: the node loses the rest of its text. -/
theorem signScene_cut :
    Script.numberedLines (signScene "[b]the old cave[/b]") =
        signHeading ++ signFirst :: (signRest "[b]the old cave[/b]" ++ signAfter) ∧
      (readLines {} signHeading).inNode = true ∧ Options.keeps {} "text" = true ∧
      SpansLines "text" "\"Welcome to" signFirst (signRest "[b]the old cave[/b]") ∧
      parse (signScene "[b]the old cave[/b]") {} ≠ signWhole "[b]the old cave[/b]" :=
  ⟨by decide +kernel, by decide +kernel, rfl,
    ⟨by decide +kernel, ⟨_, rfl, by decide +kernel⟩, by decide +kernel⟩, by decide +kernel⟩

end Scene

end GodotSurvey
