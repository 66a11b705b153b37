import GodotSurvey.Scene.Parser

/-!
# What the reader does with a line

What a line of a scene file is taken for can be told from the line alone: the reader does not ask
whether a value that spans lines is still open. The state decides only whether there is a node whose
section the line belongs to.

* `Kind`, `kindOf` — what a line is taken for.
* `next_eq` — what one line does, by its kind.
-/

namespace GodotSurvey.Scene

open Text Lexing

/-! ## Kinds of lines -/

/-- What a line is taken for. -/
inductive Kind where
  /-- It is blank or a comment. -/
  | passed
  /-- It opens a section. -/
  | header
  /-- It gives a property its value. -/
  | assigns (key value : Text)
  /-- It continues the value before it. -/
  | continues
  deriving DecidableEq, Repr

/-- The property that a line sets, and its value there. -/
def assignment? (line : Text) : Option (Text × Text) :=
  match findUnquoted? line "=" with
  | none | some 0 => none
  | some i => some (trim (line.take i), trim (line.drop (i + 1)))

/-- What a line is taken for, once the white space around it is gone. -/
def kindOf (line : Text) : Kind :=
  if line.isEmpty || startsWith line ";" then .passed
  else if startsWith line "[" && endsWith line "]" then .header
  else match assignment? line with
    | none => .continues
    | some (key, value) => .assigns key value

/-- What a line of a file is taken for. -/
def kind (l : Script.Line) : Kind := kindOf (trim l.text)

/-! ## What they do -/

/-- Properties of that name are kept. -/
def Options.keeps (opts : Options) (key : Text) : Bool := opts.properties || key == scriptProperty

/-- Gives a property of the node its value; the lines that follow may continue it. -/
def State.assign (st : State) (key : Text) (p : Property) : State :=
  { st.setProperty fun _ => (key, p) with lastKey := some key }

/-- The lines that follow continue nothing. -/
def State.forget (st : State) : State := { st with lastKey := none }

/-- Continues the value of the last property. -/
def State.extend (st : State) (line raw : Text) : State :=
  match st.lastKey with
  | none => st
  | some key => st.setProperty (extendProperty key line raw)

theorem propertyLine_eq (opts : Options) (st : State) (line raw : Text) :
    st.propertyLine opts line raw =
      match assignment? line with
      | none => st.extend line raw
      | some (key, value) => if opts.keeps key then st.assign key ⟨value, raw⟩ else st.forget := by
  unfold State.propertyLine assignment?
  rcases findUnquoted? line "=" with _ | _ | i
  · rfl
  · rfl
  · have hkeeps : (!opts.properties && trim (line.take (i + 1)) != scriptProperty) =
        !opts.keeps (trim (line.take (i + 1))) := by
      rw [Options.keeps, Bool.not_or]
      rfl
    simp only [hkeeps]
    cases opts.keeps (trim (line.take (i + 1))) <;> rfl

/-- What a line does, by its kind. -/
theorem next_eq (opts : Options) (st : State) (l : Script.Line) :
    st.next opts l =
      match kind l with
      | .passed => st
      | .header => st.openSection opts l.number (trim l.text)
      | .assigns key value =>
        if st.inNode then
          if opts.keeps key then st.assign key ⟨value, l.text⟩ else st.forget
        else st
      | .continues => if st.inNode then st.extend (trim l.text) l.text else st := by
  unfold State.next kind kindOf
  dsimp only
  split
  · rfl
  · split
    · rfl
    · rw [propertyLine_eq]
      cases assignment? (trim l.text) <;> rfl

end GodotSurvey.Scene
