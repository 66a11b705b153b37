import GodotSurvey.Script.Parser

/-!
# Types of names

A scope tells the type of each name visible at a place. Scopes are nested: a method's parameters
and locals lie over the members of its class. An entry without a type hides what lies below it
and leaves the name unknown.
-/

namespace GodotSurvey

/-- A chain of frames, the innermost first. Each frame maps names to types; an empty type hides
the name. -/
structure Scope where
  inner : List (Text × Text) := []
  outer : List (List (Text × Text)) := []
  deriving DecidableEq, Repr

namespace Scope

/-- Sets the type of a name in one frame. -/
def setType (name type : Text) : List (Text × Text) → List (Text × Text)
  | [] => [(name, type)]
  | (n, t) :: rest => if n == name then (name, type) :: rest else (n, t) :: setType name type rest

/-- Sets the type of a name in the innermost frame. -/
def define (s : Scope) (name type : Text) : Scope := { s with inner := setType name type s.inner }

/-- A new frame inside the scope. -/
def push (s : Scope) : Scope := ⟨[], s.inner :: s.outer⟩

/-- The scope without its innermost frame; the last frame stays. -/
def pop (s : Scope) : Scope :=
  match s.outer with
  | [] => s
  | f :: fs => ⟨f, fs⟩

/-- The frames, innermost first. -/
def frames (s : Scope) : List (List (Text × Text)) := s.inner :: s.outer

/-- The entry of a name in the innermost frame that has one. -/
def entryIn? (name : Text) : List (List (Text × Text)) → Option Text
  | [] => none
  | f :: fs =>
    match f.lookup name with
    | some t => some t
    | none => entryIn? name fs

/-- The type of a name; an entry that hides it makes it unknown. -/
def lookup? (s : Scope) (name : Text) : Option Text :=
  (entryIn? name s.frames).filter (!·.isEmpty)

/-- The name has a type here. -/
def known (s : Scope) (name : Text) : Bool := (s.lookup? name).isSome

/-- Lays a frame over a flat table: types replace, empty types remove. -/
def overlay (table : List (Text × Text)) (frame : List (Text × Text)) : List (Text × Text) :=
  frame.foldl (fun table (n, t) =>
    if t.isEmpty then table.filter (·.1 != n) else setType n t table) table

/-- All known names with their types, sorted by name. -/
def types (s : Scope) : List (Text × Text) :=
  (s.frames.foldr (fun frame table => overlay table frame) []).mergeSort
    fun a b => Text.le a.1 b.1

/-- The known names, sorted. -/
def names (s : Scope) : List Text := s.types.map (·.1)

/-! ## Scopes of a script -/

/-- The type of signals. -/
def signalType : Text := "Signal"

/-- The type is given, not left to the engine. -/
def isKnownType (type : Text) : Bool := !type.isEmpty && type != inferredType

/-- The scope of the members of a class: variables with a given type, and signals. -/
def ofClass (d : ScriptDecl) : Scope :=
  let typed := d.allVariables.filter (isKnownType ·.type)
  let vars := typed.foldl (fun s v => s.define v.name v.type) ({} : Scope)
  d.signals.foldl (fun s sig => s.define sig.name signalType) vars

/-- The type a local variable shows: the given one, or that of its default value. -/
def localType (v : VariableDecl) : Text :=
  if isKnownType v.type then v.type
  else if v.default.isEmpty then []
  else
    let type := Script.literalType v.default
    if type == Script.variantType then [] else type

/-- The variables declared in a body, with the types they show. -/
def locals (b : Script.Body) : List VariableDecl :=
  b.lines.filterMap fun l =>
    (Script.variableDecl? l.text).map fun v => { v with line := l.number, type := localType v }

/-- The type under which a parameter is visible. -/
def parameterType (p : Parameter) : Text :=
  if p.type == inferredType || p.type == Script.variantType then [] else p.type

/-- Makes a local visible; one without a type does not hide an entry of the same frame. -/
def defineLocal (s : Scope) (v : VariableDecl) : Scope :=
  if v.type.isEmpty && (s.inner.lookup v.name).isSome then s else s.define v.name v.type

/-- The scope of a method's body: its parameters and locals over the class members. -/
def ofMethod (cls : Scope) (m : MethodDecl) (b : Script.Body) : Scope :=
  let withParams := m.parameters.foldl (fun s p => s.define p.name (parameterType p)) cls.push
  (locals b).foldl defineLocal withParams

/-- The methods of a script with their bodies. -/
def methodsWithBodies (p : Script.Parsed) : List (MethodDecl × Script.Body) :=
  p.decl.methods.zip p.bodies

/-- The scopes of a script's methods, in order. -/
def ofScript (p : Script.Parsed) : List Scope :=
  let cls := ofClass p.decl
  (methodsWithBodies p).map fun (m, b) => ofMethod cls m b

end Scope

end GodotSurvey
