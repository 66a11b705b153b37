import GodotSurvey.Script.Line
import GodotSurvey.Script.Emission

/-!
# Reading a script

A script is read line by line. At the top level each line may declare something; the indented
lines below a method are its body, and those below an inner class are skipped. A method signature
may run over several lines, until its parameter list is closed. Reading never fails: lines that
declare nothing are passed over.
-/

namespace GodotSurvey.Script

open Text Lexing

/-! ## Parsed scripts -/

/-- What to read from a script. Variables are read when either flag is set. -/
structure Options where
  vars : Bool := true
  methods : Bool := true
  deriving DecidableEq, Repr

/-- A source line with its number, counted from 1. -/
structure Line where
  number : Nat
  text : Text
  deriving DecidableEq, Repr

/-- The raw lines of a method's body. -/
structure Body where
  name : Text
  start : Nat
  lines : List Line := []
  deriving DecidableEq, Repr

/-- A script as read: `bodies` runs parallel to the declared methods, and `lines` holds every line
that is not blank. -/
structure Parsed where
  decl : ScriptDecl := {}
  bodies : List Body := []
  lines : List Line := []
  deriving DecidableEq, Repr

/-- The body of the last method of that name. -/
def Parsed.body? (p : Parsed) (name : Text) : Option Body := p.bodies.reverse.find? (·.name == name)

/-! ## The state of the reader -/

/-- The part of the script being read. -/
inductive Place where
  | topLevel
  /-- Inside the body of the method declared last. -/
  | body
  /-- Below an inner class, or another line whose block is skipped. -/
  | skipped
  deriving DecidableEq, Repr

/-- A method signature whose parameter list is not closed yet. -/
structure OpenSignature where
  text : Text
  line : Nat
  deriving DecidableEq, Repr

structure State where
  place : Place := .topLevel
  /-- Annotations from lines of their own that wait for their declaration. -/
  pending : List Text := []
  signature : Option OpenSignature := none
  parsed : Parsed := {}
  deriving DecidableEq, Repr

/-- Appends a line to the last body. -/
def pushLine (line : Line) : List Body → List Body
  | [] => []
  | [b] => [{ b with lines := b.lines ++ [line] }]
  | b :: bs => b :: pushLine line bs

/-- Changes the declarations read so far. -/
def State.updateDecl (st : State) (f : ScriptDecl → ScriptDecl) : State :=
  { st with parsed := { st.parsed with decl := f st.parsed.decl } }

/-! ## Top-level lines -/

/-- The index of the colon that ends a signature. -/
def signatureColon? (code : Text) : Option Nat :=
  let start := match (findByte? code '(').bind (matchingClose? code) with
    | some i => i + 1
    | none => 0
  (findUnquoted? (code.drop start) ":").map (start + ·)

/-- The body text on the line of the signature itself. -/
def oneLineBody (line : Nat) (code : Text) : List Line :=
  match signatureColon? code with
  | none => []
  | some i =>
    let tail := trim (code.drop (i + 1))
    if tail.isEmpty then [] else [⟨line, "\t" ++ tail⟩]

/-- Starts the method whose whole signature is known. -/
def State.startMethod (st : State) (line : Nat) (code : Text) : State :=
  match methodDecl? code with
  | none => { st with place := .skipped }
  | some m =>
    let body : Body := { name := m.name, start := line, lines := oneLineBody line code }
    { st with
      place := .body
      parsed := { st.parsed with
        decl := { st.parsed.decl with methods := st.parsed.decl.methods ++ [{ m with line }] }
        bodies := st.parsed.bodies ++ [body] } }

/-- Starts the method whose signature was being collected, if there is one. -/
def State.closeSignature (st : State) : State :=
  match st.signature with
  | none => st
  | some sig => { st with signature := none }.startMethod sig.line sig.text

/-- The parameter list that the signature opens is not closed on the line. -/
def hasOpenParameters (code : Text) : Bool :=
  match findByte? code '(' with
  | some i => (matchingClose? code i).isNone
  | none => false

/-- The base class named behind `extends`. -/
def baseName (s : Text) : Text := unquote (stripEnd (trim s) ":")

/-- Reads what follows `class_name`: the name, and possibly the base class. -/
def readClassName (rest : Text) (d : ScriptDecl) : ScriptDecl :=
  let rest := trim rest
  let (names, d) := match cut? rest " extends " with
    | some (names, base) => (names, { d with base := baseName base })
    | none => (rest, d)
  match identifiers names with
  | [] => d
  | name :: _ => { d with className := name }

/-- Annotations that do not belong to the declaration on the next line. -/
def standaloneAnnotations : List Text :=
  ["@export_group", "@export_subgroup", "@export_category", "@tool", "@icon", "@static_unload"]

/-- An annotation on a line of its own belongs to the declaration that follows. -/
def carriesOver (a : Text) : Bool := !standaloneAnnotations.any (startsWith a)

/-- Adds a variable to the exports or to the plain variables. -/
def addVariable (v : VariableDecl) (d : ScriptDecl) : ScriptDecl :=
  if v.isExport then { d with exports := d.exports ++ [v] }
  else { d with vars := d.vars ++ [v] }

/-- Reads a line that may declare a variable, an enum, or annotations for the next line. -/
def State.variableLine (st : State) (line : Nat) (code : Text) : State :=
  if hasKeyword code "enum" then
    let st := { st with pending := [] }
    match enumDecl? code with
    | some v => st.updateDecl (addVariable { v with line })
    | none => st
  else
    let (annotations, rest) := splitAnnotations code
    if rest.isEmpty && !annotations.isEmpty then
      { st with pending := st.pending ++ annotations.filter carriesOver }
    else
      let pending := st.pending
      let st := { st with pending := [] }
      match variableDecl? code with
      | some v => st.updateDecl (addVariable { annotate pending v with line })
      | none => st

/-- Reads a line at the top level that is neither indented nor a comment. -/
def State.topLine (opts : Options) (st : State) (line : Nat) (trimmed : Text) : State :=
  let code := trim (stripComment trimmed)
  let cleared := { st with pending := [] }
  if (funcKeyword? code).isSome then
    if !opts.methods then { cleared with place := .skipped }
    else if hasOpenParameters code then { cleared with signature := some ⟨code, line⟩ }
    else cleared.startMethod line code
  else match afterKeyword? code "class_name" with
  | some rest => cleared.updateDecl (readClassName rest)
  | none =>
  match afterKeyword? code "extends" with
  | some rest => cleared.updateDecl fun d => { d with base := baseName rest }
  | none =>
  if hasKeyword code "class" then { cleared with place := .skipped }
  else if hasKeyword code "signal" then
    match signalDecl? code with
    | some s => cleared.updateDecl fun d => { d with signals := d.signals ++ [{ s with line }] }
    | none => cleared
  else if opts.vars || opts.methods then st.variableLine line code
  else st

/-! ## The reader -/

/-- Reads a line that continues a signature. -/
def State.continueSignature (st : State) (sig : OpenSignature) (trimmed : Text) : State :=
  let text := sig.text ++ " " ++ trim (stripComment trimmed)
  let st := { st with signature := some { sig with text } }
  if hasOpenParameters text then st else st.closeSignature

/-- Reads the next line. -/
def State.next (opts : Options) (st : State) (line : Line) : State :=
  let trimmed := trim line.text
  if trimmed.isEmpty then st
  else
    let st := { st with parsed := { st.parsed with lines := st.parsed.lines ++ [line] } }
    match st.signature with
    | some sig => st.continueSignature sig trimmed
    | none =>
      let comment := startsWith trimmed "#"
      if comment then st
      else if indent line.text > 0 then
        if st.place == .body then
          { st with parsed := { st.parsed with bodies := pushLine line st.parsed.bodies } }
        else st
      else { st with place := .topLevel }.topLine opts line.number trimmed

/-- The lines of a source text, without byte order mark and carriage returns at line ends. -/
def sourceLines (src : Text) : List Text :=
  splitLines (replaceAll (stripStart src [0xEF, 0xBB, 0xBF]) "\r\n" "\n")

/-- The lines of a source text with their numbers. -/
def numberedLines (src : Text) : List Line :=
  (sourceLines src).mapIdx fun i text => ⟨i + 1, text⟩

/-- The signals emitted in the bodies, in source order. -/
def emissions (bodies : List Body) : List SignalEmission :=
  bodies.flatMap fun b => b.lines.flatMap fun l =>
    (emittedSignals l.text).map fun s => ⟨b.name, s, l.number⟩

/-- Reads the source of a script. -/
def parse (src : Text) (opts : Options) : Parsed :=
  let st := ((numberedLines src).foldl (State.next opts) {}).closeSignature
  { st.parsed with decl := { st.parsed.decl with emissions := emissions st.parsed.bodies } }

end GodotSurvey.Script
