import GodotSurvey.Script.Declaration
import GodotSurvey.Script.Literal

/-!
# Declarations on one line

Readers for the lines that declare something: annotations, variables, constants, enums, methods
and signals. A line that is no such declaration gives `none`; nothing here fails.
-/

namespace GodotSurvey.Script

open Text Lexing

/-! ## Keywords and annotations -/

/-- What follows the keyword that begins the text; an identifier that only starts like it does
not count. -/
def afterKeyword? (s keyword : Text) : Option Text :=
  match dropStart? s keyword with
  | some rest => if rest.head?.any isIdent then none else some rest
  | none => none

/-- The text begins with the keyword. -/
def hasKeyword (s keyword : Text) : Bool := (afterKeyword? s keyword).isSome

/-- The length of an argument list in parentheses that begins the text, 0 without one; an
unclosed list has the given length. -/
def argumentsLength (unclosed : Nat) (s : Text) : Nat :=
  if s.head? == some '(' then
    match closeOfFirst? s with
    | some i => i + 1
    | none => unclosed
  else 0

/-- The number of bytes of the annotation that begins the text: an `@` name with its arguments, or
one of the old keywords `export` and `onready`. -/
def annotationLength (s : Text) : Nat :=
  match s with
  | [] => 0
  | c :: rest =>
    if c == '@' then
      let name := rest.takeWhile isIdent
      let after := rest.drop name.length
      1 + name.length + argumentsLength after.length after
    else match afterKeyword? s "export" with
      | some after => 6 + argumentsLength 0 after
      | none => if hasKeyword s "onready" then 7 else 0

/-- Takes annotations off the front of a trimmed text, at most `fuel` of them. -/
def splitAnnotationsFrom : (fuel : Nat) → Text → List Text × Text
  | 0, s => ([], s)
  | fuel + 1, s =>
    match annotationLength s with
    | 0 => ([], s)
    | n =>
      let (more, rest) := splitAnnotationsFrom fuel (trim (s.drop n))
      (s.take n :: more, rest)

/-- The annotations at the front of a line and the text behind them. -/
def splitAnnotations (line : Text) : List Text × Text :=
  splitAnnotationsFrom line.length (trim line)

/-- The annotation exports the variable it stands before. -/
def isExportAnnotation (a : Text) : Bool := startsWith a "@export" || startsWith a "export"

/-- The annotation delays initialisation until the node is ready. -/
def isOnreadyAnnotation (a : Text) : Bool := a == "@onready" || a == "onready"

/-! ## Variables -/

/-- Adds annotations in front of those a variable has. -/
def annotate (annotations : List Text) (v : VariableDecl) : VariableDecl :=
  let isOnready := v.isOnready || annotations.any isOnreadyAnnotation
  { v with
    annotations := annotations ++ v.annotations
    isExport := v.isExport || annotations.any isExportAnnotation
    isOnready := isOnready
    scope := if isOnready && !v.isConstant then .onready else v.scope }

/-- What follows the keyword of a variable or constant, and whether it is constant. -/
def variableKeyword? (s : Text) : Option (Bool × Text) :=
  match afterKeyword? s "const" with
  | some rest => some (true, rest)
  | none =>
    match afterKeyword? s "static" with
    | some rest => (afterKeyword? (trim rest) "var").map (false, ·)
    | none => (afterKeyword? s "var").map (false, ·)

/-- Reads `name`, `name: type`, `name = value` and their combinations. -/
def variableBody? (isConstant : Bool) (body : Text) : Option VariableDecl :=
  let assignment := findAssignment? body
  let (head, value) := match assignment with
    | some a => (body.take a.index, trim (stripEnd (trim (body.drop (a.index + a.width))) ":"))
    | none => (body, [])
  let head := stripEnd (trim head) ":"
  let (name, type) := match findTypeColon? head with
    | some i => (head.take i, trim (head.drop (i + 1)))
    | none => (head, [])
  let name := trim name
  let type := if type.isEmpty && assignment.any (·.inferring) then inferredType else type
  if isIdentifier name then
    some { name, type, default := value, isConstant,
           scope := if isConstant then .constant else .member }
  else none

/-- Reads a `var` or `const` line with its annotations. -/
def variableDecl? (line : Text) : Option VariableDecl :=
  let (annotations, code) := splitAnnotations (stripComment line)
  match variableKeyword? code with
  | none => none
  | some (isConstant, rest) =>
    let body := trim rest
    let body := match findUnquoted? body " setget " with
      | some i => body.take i
      | none => body
    (variableBody? isConstant body).map (annotate annotations)

/-- Reads a named `enum` as a constant dictionary; an anonymous one declares nothing. -/
def enumDecl? (line : Text) : Option VariableDecl :=
  match afterKeyword? (trim (stripComment line)) "enum" with
  | none => none
  | some rest =>
    let name := trim (rest.takeWhile fun c : UInt8 => c != '{')
    if isIdentifier name then
      some { name, type := "Dictionary", isConstant := true, scope := .constant }
    else none

/-! ## Parameters -/

/-- The type of a parameter that declares none: that of a `:=` default, else left open. -/
def untypedParameter (assignment : Option Assignment) (value : Text) : Text :=
  if assignment.any (·.inferring) then literalType value else inferredType

/-- Reads one trimmed parameter. -/
def parameter (markInferred : Bool) (s : Text) : Parameter :=
  let assignment := findAssignment? s
  let (head, value) := match assignment with
    | some a => (trim (s.take a.index), trim (s.drop (a.index + a.width)))
    | none => (trim s, [])
  let (name, type) := match findTypeColon? head with
    | some i => (trim (head.take i), trim (head.drop (i + 1)))
    | none => (head, [])
  let type := if type.isEmpty && markInferred then untypedParameter assignment value else type
  { name, type, default := value }

/-- Reads a parameter list. Every comma separates, also one inside a default value. -/
def parameters (markInferred : Bool) (s : Text) : List Parameter :=
  (((splitByte ',' s).map trim).filter (!·.isEmpty)).map (parameter markInferred)

/-! ## Methods and signals -/

/-- What follows the keyword `func`, and whether `static` stands before it. -/
def funcKeyword? (s : Text) : Option (Bool × Text) :=
  match afterKeyword? s "static" with
  | some rest => (afterKeyword? (trim rest) "func").map (true, ·)
  | none => (afterKeyword? s "func").map (false, ·)

/-- The return type in the text behind the parameter list. -/
def returnType (s : Text) : Text :=
  match cut? s "->" with
  | none => []
  | some (_, type) =>
    match findUnquoted? type ":" with
    | some i => trim (type.take i)
    | none => trim type

/--
Reads a method signature and tells whether the line is one. A line with `func` and something that
is no name still shows the text found in place of the name, if no parenthesis follows it.
-/
def readMethod (line : Text) : MethodDecl × Bool :=
  match funcKeyword? (trim (stripComment line)) with
  | none => ({ name := [] }, false)
  | some (isStatic, rest) =>
    let rest := trim rest
    match findByte? rest '(' with
    | none =>
      let name := trim (stripEnd rest ":")
      ({ name, isStatic }, isIdentifier name)
    | some i =>
      let name := trim (rest.take i)
      if !isIdentifier name then ({ name := [] }, false)
      else
        let (params, close) := inner rest i
        let type := match close with
          | some j => returnType (rest.drop (j + 1))
          | none => []
        ({ name, parameters := parameters true params, returnType := type, isStatic }, true)

/-- Reads a method signature. -/
def methodDecl? (line : Text) : Option MethodDecl :=
  let (m, ok) := readMethod line
  if ok then some m else none

/-- Reads a `signal` declaration. -/
def signalDecl? (line : Text) : Option SignalDecl :=
  match afterKeyword? (trim (stripComment line)) "signal" with
  | none => none
  | some rest =>
    let rest := trim rest
    let decl : SignalDecl := match findByte? rest '(' with
      | none => { name := rest }
      | some i => { name := trim (rest.take i), parameters := parameters false (inner rest i).1 }
    if isIdentifier decl.name then some decl else none

end GodotSurvey.Script
