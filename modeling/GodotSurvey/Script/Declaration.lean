import GodotSurvey.Document.Basic

/-!
# What a script declares

The structural model of one script: its class header, signals, variables and methods. Lists keep
source order and may hold the same name twice.
-/

namespace GodotSurvey

/-! ## Declarations -/

/-- Where a variable lives. -/
inductive VariableScope where
  | member
  | onready
  | constant
  | other (name : Text)
  deriving DecidableEq, Repr

namespace VariableScope

def name : VariableScope → Text
  | member => "class"
  | onready => "onready"
  | constant => "const"
  | other n => n

def ofName (n : Text) : VariableScope :=
  if n == "class" then member else if n == "onready" then onready
  else if n == "const" then constant else other n

end VariableScope

/-- The type of a declaration that leaves its type to the engine. -/
def inferredType : Text := "inferred"

/-- A parameter of a method or signal; an absent type or default is empty. -/
structure Parameter where
  name : Text
  type : Text := []
  default : Text := []
  deriving DecidableEq, Repr

/-- A `signal` declaration. -/
structure SignalDecl where
  name : Text
  parameters : List Parameter := []
  line : Nat := 0
  deriving DecidableEq, Repr

/-- A variable or constant of a class; a named enum is a constant too. -/
structure VariableDecl where
  name : Text
  type : Text := []
  default : Text := []
  isExport : Bool := false
  isConstant : Bool := false
  isOnready : Bool := false
  scope : VariableScope := .member
  line : Nat := 0
  annotations : List Text := []
  deriving DecidableEq, Repr

/-- A `func` declaration. -/
structure MethodDecl where
  name : Text
  parameters : List Parameter := []
  returnType : Text := []
  line : Nat := 0
  isStatic : Bool := false
  deriving DecidableEq, Repr

/-- A signal emitted in the body of a method. -/
structure SignalEmission where
  method : Text
  signal : Text
  line : Nat
  deriving DecidableEq, Repr

/-! ## Dependencies -/

/-- The ways in which a script refers to something else. -/
inductive DependencyKind where
  | inheritance
  | preload
  | load
  | classDbReference
  | classReference
  | typeHint
  | literalResource
  | other (name : Text)
  deriving DecidableEq, Repr

namespace DependencyKind

def name : DependencyKind → Text
  | inheritance => "inheritance"
  | preload => "preload"
  | load => "load"
  | classDbReference => "classdb_reference"
  | classReference => "class_reference"
  | typeHint => "type_hint"
  | literalResource => "literal_resource"
  | other n => n

/-- The kinds that have a meaning of their own. -/
def known : List DependencyKind :=
  [inheritance, preload, load, classDbReference, classReference, typeHint, literalResource]

def ofName (n : Text) : DependencyKind := (known.find? (·.name == n)).getD (other n)

/-- The kind has a meaning of its own. -/
def isKnown : DependencyKind → Bool
  | other _ => false
  | _ => true

end DependencyKind

/-- A reference from a script to a class, path or resource. -/
structure Dependency where
  target : Text
  kind : DependencyKind
  resolvedPath : Text := []
  resourceType : Text := []
  sourceLine : Text := []
  line : Nat := 0
  deriving DecidableEq, Repr

/-! ## Scripts -/

/-- The declarations of one script file. -/
structure ScriptDecl where
  className : Text := []
  base : Text := []
  signals : List SignalDecl := []
  exports : List VariableDecl := []
  vars : List VariableDecl := []
  methods : List MethodDecl := []
  dependencies : List Dependency := []
  emissions : List SignalEmission := []
  deriving DecidableEq, Repr

namespace ScriptDecl

/-- The exported variables, then the others. -/
def allVariables (d : ScriptDecl) : List VariableDecl := d.exports ++ d.vars

/-- A method of that name is declared. -/
def hasMethod (d : ScriptDecl) (name : Text) : Bool := d.methods.any (·.name == name)

/-- The names of the declared signals in source order. -/
def signalNames (d : ScriptDecl) : List Text := d.signals.map (·.name)

/-- The names of the emitted signals in source order, one for each emission. -/
def emittedNames (d : ScriptDecl) : List Text := d.emissions.map (·.signal)

end ScriptDecl

/-! ## Documents -/

open Document

def Parameter.document (p : Parameter) : Document :=
  ofFields [field "name" (.text p.name), textField "type" p.type, textField "default" p.default]

def SignalDecl.document (s : SignalDecl) : Document :=
  ofFields [field "name" (.text s.name),
    field "parameters" (.list (s.parameters.map Parameter.document)),
    field "line_number" (nat s.line)]

def VariableDecl.document (v : VariableDecl) : Document :=
  ofFields [field "name" (.text v.name), field "type" (.text v.type),
    textField "default_value" v.default, field "is_export" (.bool v.isExport),
    field "is_constant" (.bool v.isConstant), field "is_onready" (.bool v.isOnready),
    field "scope" (.text v.scope.name), field "line_number" (nat v.line),
    listField "annotations" (v.annotations.map .text)]

def MethodDecl.document (m : MethodDecl) : Document :=
  ofFields [field "name" (.text m.name),
    field "parameters" (.list (m.parameters.map Parameter.document)),
    textField "return_type" m.returnType, field "line_number" (nat m.line),
    flagField "is_static" m.isStatic]

def SignalEmission.document (e : SignalEmission) : Document :=
  ofFields [field "method" (.text e.method), field "signal" (.text e.signal),
    field "line" (nat e.line)]

def Dependency.document (d : Dependency) : Document :=
  ofFields [field "target" (.text d.target), field "kind" (.text d.kind.name),
    textField "resolved_path" d.resolvedPath,
    field "metadata" (ofFields [textField "resource_type" d.resourceType]),
    field "source_line" (.text d.sourceLine), field "line_number" (nat d.line)]

def ScriptDecl.document (d : ScriptDecl) : Document :=
  ofFields [field "class_name" (.text d.className), field "extends" (.text d.base),
    field "signals" (.list (d.signals.map SignalDecl.document)),
    field "exports" (.list (d.exports.map VariableDecl.document)),
    field "variables" (.list (d.vars.map VariableDecl.document)),
    field "methods" (.list (d.methods.map MethodDecl.document)),
    field "dependencies" (.list (d.dependencies.map Dependency.document)),
    field "signal_emissions" (.list (d.emissions.map SignalEmission.document))]

end GodotSurvey
