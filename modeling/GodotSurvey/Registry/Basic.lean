import GodotSurvey.Document.Basic
import GodotSurvey.Digest.XxHash64
import GodotSurvey.Registry.EngineClasses
import GodotSurvey.Registry.Primitives

/-!
# The class registry

What the names of classes mean in one project: the global classes the project declares, on top of
the classes of the engine.
-/

namespace GodotSurvey

/-- A class of the project that every script can name; an autoload is one too. -/
structure GlobalClass where
  name : Text
  path : Text := []
  base : Text := []
  language : Text := []
  autoload : Bool := false
  deriving DecidableEq, Repr

/-- The global classes of a project, sorted by name and with distinct names, and the name of the
source they were read from. -/
structure Registry where
  classes : List GlobalClass := []
  source : Text := []
  deriving DecidableEq, Repr

namespace Registry

/-- The method that every class has for making an instance. -/
def constructorMethod : Text := "new"

/-! ## Building -/

/-- Adds a class, unless its name is empty or taken. -/
def addClass (cs : List GlobalClass) (c : GlobalClass) : List GlobalClass :=
  if c.name.isEmpty || cs.any (·.name == c.name) then cs else cs ++ [c]

/-- The registry of a class list; of several classes with one name the first counts. -/
def ofClasses (classes : List GlobalClass) (source : Text := []) : Registry where
  classes := (classes.foldl addClass []).mergeSort fun a b => Text.le a.name b.name
  source := source

/-- The registry with engine classes only. -/
def empty : Registry := {}

/-- The line of a class in the text that identifies the class list. -/
def classLine (c : GlobalClass) : Text :=
  Text.join [0] [c.name, c.path, c.base, c.language, if c.autoload then "true" else "false"] ++ "\n"

/-- The text that identifies the class list. -/
def identity (r : Registry) : Text := r.classes.flatMap classLine

/-- A short name for the class list. -/
def fingerprint (r : Registry) : Text := XxHash64.hex r.identity

/-! ## Queries -/

/-- The global class of that name. -/
def class? (r : Registry) (name : Text) : Option GlobalClass := r.classes.find? (·.name == name)

def isUserClass (r : Registry) (name : Text) : Bool := (r.class? name).isSome

def isEngineClass (name : Text) : Bool := (engineClass? name).isSome

/-- The name is a class of the project or the engine. -/
def isClass (r : Registry) (name : Text) : Bool := r.isUserClass name || isEngineClass name

/-- The path of the script that declares a global class. -/
def pathOf? (r : Registry) (name : Text) : Option Text :=
  match r.class? name with
  | some c => if c.path.isEmpty then none else some c.path
  | none => none

/-- The number of base classes that are followed at most. -/
def maxBaseDepth : Nat := 64

def engineHasMethodFrom (method : Text) : (fuel : Nat) → Text → Bool
  | 0, _ => false
  | fuel + 1, name =>
    match engineClass? name with
    | none => false
    | some c => c.methods.contains method || engineHasMethodFrom method fuel c.base

/-- The engine class or one of its bases declares the method. -/
def engineHasMethod (name method : Text) : Bool := engineHasMethodFrom method maxBaseDepth name

/-- Some engine class declares the method. -/
def engineMethodKnown (method : Text) : Bool := engineClasses.any (·.methods.contains method)

def engineBaseFrom (r : Registry) : (fuel : Nat) → Text → Option Text
  | 0, _ => none
  | fuel + 1, name =>
    if name.isEmpty then none
    else if isEngineClass name then some name
    else match r.class? name with
      | none => none
      | some c => r.engineBaseFrom fuel c.base

/-- The first engine class on the way from a class through its bases. -/
def engineBase? (r : Registry) (name : Text) : Option Text := r.engineBaseFrom maxBaseDepth name

end Registry

/-! ## Documents -/

open Document in
def GlobalClass.document (c : GlobalClass) : Document :=
  ofFields [field "name" (.text c.name), field "path" (.text c.path), textField "base" c.base,
    textField "language" c.language, flagField "autoload" c.autoload]

end GodotSurvey
