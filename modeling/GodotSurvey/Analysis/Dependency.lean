import GodotSurvey.Project.ResourcePath
import GodotSurvey.Registry.Basic
import GodotSurvey.Script.Parser
import GodotSurvey.Text.Case

/-!
# Dependencies of a script

What a script refers to: its base class, files named in loading calls, global classes used in code
or as types, and variables whose default is a resource path. Candidates are collected in this
order, line by line first, and each kind, target and line counts once.
-/

namespace GodotSurvey.Dependency

open Text Lexing

/-! ## Loaders and resource types -/

/-- A call whose first string argument names something the script depends on. -/
structure Loader where
  name : Text
  kind : DependencyKind
  allowDot : Bool := false
  deriving DecidableEq, Repr

def defaultLoaders : List Loader :=
  [⟨"preload", .preload, false⟩, ⟨"load", .load, false⟩, ⟨"ResourceLoader.load", .load, true⟩,
    ⟨"ClassDB.instantiate", .classDbReference, true⟩]

/-- The resource types by extension. -/
def resourceTypes : List (Text × Text) :=
  [(".gd", "Script"), (".cs", "Script"), (".tscn", "PackedScene"), (".scn", "PackedScene"),
    (".escn", "PackedScene"), (".tres", "Resource"), (".res", "Resource"), (".png", "Texture2D"),
    (".jpg", "Texture2D"), (".jpeg", "Texture2D"), (".svg", "Texture2D"), (".webp", "Texture2D"),
    (".wav", "AudioStream"), (".ogg", "AudioStream"), (".mp3", "AudioStream"),
    (".gdshader", "Shader"), (".shader", "Shader"), (".ttf", "FontFile"), (".otf", "FontFile"),
    (".json", "JSON"), (".glb", "PackedScene"), (".gltf", "PackedScene"), (".obj", "Mesh")]

/-- The type of the resource at a path, empty if the extension does not show it. -/
def resourceTypeOf (path : Text) : Text :=
  (resourceTypes.lookup (lower (Path.extension path))).getD []

/-! ## Candidates -/

/-- A reference found on a line, given as trimmed text. -/
def candidate (r : Registry) (kind : DependencyKind) (text : Text) (line : Nat) (target : Text) :
    Dependency :=
  let isResource := ResourcePath.isResource target
  { target, kind, sourceLine := text, line
    resourceType := if isResource then resourceTypeOf target else []
    resolvedPath := if isResource then [] else (r.pathOf? target).getD [] }

/-- The base class named on a line. -/
def baseTarget? (code : Text) : Option Text :=
  let rest := match dropStart? code "extends " with
    | some rest => some rest
    | none =>
      if startsWith code "class_name " then (cut? code " extends ").map (·.2) else none
  match rest with
  | none => none
  | some rest =>
    let target := Script.baseName rest
    if target.isEmpty then none else some target

/-- The names used as `Name.` or `Name(`, not behind a dot. `word` holds the bytes of the name
being read, last first, and `before` the byte in front of it. -/
def usedNamesFrom (before : Option UInt8) (word : Text) : Text → List Text
  | [] => []
  | c :: rest =>
    if isIdent c then usedNamesFrom before (c :: word) rest
    else
      let used := !word.isEmpty && before != some '.' && (c == '.' || c == '(')
      (if used then [word.reverse] else []) ++ usedNamesFrom (some c) [] rest

/-- The global classes that code uses. -/
def usedClasses (r : Registry) (code : Text) : List Text :=
  (usedNamesFrom none [] (mask code)).filter r.isUserClass

/-- The references on one line of the script that declares the class `self`. -/
def lineCandidates (r : Registry) (loaders : List Loader) (self : Text) (l : Script.Line) :
    List Dependency :=
  let code := stripComment l.text
  if isSpace code then []
  else
    let make := fun kind => candidate r kind (trim l.text) l.number
    let base := if indent code == 0 then (baseTarget? (trim code)).toList else []
    base.map (make .inheritance)
      ++ loaders.flatMap (fun ld => (quotedArgs code ld.name ld.allowDot).map (make ld.kind))
      ++ ((usedClasses r code).filter (· != self)).map (make .classReference)

/-- The types a script declares, each with its line. -/
def declaredTypes (d : ScriptDecl) : List (Text × Nat) :=
  let vars := (d.allVariables.filter fun v => v.type != inferredType).map (fun v => (v.type, v.line))
  let methods := d.methods.flatMap fun m =>
    let types := m.returnType :: (m.parameters.map (·.type)).filter (· != inferredType)
    types.map (·, m.line)
  vars ++ methods

/-- The trimmed text of the source line of that number. -/
def lineText (p : Script.Parsed) (line : Nat) : Text :=
  match p.lines.find? (·.number == line) with
  | some l => trim l.text
  | none => []

/-- The global classes in declared types. -/
def typeCandidates (r : Registry) (p : Script.Parsed) : List Dependency :=
  (declaredTypes p.decl).flatMap fun (type, line) =>
    let names := (identifiers type).filter fun n => n != p.decl.className && r.isUserClass n
    names.map (candidate r .typeHint (lineText p line) line)

/-- The resource path that a default value holds. -/
def resourceLiteral? (value : Text) : Option Text :=
  let v := stripStart (trim value) "@"
  match v with
  | c :: _ :: _ =>
    let path := unquote v
    if isQuote c && v.getLast? == some c && ResourcePath.isResource path then some path else none
  | _ => none

/-- The resource paths that are default values. -/
def literalCandidates (r : Registry) (p : Script.Parsed) : List Dependency :=
  p.decl.allVariables.filterMap fun v =>
    (resourceLiteral? v.default).map (candidate r .literalResource (lineText p v.line) v.line)

/-- All references in the order in which they are considered. -/
def candidates (r : Registry) (loaders : List Loader) (p : Script.Parsed) : List Dependency :=
  p.lines.flatMap (lineCandidates r loaders p.decl.className)
    ++ typeCandidates r p ++ literalCandidates r p

/-! ## Collecting -/

/-- The two references have the same kind, target and line. -/
def sameKey (a b : Dependency) : Bool := a.kind == b.kind && a.target == b.target && a.line == b.line

/-- Adds a reference, unless it has no target or its key is there already. -/
def collect (ds : List Dependency) (d : Dependency) : List Dependency :=
  if d.target.isEmpty || ds.any (sameKey d) then ds else ds ++ [d]

/-- The dependencies of a script. -/
def ofScript (r : Registry) (loaders : List Loader) (p : Script.Parsed) : List Dependency :=
  (candidates r loaders p).foldl collect []

end GodotSurvey.Dependency
