import GodotSurvey.Project.FileKind
import GodotSurvey.Project.ResourcePath
import GodotSurvey.Project.Source
import GodotSurvey.Registry.Basic
import GodotSurvey.Script.Parser

/-!
# Where global classes come from

A project lists its global classes in the engine's class cache, in an older form in the project
file, or not at all, and then its scripts are searched for them. Autoloads come from the project
file in any case.
-/

namespace GodotSurvey.Registry

open Text Lexing

/-! ## Class lists -/

/-- The string under a key of a serialised dictionary. -/
def dictString (block key : Text) : Text :=
  match cut? block ("\"" ++ key ++ "\":") with
  | none => []
  | some (_, rest) =>
    let rest := rest.dropWhile fun c : UInt8 => c == ' ' || c == '\t' || c == '\n'
    match dropStart? (stripStart rest "&") "\"" with
    | none => []
    | some rest =>
      match findByte? rest '"' with
      | some i => rest.take i
      | none => []

/-- The class of a serialised dictionary, if it has a name. -/
def classOfBlock? (block : Text) : Option GlobalClass :=
  let name := dictString block "class"
  if name.isEmpty then none
  else some
    { name, path := dictString block "path", base := dictString block "base"
      language := dictString block "language" }

/-- The classes of a serialised list: one for each dictionary outside strings, up to the first one
that is not closed. `skip` bytes belong to the string or dictionary read last. -/
def classListFrom : (skip : Nat) → Text → List GlobalClass
  | _, [] => []
  | n + 1, _ :: rest => classListFrom n rest
  | 0, c :: rest =>
    if c == '"' then
      match findByte? rest '"' with
      | some i => classListFrom (i + 1) rest
      | none => classListFrom 0 rest
    else if c == '{' then
      match closeOfFirst? (c :: rest) with
      | none => []
      | some i => (classOfBlock? (rest.take (i - 1))).toList ++ classListFrom i rest
    else classListFrom 0 rest

/-- The classes of a serialised list. -/
def classList (s : Text) : List GlobalClass := classListFrom 0 s

/-! ## Files -/

/-- The content of a file, empty if there is no such file. -/
def readOptional (fs : FileSystem) (p : Text) : Except FileError Text :=
  match fs.readFile p with
  | .ok s => .ok s
  | .error e => if e.cause == .notFound then .ok [] else .error e

/-- The text from the first occurrence of a marker on, empty without one. -/
def fromMarker (s marker : Text) : Text :=
  match find? s marker with
  | some i => s.drop i
  | none => []

/-- The class cache of the engine, below the project's root. -/
def cacheFile (root : Text) : Text := Path.join [root, ".godot/global_script_class_cache.cfg"]

/-- The classes in the text of a class cache. -/
def cachedClasses (s : Text) : List GlobalClass := classList (fromMarker s "list=")

/-- The classes in the text of a project file. -/
def listedClasses (s : Text) : List GlobalClass :=
  let rest := fromMarker s "_global_script_classes="
  match findByte? rest '[' with
  | some i => classList (inner rest i).1
  | none => []

/-- The autoload on a line of its section. -/
def autoload? (line : Text) : Option GlobalClass :=
  match findByte? line '=' with
  | none | some 0 => none
  | some i =>
    let name := trim (line.take i)
    let path := stripStart (unquote (line.drop (i + 1))) "*"
    if name.isEmpty || path.isEmpty then none else some { name, path, autoload := true }

/-- The autoloads among lines; `inSection` while the section of autoloads is read. -/
def autoloadsFrom (inSection : Bool) : List Text → List GlobalClass
  | [] => []
  | raw :: rest =>
    let line := trim raw
    if startsWith line "[" then autoloadsFrom (line == "[autoload]") rest
    else if !inSection || startsWith line ";" then autoloadsFrom inSection rest
    else (autoload? line).toList ++ autoloadsFrom inSection rest

/-- The autoloads in the text of a project file. -/
def autoloads (s : Text) : List GlobalClass :=
  autoloadsFrom false (splitLines (replaceAll s "\r\n" "\n"))

/-- The directories that are never searched for scripts. -/
def defaultSkipDirs : List Text := [".godot", ".import", ".git"]

/-- The class that a script file declares, if it declares one. -/
def scannedClass? (root path src : Text) : Option GlobalClass :=
  let d := (Script.parse src { vars := false, methods := false }).decl
  if d.className.isEmpty then none
  else some
    { name := d.className, path := ResourcePath.ofFile root path, base := d.base
      language := "GDScript" }

/-- The classes declared by the scripts below the root. A directory in `skipDirs`, or with a file
`.gdignore`, is not entered. -/
def scannedClasses (fs : FileSystem) (root : Text) (skipDirs : List Text) : List GlobalClass :=
  let enter := fun p (_ : Entry) =>
    p == root || !(skipDirs.contains (Path.base p) || fs.pathExists (Path.join [p, ".gdignore"]))
  (fs.tree enter root).filterMap fun (p, e) =>
    if e.isDirectory || FileKind.ofPath p != .script then none
    else match fs.readFile p with
      | .ok src => scannedClass? root p src
      | .error _ => none

/-! ## Sources of classes -/

/-- A source of global classes. -/
inductive Provider where
  | classCache
  | projectClasses
  | scan
  | autoload
  deriving DecidableEq, Repr

namespace Provider

def name : Provider → Text
  | classCache => "class_cache"
  | projectClasses => "project_classes"
  | scan => "scan"
  | autoload => "autoload"

/-- The classes that a source gives for the project at `root`. -/
def classes (fs : FileSystem) (root : Text) (skipDirs : List Text) :
    Provider → Except FileError (List GlobalClass)
  | classCache => cachedClasses <$> readOptional fs (cacheFile root)
  | projectClasses => listedClasses <$> readOptional fs (Path.join [root, Source.projectMarker])
  | scan => .ok (scannedClasses fs root skipDirs)
  | autoload => autoloads <$> readOptional fs (Path.join [root, Source.projectMarker])

end Provider

/-- A source that could not be read. -/
structure LoadError where
  provider : Provider
  error : FileError
  deriving Repr

def LoadError.message (e : LoadError) : Text := e.provider.name ++ " provider: " ++ e.error.message

/-- The first source that gives classes, with these; `none` if no source does. -/
def firstClasses (fs : FileSystem) (root : Text) :
    List Provider → Except LoadError (Text × List GlobalClass)
  | [] => .ok ([], [])
  | p :: rest =>
    match p.classes fs root defaultSkipDirs with
    | .error e => .error ⟨p, e⟩
    | .ok [] => firstClasses fs root rest
    | .ok cs => .ok (p.name, cs)

/-- The registry of the project at `root`. -/
def load (fs : FileSystem) (root : Text) : Except LoadError Registry :=
  match firstClasses fs root [.classCache, .projectClasses, .scan] with
  | .error e => .error e
  | .ok (source, classes) =>
    match Provider.autoload.classes fs root defaultSkipDirs with
    | .error e => .error ⟨.autoload, e⟩
    | .ok autos => .ok (ofClasses (classes ++ autos) source)

end GodotSurvey.Registry
