import GodotSurvey.Config.Decode
import GodotSurvey.Files.Tree
import GodotSurvey.Json.Data
import GodotSurvey.Json.Reader
import GodotSurvey.Toml.Reader
import GodotSurvey.Yaml.Meaning

/-!
# Configuration files

Settings come from a file that is named, or from the first standard file of a directory. The
extension tells the format; what has another extension is read as TOML.
-/

namespace GodotSurvey.Config

open Json (Value)

/-- The names of standard files in the order in which they are looked for. -/
def standardNames : List Text :=
  ["gdlens.toml", "gdlens.yaml", "gdlens.yml", "gdlens.json",
    ".gdlens.toml", ".gdlens.yaml", ".gdlens.yml", ".gdlens.json"]

/-- The paths of the standard files of a directory. -/
def standardPaths (dir : Text) : List Text :=
  [Text.ofString ".", ".gdlens"].flatMap fun sub =>
    standardNames.map fun name => Path.join [dir, sub, name]

/-- The first standard file of a directory that exists. -/
def find? (fs : FileSystem) (dir : Text) : Option Text :=
  (standardPaths dir).find? (Source.fileExists fs)

/-! ## Formats -/

/-- The format of a settings file. -/
inductive FileFormat where
  | toml
  | yaml
  | json
  deriving DecidableEq, Repr

namespace FileFormat

/-- The format that a path shows. -/
def ofPath (path : Text) : FileFormat :=
  let ext := Text.lower (Path.extension path)
  if ext == ".yaml" || ext == ".yml" then .yaml else if ext == ".json" then .json else .toml

/-- The value of a text. -/
def parse? (content : Text) : FileFormat → Option Value
  | toml => Toml.parse? content
  | yaml => (Yaml.parse? content).bind (·.value?)
  | json => (Json.parse? content).bind Value.data?

/-- A list without items is no list. -/
def skipsEmptyLists (format : FileFormat) : Bool := format == .toml

/-- The settings that a text describes. -/
def read? (content : Text) (format : FileFormat) : Option Config :=
  (format.parse? content).bind (ofValue? format.skipsEmptyLists)

end FileFormat

/-! ## Loading -/

/-- Why settings could not be loaded. -/
inductive LoadError where
  | unreadable (path : Text) (e : FileError)
  | malformed (path : Text)
  | invalid (path : Text) (why : Invalid)
  deriving DecidableEq, Repr

def LoadError.message : LoadError → Text
  | unreadable path e => "loading " ++ path ++ ": " ++ e.message
  | malformed path => "loading " ++ path ++ ": malformed settings"
  | invalid path why => "validating " ++ path ++ ": " ++ why.message

/-- The settings in the file at a path. -/
def readFile (fs : FileSystem) (path : Text) : Except LoadError Config :=
  match fs.readFile path with
  | .error e => .error (.unreadable path e)
  | .ok content =>
    match (FileFormat.ofPath path).read? content with
    | none => .error (.malformed path)
    | some c =>
      match c.invalid? with
      | none => .ok c
      | some why => .error (.invalid path why)

/-- Settings and the file they came from; the defaults have none. -/
structure Loaded where
  config : Config := {}
  source : Text := []

/-- The settings of the file at `path`, or if that is empty of the first standard file of `dir`, or
if there is none the defaults. -/
def load (fs : FileSystem) (path : Text) (dir : Text) : Except LoadError Loaded :=
  if path.isEmpty then
    match find? fs dir with
    | none => .ok {}
    | some found => (⟨·, found⟩) <$> readFile fs found
  else (⟨·, path⟩) <$> readFile fs path

end GodotSurvey.Config
