import GodotSurvey.Cache.Basic
import GodotSurvey.Config.Basic
import GodotSurvey.Registry.Providers

/-!
# Surveys

A survey analyses files with given settings: single scripts and scenes, or everything in a project.
This module says what a survey works with, which file a path means, and which classes a project has.

Files are named from outside by file paths or by `res://` paths; inside a project they are reported
under their `res://` paths.
-/

namespace GodotSurvey

/-- What a survey works with. -/
structure Survey where
  config : Config := {}
  files : FileSystem := {}
  /-- The root for `res://` paths; an empty one stands for the project of the working directory. -/
  root : Text := []
  /-- The classes of every project, if they are not to be loaded. -/
  classes : Option Registry := none
  cache : ResultCache := {}
  now : Instant := ⟨0⟩

/-- A file to analyse. -/
structure Target where
  path : Text
  /-- The root of its project, empty outside a project. -/
  root : Text := []
  /-- The path under which it is reported. -/
  name : Text
  deriving DecidableEq, Repr

/-- Why a survey gave up. -/
inductive SurveyError where
  | file (e : AnalysisError)
  | classes (root : Text) (e : Registry.LoadError)
  | scan (root : Text) (e : FileError)

def SurveyError.message : SurveyError → Text
  | file e => e.message
  | classes root e => "loading classes of " ++ root ++ ": " ++ e.message
  | scan root e => "scanning " ++ root ++ ": " ++ e.message

namespace Survey

/-- A computation that may read and fill the cache, whose files are its state. -/
abbrev Caching := StateM FileSystem

/-- The root of the project that a path belongs to. -/
def projectRoot? (s : Survey) (path : Text) : Option Text :=
  Source.findRoot? s.files path s.config.analysis.projectRootMaxDepth

/-! ## Locating files -/

/-- The file of a `res://` path in the project at `root`. -/
def locateIn (root resPath : Text) : Except AnalysisError Target :=
  if root.isEmpty then
    .error ⟨.notFound, resPath, some "no project root to resolve against"⟩
  else .ok ⟨(ResourcePath.resolve? root resPath).getD [], root, resPath⟩

/-- The file that a path means. -/
def locate (s : Survey) (p : Text) : Except AnalysisError Target :=
  if Text.startsWith p ResourcePath.resScheme then
    locateIn (if s.root.isEmpty then (s.projectRoot? s.files.workingDir).getD [] else s.root) p
  else if ResourcePath.isResource p then
    .error ⟨.notFound, p, some "path cannot be resolved statically"⟩
  else
    let absolute := s.files.absolute p
    match s.projectRoot? absolute with
    | none => .ok ⟨absolute, [], p⟩
    | some root => .ok ⟨absolute, root, ResourcePath.ofFile root absolute⟩

/-- The file at a path below a project's root. -/
def fileIn (root path : Text) : Target := ⟨path, root, ResourcePath.ofFile root path⟩

/-! ## Classes -/

/-- The classes of the project at `root`; outside a project there are those of the engine only. -/
def registry (s : Survey) (root : Text) : Except SurveyError Registry :=
  match s.classes with
  | some r => .ok r
  | none =>
    if root.isEmpty then .ok {}
    else match Registry.load s.files root with
      | .ok r => .ok r
      | .error e => .error (.classes root e)

end Survey

end GodotSurvey
