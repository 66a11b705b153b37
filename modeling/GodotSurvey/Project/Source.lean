import GodotSurvey.Files.Tree
import GodotSurvey.Project.AnalysisError

/-!
# Reading project files

The content of a file for analysis, and the root of the project that a path belongs to: the nearest
directory above it that holds the marker file.
-/

namespace GodotSurvey.Source

/-- The file that marks the root of a project. -/
def projectMarker : Text := "project.godot"

/-- How many directories are searched for the marker by default. -/
def defaultMaxDepth : Nat := 32

/-- The content of a file; an empty file is a failure too. -/
def read (fs : FileSystem) (p : Text) : Except AnalysisError Text :=
  match fs.stat p with
  | .error e =>
    .error ⟨if e.cause == .notFound then .notFound else .unreadable, p, some e.message⟩
  | .ok e =>
    if e.isDirectory then .error ⟨.unreadable, p, some "is a directory"⟩
    else match fs.readFile p with
      | .error e => .error ⟨.unreadable, p, some e.message⟩
      | .ok [] => .error ⟨.empty, p, none⟩
      | .ok content => .ok content

/-- The path names a file, not a directory. -/
def fileExists (fs : FileSystem) (p : Text) : Bool :=
  match fs.stat p with
  | .ok e => !e.isDirectory
  | .error _ => false

/-- Searches a directory and those above it, at most `fuel` of them. -/
def findRootFrom (fs : FileSystem) : (fuel : Nat) → (dir : Text) → Option Text
  | 0, _ => none
  | fuel + 1, dir =>
    if fs.pathExists (Path.join [dir, projectMarker]) then some dir
    else if Path.parent dir == dir then none
    else findRootFrom fs fuel (Path.parent dir)

/-- The root of the project that a path belongs to; a depth of 0 or less means the default. -/
def findRoot? (fs : FileSystem) (start : Text) (maxDepth : Int) : Option Text :=
  let depth := if maxDepth ≤ 0 then defaultMaxDepth else maxDepth.toNat
  let dir := Path.clean start
  let dir := if fileExists fs dir then Path.parent dir else dir
  findRootFrom fs depth dir

end GodotSurvey.Source
