import GodotSurvey.Text.Case
import GodotSurvey.Text.Path

/-!
# Kinds of project files

The kind of a file is told by its name alone, in any letter case.
-/

namespace GodotSurvey

inductive FileKind where
  | script
  | scene
  /-- A scene in a binary format, which cannot be read. -/
  | binaryScene
  | resource
  /-- The file that marks the root of a project. -/
  | project
  | unknown
  deriving DecidableEq, Repr

namespace FileKind

def name : FileKind → Text
  | script => "script"
  | scene => "scene"
  | binaryScene => "binary_scene"
  | resource => "resource"
  | project => "project"
  | unknown => "unknown"

/-- The kind of the file at a path. -/
def ofPath (p : Text) : FileKind :=
  let ext := Text.lower (Path.extension p)
  if Text.lower (Path.base p) == "project.godot" then project
  else if ext == ".gd" then script
  else if ext == ".tscn" || ext == ".escn" then scene
  else if ext == ".scn" then binaryScene
  else if ext == ".tres" then resource
  else unknown

end FileKind

end GodotSurvey
