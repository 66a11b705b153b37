import GodotSurvey.Text.Path

/-!
# Resource paths

A project names its files by resource paths: `res://` is the project's root. The schemes `uid://`
and `user://` name things that cannot be found without running the engine.
-/

namespace GodotSurvey.ResourcePath

open Text

def resScheme : Text := "res://"
def uidScheme : Text := "uid://"
def userScheme : Text := "user://"

/-- The text uses one of the resource schemes. -/
def isResource (p : Text) : Bool :=
  startsWith p resScheme || startsWith p uidScheme || startsWith p userScheme

/-- The file path that a resource path names in the project at `root`; a path without scheme is
kept. -/
def resolve? (root p : Text) : Option Text :=
  match dropStart? p resScheme with
  | some rel => some (Path.join [root, rel])
  | none =>
    if p.isEmpty || startsWith p uidScheme || startsWith p userScheme then none else some p

/-- The `res://` path of a file below `root`; any other path is kept. -/
def ofFile (root p : Text) : Text :=
  if startsWith p resScheme || root.isEmpty then p
  else match Path.relative? root p with
    | some rel => if startsWith rel ".." then p else resScheme ++ Path.clean rel
    | none => p

end GodotSurvey.ResourcePath
