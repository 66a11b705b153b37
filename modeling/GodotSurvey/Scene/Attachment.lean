import GodotSurvey.Scene.Tree
import GodotSurvey.Project.ResourcePath

/-!
# Scripts attached to nodes

A node refers to its script by a property: through an external resource, or by the path itself. A
reference that leads to no file of the project is kept with the reason.
-/

namespace GodotSurvey

/-- A node and the script attached to it. -/
structure NodeScript where
  nodePath : Text
  scriptPath : Text
  deriving DecidableEq, Repr

/-- Why a script reference leads nowhere. -/
inductive Unresolved where
  | builtIn
  | undeclared
  | notInProject
  deriving DecidableEq, Repr

def Unresolved.message : Unresolved → Text
  | builtIn => "built-in sub_resource scripts are not supported"
  | undeclared => "ext_resource id is not declared"
  | notInProject => "script reference is not a res:// path"

/-- A script reference that leads nowhere. -/
structure UnresolvedScript where
  nodePath : Text
  reference : Text
  reason : Unresolved
  deriving DecidableEq, Repr

namespace Scene

/-- The path if it is a `res://` path. -/
def projectPath (p : Text) : Except Unresolved Text :=
  if Text.startsWith p ResourcePath.resScheme then .ok p else .error .notInProject

/-- The script that the value of a property refers to. -/
def scriptOf (f : SceneFile) (value : Text) : Except Unresolved Text :=
  let v := Text.trim value
  if (subResourceId? v).isSome then .error .builtIn
  else match extResourceId? v with
    | some id =>
      match f.extResource? id with
      | none => .error .undeclared
      | some r => projectPath r.path
    | none => projectPath (Lexing.unquote v)

/-- The script reference of a node, followed if that is possible; `none` if the node has none. -/
def attachment? (f : SceneFile) (n : NodeDecl) : Option (Except UnresolvedScript NodeScript) :=
  (n.property? scriptProperty).map fun p =>
    match scriptOf f p.value with
    | .ok script => .ok ⟨n.path, script⟩
    | .error reason => .error ⟨n.path, p.value, reason⟩

/-- The nodes whose scripts are looked for: those of the tree, to a depth if it is positive, and
then the orphans. -/
def searched (t : NodeTree) (orphans : List NodeDecl) (maxDepth : Int) : List NodeDecl :=
  (t.walk maxDepth.toNat).map (·.1) ++ orphans

/-- The script references of nodes. -/
def attachments (f : SceneFile) (nodes : List NodeDecl) :
    List (Except UnresolvedScript NodeScript) :=
  nodes.filterMap (attachment? f)

/-- The scripts of nodes, in order. -/
def attached (refs : List (Except UnresolvedScript NodeScript)) : List NodeScript :=
  refs.filterMap Except.toOption

/-- The references that lead nowhere, in order. -/
def unresolved (refs : List (Except UnresolvedScript NodeScript)) : List UnresolvedScript :=
  refs.filterMap fun r => match r with
    | .error u => some u
    | .ok _ => none

/-- The scripts by the paths of their nodes; of several nodes with one path the last counts. -/
def scriptsByNode (attached : List NodeScript) : List (Text × Text) :=
  (attached.map fun a => (a.nodePath, a.scriptPath)).reverse

/-- The paths of the scenes instanced in a tree, each once. -/
def instances (t : NodeTree) : List Text :=
  Text.dedup ((t.flatten.map (·.instanced)).filter (Text.startsWith · ResourcePath.resScheme))

end Scene

/-! ## Documents -/

open Document

def NodeScript.document (a : NodeScript) : Document :=
  ofFields [field "node_path" (.text a.nodePath), field "script_path" (.text a.scriptPath)]

def UnresolvedScript.document (u : UnresolvedScript) : Document :=
  ofFields [field "node_path" (.text u.nodePath), field "reference" (.text u.reference),
    field "reason" (.text u.reason.message)]

end GodotSurvey
