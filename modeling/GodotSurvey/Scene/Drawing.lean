import GodotSurvey.Scene.Tree

/-!
# Drawing a scene

The node tree of a scene as lines of text, one node a line. Nodes with a script show its path in
brackets.
-/

namespace GodotSurvey.NodeTree

open Text

/-- The label of a node: its name, its type or the scene it instances, and its script. -/
def label (scripts : List (Text × Text)) (n : NodeDecl) : Text :=
  let kind : Text :=
    if !n.type.isEmpty then " (" ++ n.type ++ ")"
    else if !n.instanced.isEmpty then " (instance of " ++ n.instanced ++ ")"
    else ""
  let script : Text := match scripts.lookup n.path with
    | some s => " [" ++ s ++ "]"
    | none => ""
  n.name ++ kind ++ script

mutual

/-- The lines below a node: `lead` stands before each of them. -/
def drawBelow (scripts : List (Text × Text)) (lead : Text) : NodeTree → Text
  | node _ cs => drawAll scripts lead cs

/-- The lines of siblings and of what is below them. -/
def drawAll (scripts : List (Text × Text)) (lead : Text) : List NodeTree → Text
  | [] => []
  | t :: ts =>
    let branch : Text := if ts.isEmpty then "└── " else "├── "
    let below : Text := if ts.isEmpty then "    " else "│   "
    lead ++ branch ++ label scripts t.decl ++ "\n" ++ drawBelow scripts (lead ++ below) t
      ++ drawAll scripts lead ts

end

/-- The drawing of a tree; `scripts` maps node paths to script paths. -/
def draw (scripts : List (Text × Text)) (t : NodeTree) : Text :=
  label scripts t.decl ++ "\n" ++ drawBelow scripts [] t

/-- The drawing of a tree that may be missing. -/
def drawOption (scripts : List (Text × Text)) : Option NodeTree → Text
  | some t => t.draw scripts
  | none => []

end GodotSurvey.NodeTree
