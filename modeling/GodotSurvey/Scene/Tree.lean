import GodotSurvey.Scene.Parser

/-!
# The node tree of a scene

The flat node list of a scene becomes a tree: the first node without a parent is the root, and
every later node is attached to a node placed before it. A node whose parent cannot be found is an
orphan and stays outside the tree.
-/

namespace GodotSurvey

/-- A node with the nodes below it, in declaration order. -/
inductive NodeTree where
  | node (decl : NodeDecl) (children : List NodeTree)
  deriving Repr

/-- The result of placing every node of a scene. -/
structure SceneTree where
  root : Option NodeTree := none
  orphans : List NodeDecl := []
  deriving Repr

namespace NodeTree

def decl : NodeTree → NodeDecl
  | node d _ => d

def children : NodeTree → List NodeTree
  | node _ cs => cs

/-! ## Walking and cutting -/

mutual

/-- The nodes in depth-first order with their depths, starting at `depth`; nodes more than `limit`
levels below the start are left out, unless the limit is 0. -/
def walkFrom (limit depth : Nat) : NodeTree → List (NodeDecl × Nat)
  | node d cs =>
    (d, depth) :: if 0 < limit && limit ≤ depth then [] else walkAllFrom limit (depth + 1) cs

def walkAllFrom (limit depth : Nat) : List NodeTree → List (NodeDecl × Nat)
  | [] => []
  | t :: ts => walkFrom limit depth t ++ walkAllFrom limit depth ts

end

/-- The nodes in depth-first order with their depths; a positive limit bounds the depth. -/
def walk (limit : Nat) (t : NodeTree) : List (NodeDecl × Nat) := walkFrom limit 0 t

/-- All nodes in depth-first order. -/
def flatten (t : NodeTree) : List NodeDecl := (walk 0 t).map (·.1)

/-- The number of nodes. -/
def count (t : NodeTree) : Nat := (walk 0 t).length

mutual

/-- The tree without the nodes more than `depth` levels below its root. -/
def truncate (depth : Nat) : NodeTree → NodeTree
  | node d cs =>
    match depth with
    | 0 => node d []
    | n + 1 => node d (truncateAll n cs)

def truncateAll (depth : Nat) : List NodeTree → List NodeTree
  | [] => []
  | t :: ts => truncate depth t :: truncateAll depth ts

end

end NodeTree

namespace Scene

/-! ## Placing nodes -/

/-- A node with its position in the list and the position of its parent; the root has none. -/
structure Placed where
  id : Nat
  decl : NodeDecl
  parent : Option Nat
  deriving Repr

/-- The nodes placed so far, in order, and those that could not be placed. -/
structure Placement where
  placed : List Placed := []
  orphans : List NodeDecl := []
  deriving Repr

/-- The position of the root. -/
def Placement.root? (p : Placement) : Option Nat := (p.placed.find? (·.parent.isNone)).map (·.id)

/-- The position of the parent that a path names: the root, or the first node placed under that
path, or else the first placed under that name. -/
def Placement.parentOf? (p : Placement) (parentPath : Text) : Option Nat :=
  if parentPath.isEmpty || parentPath == strayParent then none
  else if parentPath == rootPath then p.root?
  else
    let attached := p.placed.filter (·.parent.isSome)
    match attached.find? (·.decl.path == parentPath) with
    | some n => some n.id
    | none => (attached.find? (·.decl.name == parentPath)).map (·.id)

/-- Places the next node. -/
def Placement.next (p : Placement) (node : Nat × NodeDecl) : Placement :=
  let (id, n) := node
  if p.root?.isNone && n.isRoot then { p with placed := p.placed ++ [⟨id, n, none⟩] }
  else match p.parentOf? n.parentPath with
    | none => { p with orphans := p.orphans ++ [n] }
    | some parent => { p with placed := p.placed ++ [⟨id, n, some parent⟩] }

/-- Places every node. -/
def placement (nodes : List NodeDecl) : Placement :=
  (nodes.mapIdx fun i n => (i, n)).foldl Placement.next {}

/-- A finished subtree that waits for its parent. -/
structure Pending where
  parent : Option Nat
  tree : NodeTree

/-- Builds the subtrees of placed nodes. Each parent stands before its children, so the subtrees
that wait for a node are complete when the node is reached from the end. -/
def assemble : List Placed → List Pending
  | [] => []
  | p :: rest =>
    let (mine, others) := (assemble rest).partition (·.parent == some p.id)
    ⟨p.parent, .node p.decl (mine.map (·.tree))⟩ :: others

/-- The tree of a node list, and the nodes left out of it. -/
def hierarchy (nodes : List NodeDecl) : SceneTree :=
  let p := placement nodes
  { root := ((assemble p.placed).find? (·.parent.isNone)).map (·.tree), orphans := p.orphans }

end Scene

/-! ## Documents -/

open Document

mutual

def NodeTree.document : NodeTree → Document
  | .node d cs => d.documentWith (NodeTree.documents cs)

def NodeTree.documents : List NodeTree → List Document
  | [] => []
  | t :: ts => t.document :: NodeTree.documents ts

end

/-- The tree, or null. -/
def NodeTree.documentOrNull : Option NodeTree → Document
  | some t => t.document
  | none => .null

def SceneTree.document (t : SceneTree) : Document :=
  ofFields [field "root" (NodeTree.documentOrNull t.root),
    listField "orphans" (t.orphans.map NodeDecl.document)]

end GodotSurvey
