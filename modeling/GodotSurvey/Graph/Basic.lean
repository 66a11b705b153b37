import GodotSurvey.Project.FileKind
import GodotSurvey.Project.ResourcePath
import GodotSurvey.Registry.Basic
import GodotSurvey.Script.Declaration

/-!
# The dependency graph of a project

Nodes are files, and classes that no script of the project declares; an edge says that one node
refers to another in some way, and its weight counts the references. Scripts and scenes are added
one by one, in any order.
-/

namespace GodotSurvey

/-! ## Nodes and edges -/

inductive NodeKind where
  | script
  | scene
  | resource
  | engineClass
  | other (name : Text)
  deriving DecidableEq, Repr

namespace NodeKind

def name : NodeKind → Text
  | script => "script"
  | scene => "scene"
  | resource => "resource"
  | engineClass => "class"
  | other n => n

def ofName (n : Text) : NodeKind :=
  if n == "script" then script else if n == "scene" then scene
  else if n == "resource" then resource else if n == "class" then engineClass else other n

end NodeKind

/-- What an edge stands for: a dependency of a script, a script attached in a scene, or a scene
instanced in another. -/
inductive EdgeKind where
  | dependency (kind : DependencyKind)
  | attaches
  | instances
  deriving DecidableEq, Repr

namespace EdgeKind

def name : EdgeKind → Text
  | dependency k => k.name
  | attaches => "attaches"
  | instances => "instances"

def ofName (n : Text) : EdgeKind :=
  if n == "attaches" then attaches else if n == "instances" then instances
  else dependency (DependencyKind.ofName n)

end EdgeKind

namespace Graph

/-- A file or class. -/
structure Node where
  id : Text
  name : Text
  kind : NodeKind
  deriving DecidableEq, Repr

/-- References of one kind from one node to another. -/
structure Edge where
  source : Text
  target : Text
  kind : EdgeKind
  weight : Nat
  deriving DecidableEq, Repr

end Graph

/-- A graph of files and classes. -/
structure Graph where
  nodes : List Graph.Node := []
  edges : List Graph.Edge := []
  deriving DecidableEq, Repr

namespace Graph

/-- The first node of that id. -/
def node? (g : Graph) (id : Text) : Option Node := g.nodes.find? (·.id == id)

/-- The edges that leave a node. -/
def edgesFrom (g : Graph) (id : Text) : List Edge := g.edges.filter (·.source == id)

/-- The order of edges: by source, target and kind. -/
def Edge.le (a b : Edge) : Bool :=
  match Text.compare a.source b.source with
  | .lt => true
  | .gt => false
  | .eq =>
    match Text.compare a.target b.target with
    | .lt => true
    | .gt => false
    | .eq => Text.le a.kind.name b.kind.name

/-- The graph with its nodes sorted by id and its edges in order. -/
def sorted (g : Graph) : Graph where
  nodes := g.nodes.mergeSort fun a b => Text.le a.id b.id
  edges := g.edges.mergeSort Edge.le

/-! ## Building -/

/-- The node of a file. -/
def fileNode (path : Text) : Node where
  id := path
  name := Path.base path
  kind := match FileKind.ofPath path with
    | .script => .script
    | .scene | .binaryScene => .scene
    | _ => .resource

/-- The node of a class that no file of the project declares. -/
def classNode (name : Text) : Node := ⟨"class:" ++ name, name, .engineClass⟩

/-- How references are resolved: against which classes, and whether classes without a file are
nodes. -/
structure Resolution where
  registry : Registry := {}
  classNodes : Bool := false

/-- The node that a dependency of the script at `path` points to. A relative path is taken from
the directory of the script. -/
def Resolution.target? (r : Resolution) (path : Text) (d : Dependency) : Option Node :=
  if !d.resolvedPath.isEmpty then some (fileNode d.resolvedPath)
  else if ResourcePath.isResource d.target then some (fileNode d.target)
  else if !(Path.extension d.target).isEmpty || Text.hasByte d.target '/' then
    match Text.dropStart? path ResourcePath.resScheme with
    | some rel =>
      some (fileNode (ResourcePath.resScheme ++ Path.join [Path.parent rel, d.target]))
    | none => some (fileNode d.target)
  else match r.registry.pathOf? d.target with
    | some p => some (fileNode p)
    | none => if r.classNodes then some (classNode d.target) else none

/-- Adds a node, replacing one of the same id. -/
def putNode (n : Node) : List Node → List Node
  | [] => [n]
  | m :: rest => if m.id == n.id then n :: rest else m :: putNode n rest

/-- Adds a node, unless its id is taken. -/
def ensureNode (ns : List Node) (n : Node) : List Node :=
  if ns.any (·.id == n.id) then ns else ns ++ [n]

/-- Counts one more reference. -/
def countEdge (source target : Text) (kind : EdgeKind) : List Edge → List Edge
  | [] => [⟨source, target, kind, 1⟩]
  | e :: rest =>
    if e.source == source && e.target == target && e.kind == kind then
      { e with weight := e.weight + 1 } :: rest
    else e :: countEdge source target kind rest

/-- Adds a reference; a node does not refer to itself. -/
def link (source : Text) (g : Graph) (target : Node) (kind : EdgeKind) : Graph :=
  if source == target.id then g
  else ⟨ensureNode g.nodes target, countEdge source target.id kind g.edges⟩

/-- Adds a script with its dependencies; the name of its class, if any, names the node. -/
def addScript (r : Resolution) (g : Graph) (path className : Text) (deps : List Dependency) :
    Graph :=
  let n := fileNode path
  let n := if className.isEmpty then n else { n with name := className }
  deps.foldl (fun g d =>
    match r.target? path d with
    | some t => link path g t (EdgeKind.ofName d.kind.name)
    | none => g) { g with nodes := putNode n g.nodes }

/-- Adds a scene with the scripts attached in it and the scenes instanced in it. -/
def addScene (g : Graph) (path : Text) (scripts instances : List Text) : Graph :=
  let g := { g with nodes := putNode (fileNode path) g.nodes }
  let g := scripts.foldl (fun g s => link path g (fileNode s) .attaches) g
  (instances.filter ResourcePath.isResource).foldl (fun g s => link path g (fileNode s) .instances) g

/-! ## Documents -/

open Document

def Node.document (n : Node) : Document :=
  ofFields [field "id" (.text n.id), field "name" (.text n.name), field "type" (.text n.kind.name)]

def Edge.document (e : Edge) : Document :=
  ofFields [field "from" (.text e.source), field "to" (.text e.target),
    field "type" (.text e.kind.name), field "weight" (nat e.weight)]

def document (g : Graph) : Document :=
  ofFields [field "nodes" (.list (g.nodes.map Node.document)),
    field "edges" (.list (g.edges.map Edge.document))]

end Graph

end GodotSurvey
