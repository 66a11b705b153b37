import GodotSurvey.Document.Basic

/-!
# What a scene file declares

A scene file is a flat list of sections: nodes with their properties, resources, and connections
between signals and methods. A node names its parent by a path; the tree is built from the list
afterwards.
-/

namespace GodotSurvey

/-! ## Sections -/

/-- A property of a node: its value, and the lines it was written on. -/
structure Property where
  value : Text
  raw : Text
  deriving DecidableEq, Repr

/-- A `[node]` section. The parent path of a root is empty; properties have distinct keys. -/
structure NodeDecl where
  name : Text
  type : Text := []
  path : Text := []
  parentPath : Text := []
  instanced : Text := []
  groups : List Text := []
  properties : List (Text × Property) := []
  line : Nat := 0
  deriving DecidableEq, Repr

/-- The path of the root node of a scene. -/
def rootPath : Text := "."

namespace NodeDecl

/-- The node was declared without a parent. -/
def isRoot (n : NodeDecl) : Bool := n.parentPath.isEmpty

/-- The value of a property. -/
def property? (n : NodeDecl) (key : Text) : Option Property := n.properties.lookup key

end NodeDecl

/-- A `[connection]` section: a signal of one node calls a method of another. -/
structure Connection where
  signal : Text
  source : Text
  target : Text
  method : Text
  flags : Text := []
  line : Nat := 0
  deriving DecidableEq, Repr

/-- An `[ext_resource]` section: another file, referred to by its id. -/
structure ExtResource where
  id : Text
  path : Text
  type : Text := []
  uid : Text := []
  deriving DecidableEq, Repr

/-- A `[sub_resource]` section. -/
structure SubResource where
  id : Text
  type : Text
  deriving DecidableEq, Repr

/-- The sections of a scene file; external resources have distinct ids. -/
structure SceneFile where
  format : Text := []
  uid : Text := []
  nodes : List NodeDecl := []
  connections : List Connection := []
  extResources : List ExtResource := []
  subResources : List SubResource := []
  deriving DecidableEq, Repr

/-- The external resource of that id. -/
def SceneFile.extResource? (f : SceneFile) (id : Text) : Option ExtResource :=
  f.extResources.find? (·.id == id)

/-! ## Documents -/

open Document

def Property.document (p : Property) : Document :=
  ofFields [field "value" (.text p.value), field "raw_line" (.text p.raw)]

/-- The fields of a node, with the given documents as children. -/
def NodeDecl.documentWith (n : NodeDecl) (children : List Document) : Document :=
  ofFields [field "name" (.text n.name), textField "type" n.type, field "path" (.text n.path),
    textField "parent_path" n.parentPath, textField "instance" n.instanced,
    listField "groups" (n.groups.map .text),
    optionalField "properties" (if n.properties.isEmpty then none
      else some (sortedRecord (n.properties.map fun (k, p) => (k, p.document)))),
    field "line_number" (nat n.line), field "children" (.list children)]

def NodeDecl.document (n : NodeDecl) : Document := n.documentWith []

def Connection.document (c : Connection) : Document :=
  ofFields [field "signal" (.text c.signal), field "from" (.text c.source),
    field "to" (.text c.target), field "method" (.text c.method), textField "flags" c.flags,
    field "line_number" (nat c.line)]

def ExtResource.document (r : ExtResource) : Document :=
  ofFields [field "id" (.text r.id), field "path" (.text r.path), textField "type" r.type,
    textField "uid" r.uid]

/-- External resources keyed by their ids. -/
def extResourcesDocument (rs : List ExtResource) : Document :=
  sortedRecord (rs.map fun r => (r.id, r.document))

def SubResource.document (r : SubResource) : Document :=
  ofFields [field "id" (.text r.id), field "type" (.text r.type)]

def SceneFile.document (f : SceneFile) : Document :=
  ofFields [textField "format" f.format, textField "uid" f.uid,
    field "nodes" (.list (f.nodes.map NodeDecl.document)),
    field "connections" (.list (f.connections.map Connection.document)),
    field "ext_resources" (extResourcesDocument f.extResources),
    listField "sub_resources" (f.subResources.map SubResource.document)]

end GodotSurvey
