import GodotSurvey.Scene.Parser
import GodotSurvey.Proofs.Lexing.Header
import GodotSurvey.Proofs.Text.Trim

/-!
# Writing a scene

A `Description` holds what a scene file says, without the lines and paths that follow from it.
`print` writes it: one header for each section, text attributes as literals, and one line for each
property of a node. `file` is what a reader should make of the written file.

`WellFormed` says which descriptions can be written. An attribute may be any text of one line; ids
and group names stand in literals that are not unescaped, so they hold nothing to escape; and the
line of a property has to be recognised as such.
-/

namespace GodotSurvey.Scene

open Text Lexing

/-! ## Descriptions -/

/-- A node before it is written. -/
structure NodeDescription where
  name : Text
  type : Option Text := none
  groups : List Text := []
  /-- The id of the external resource that the node instances. -/
  instanced : Option Text := none
  /-- Keys with their values. -/
  properties : List (Text × Text) := []
  deriving DecidableEq, Repr

/-- A scene before it is written: its root, and the other nodes behind the paths of their
parents. The lines of connections do not count. -/
structure Description where
  format : Text
  uid : Text
  extResources : List ExtResource := []
  subResources : List SubResource := []
  root : NodeDescription
  others : List (Text × NodeDescription) := []
  connections : List Connection := []
  deriving DecidableEq, Repr

/-- All nodes in order, the root without a parent. -/
def Description.nodes (d : Description) : List (Option Text × NodeDescription) :=
  (none, d.root) :: d.others.map fun (parent, n) => (some parent, n)

/-! ## Printing -/

def Description.header (d : Description) : Header :=
  ⟨"gd_scene", [("format", .text d.format), ("uid", .text d.uid)]⟩

def extResourceHeader (r : ExtResource) : Header :=
  ⟨"ext_resource", [("type", .text r.type), ("uid", .text r.uid), ("path", .text r.path),
    ("id", .text r.id)]⟩

def subResourceHeader (r : SubResource) : Header :=
  ⟨"sub_resource", [("type", .text r.type), ("id", .text r.id)]⟩

def connectionHeader (c : Connection) : Header :=
  ⟨"connection", [("signal", .text c.signal), ("from", .text c.source), ("to", .text c.target),
    ("method", .text c.method), ("flags", .text c.flags)]⟩

/-- An attribute that is written only if it has a value. -/
def optionalAttr (key : Text) (v : Option AttrValue) : List (Text × AttrValue) :=
  v.toList.map (key, ·)

/-- The attributes of a node before its groups. -/
def NodeDescription.placeAttrs (parent : Option Text) (n : NodeDescription) :
    List (Text × AttrValue) :=
  ("name", .text n.name) :: (optionalAttr "type" (n.type.map .text) ++
    optionalAttr "parent" (parent.map .text))

/-- The attributes of a node behind its groups. -/
def NodeDescription.instanceAttrs (n : NodeDescription) : List (Text × AttrValue) :=
  optionalAttr "instance" (n.instanced.map .resource)

/-- The attributes of a node; an empty list of groups is not written. -/
def NodeDescription.attrs (parent : Option Text) (n : NodeDescription) : List (Text × AttrValue) :=
  n.placeAttrs parent ++ (if n.groups.isEmpty then n.instanceAttrs
    else ("groups", .names n.groups) :: n.instanceAttrs)

def NodeDescription.header (parent : Option Text) (n : NodeDescription) : Header :=
  ⟨"node", n.attrs parent⟩

/-- The line of a property. -/
def printProperty (p : Text × Text) : Text := p.1 ++ " = " ++ p.2

def NodeDescription.lines (parent : Option Text) (n : NodeDescription) : List Text :=
  (n.header parent).print :: n.properties.map printProperty

/-- The lines of a scene file in the order of its sections. -/
def Description.lines (d : Description) : List Text :=
  d.header.print :: (d.extResources.map fun r => (extResourceHeader r).print) ++
    (d.subResources.map fun r => (subResourceHeader r).print) ++
    d.nodes.flatMap (fun (parent, n) => n.lines parent) ++
    d.connections.map fun c => (connectionHeader c).print

/-- The written scene. -/
def Description.print (d : Description) : Text := Text.lines d.lines

/-! ## What is to be read -/

/-- The path of a node: a child of the root goes by its name. -/
def describedPath (parent : Option Text) (name : Text) : Text :=
  match parent with
  | none => "."
  | some p => if p = "." then name else p ++ "/" ++ name

/-- The path of the resource of that id. -/
def resourcePath (rs : List ExtResource) (id : Text) : Text :=
  ((rs.find? (·.id == id)).map (·.path)).getD []

/-- The node, written from the given line on, with the resources it may refer to. -/
def NodeDescription.decl (rs : List ExtResource) (parent : Option Text) (line : Nat)
    (n : NodeDescription) : NodeDecl :=
  { name := n.name, type := n.type.getD [], path := describedPath parent n.name,
    parentPath := parent.getD [], instanced := (n.instanced.map (resourcePath rs)).getD [],
    groups := n.groups,
    properties := n.properties.map fun p => (p.1, ⟨p.2, printProperty p⟩), line }

/-- The nodes, written one after the other from the given line on. -/
def nodesFrom (rs : List ExtResource) (line : Nat) :
    List (Option Text × NodeDescription) → List NodeDecl
  | [] => []
  | (parent, n) :: ns => n.decl rs parent line :: nodesFrom rs (line + (n.lines parent).length) ns

/-- The connections, written one after the other from the given line on. -/
def connectionsFrom (line : Nat) : List Connection → List Connection
  | [] => []
  | c :: cs => { c with line } :: connectionsFrom (line + 1) cs

/-- The line of the root. -/
def Description.rootLine (d : Description) : Nat :=
  2 + d.extResources.length + d.subResources.length

/-- The file that the written scene is to be read as. -/
def Description.file (d : Description) : SceneFile :=
  { format := d.format, uid := d.uid, extResources := d.extResources,
    subResources := d.subResources, nodes := nodesFrom d.extResources d.rootLine d.nodes,
    connections := connectionsFrom
      (d.rootLine + (d.nodes.flatMap fun (parent, n) => n.lines parent).length) d.connections }

/-! ## Well-formed descriptions -/

/-- A text of one line that a literal can hold as it is. -/
structure IsPlain (s : Text) : Prop where
  nonempty : s ≠ []
  quote : 34 ∉ s
  backslash : 92 ∉ s
  oneLine : IsOneLine s

/-- A property whose line is read as key and value. -/
structure IsProperty (key value : Text) : Prop where
  nonempty : key ≠ []
  keyTrimmed : IsTrimmed key
  valueTrimmed : IsTrimmed value
  equals : 61 ∉ key
  quotes : ∀ c ∈ key, isQuote c = false
  noHeader : key.head? ≠ some 91
  noComment : key.head? ≠ some 59
  keyOneLine : IsOneLine key
  valueOneLine : IsOneLine value

structure NodeDescription.WellFormed (rs : List ExtResource) (n : NodeDescription) : Prop where
  name : IsOneLine n.name
  type : ∀ t ∈ n.type, IsOneLine t
  groups : ∀ g ∈ n.groups, IsPlain g ∧ 44 ∉ g
  /-- The resource is one of the scene. -/
  instanced : ∀ id ∈ n.instanced, ∃ r ∈ rs, r.id = id
  properties : ∀ p ∈ n.properties, IsProperty p.1 p.2
  keys : (n.properties.map (·.1)).Nodup

structure Description.WellFormed (d : Description) : Prop where
  format : IsOneLine d.format
  uid : IsOneLine d.uid
  ids : (d.extResources.map (·.id)).Nodup
  extResources : ∀ r ∈ d.extResources,
    IsPlain r.id ∧ IsOneLine r.path ∧ IsOneLine r.type ∧ IsOneLine r.uid
  subResources : ∀ r ∈ d.subResources, IsOneLine r.id ∧ IsOneLine r.type
  root : d.root.WellFormed d.extResources
  others : ∀ o ∈ d.others, IsOneLine o.1 ∧ o.2.WellFormed d.extResources
  connections : ∀ c ∈ d.connections, IsOneLine c.signal ∧ IsOneLine c.source ∧
    IsOneLine c.target ∧ IsOneLine c.method ∧ IsOneLine c.flags

/-! Whether a description is well-formed can be computed. -/

instance (s : Text) : Decidable (IsPlain s) :=
  decidable_of_iff (s ≠ [] ∧ 34 ∉ s ∧ 92 ∉ s ∧ IsOneLine s)
    ⟨fun ⟨h₁, h₂, h₃, h₄⟩ => ⟨h₁, h₂, h₃, h₄⟩, fun ⟨h₁, h₂, h₃, h₄⟩ => ⟨h₁, h₂, h₃, h₄⟩⟩

instance (key value : Text) : Decidable (IsProperty key value) :=
  decidable_of_iff (key ≠ [] ∧ IsTrimmed key ∧ IsTrimmed value ∧ 61 ∉ key ∧
      key.any isQuote = false ∧ key.head? ≠ some 91 ∧ key.head? ≠ some 59 ∧
      IsOneLine key ∧ IsOneLine value)
    ⟨fun ⟨h₁, h₂, h₃, h₄, h₅, h₆, h₇, h₈, h₉⟩ =>
        ⟨h₁, h₂, h₃, h₄, by simpa using h₅, h₆, h₇, h₈, h₉⟩,
      fun ⟨h₁, h₂, h₃, h₄, h₅, h₆, h₇, h₈, h₉⟩ =>
        ⟨h₁, h₂, h₃, h₄, by simpa using h₅, h₆, h₇, h₈, h₉⟩⟩

instance (rs : List ExtResource) (n : NodeDescription) : Decidable (n.WellFormed rs) :=
  decidable_of_iff (IsOneLine n.name ∧ (∀ t ∈ n.type, IsOneLine t) ∧
      (∀ g ∈ n.groups, IsPlain g ∧ 44 ∉ g) ∧ (∀ id ∈ n.instanced, ∃ r ∈ rs, r.id = id) ∧
      (∀ p ∈ n.properties, IsProperty p.1 p.2) ∧ (n.properties.map (·.1)).Nodup)
    ⟨fun ⟨h₁, h₂, h₃, h₄, h₅, h₆⟩ => ⟨h₁, h₂, h₃, h₄, h₅, h₆⟩,
      fun ⟨h₁, h₂, h₃, h₄, h₅, h₆⟩ => ⟨h₁, h₂, h₃, h₄, h₅, h₆⟩⟩

instance (d : Description) : Decidable d.WellFormed :=
  decidable_of_iff (IsOneLine d.format ∧ IsOneLine d.uid ∧ (d.extResources.map (·.id)).Nodup ∧
      (∀ r ∈ d.extResources,
        IsPlain r.id ∧ IsOneLine r.path ∧ IsOneLine r.type ∧ IsOneLine r.uid) ∧
      (∀ r ∈ d.subResources, IsOneLine r.id ∧ IsOneLine r.type) ∧
      d.root.WellFormed d.extResources ∧
      (∀ o ∈ d.others, IsOneLine o.1 ∧ o.2.WellFormed d.extResources) ∧
      (∀ c ∈ d.connections, IsOneLine c.signal ∧ IsOneLine c.source ∧ IsOneLine c.target ∧
        IsOneLine c.method ∧ IsOneLine c.flags))
    ⟨fun ⟨h₁, h₂, h₃, h₄, h₅, h₆, h₇, h₈⟩ => ⟨h₁, h₂, h₃, h₄, h₅, h₆, h₇, h₈⟩,
      fun ⟨h₁, h₂, h₃, h₄, h₅, h₆, h₇, h₈⟩ => ⟨h₁, h₂, h₃, h₄, h₅, h₆, h₇, h₈⟩⟩

end GodotSurvey.Scene
