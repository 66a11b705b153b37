import GodotSurvey.Scene.Declaration
import GodotSurvey.Lexing.Attribute
import GodotSurvey.Script.Parser

/-!
# Reading a scene file

A line that starts with `[` and ends with `]` opens a section. In a node's section the lines
`key = value` are its properties, and any other line continues the value before it. Reading never
fails.
-/

namespace GodotSurvey.Scene

open Text Lexing

/-- What to keep of a scene. The property that attaches a script is always kept. -/
structure Options where
  properties : Bool := true
  connections : Bool := true
  deriving DecidableEq, Repr

/-- The property that attaches a script to a node. -/
def scriptProperty : Text := "script"

/-- The parent path of a parentless node that comes after the root. No node has this path, since
a name cannot hold a colon. -/
def strayParent : Text := ":"

/-! ## References to resources -/

/-- The id in a reference of the given kind, as in `ExtResource("id")`. -/
def resourceId? (kind value : Text) : Option Text :=
  match callForm? value with
  | none => none
  | some call =>
    let id := unquote call.args
    if call.callee == kind && !id.isEmpty then some id else none

/-- The id in a reference to an external resource. -/
def extResourceId? (value : Text) : Option Text := resourceId? "ExtResource" value

/-- The id in a reference to a resource of the same file. -/
def subResourceId? (value : Text) : Option Text := resourceId? "SubResource" value

/-! ## Sections -/

/-- The state of the reader: the file so far, whether the section being read is that of the last
node, the property that a continuation line extends, and whether a root was seen. -/
structure State where
  file : SceneFile := {}
  inNode : Bool := false
  lastKey : Option Text := none
  hasRoot : Bool := false
  deriving DecidableEq, Repr

/-- The kind of section a header opens. -/
def sectionKind (header : Text) : Text :=
  (stripStart header "[").takeWhile fun c : UInt8 => c != ' ' && c != ']'

/-- The quoted names of a header's `groups=[...]`. -/
def groups (header : Text) : List Text :=
  match findUnquoted? header "groups=[" with
  | none => []
  | some i =>
    ((splitByte ',' (inner header (i + 7)).1).map unquote).filter (!·.isEmpty)

/-- The path of the scene that a node instances: that of the resource it refers to, if the
reference can be resolved, else the reference itself. -/
def instancedPath (file : SceneFile) (reference : Text) : Text :=
  match (extResourceId? reference).bind file.extResource? with
  | some r => r.path
  | none => reference

/-- The path of a node and its parent path. -/
def nodePlace (hasRoot : Bool) (parent : Option Text) (name : Text) : Text × Text :=
  match parent with
  | none => if hasRoot then (name, strayParent) else (rootPath, [])
  | some p => if p == rootPath then (name, p) else (p ++ "/" ++ name, p)

/-- Reads the header of a node. -/
def State.openNode (st : State) (line : Nat) (header : Text) : State :=
  let name := headerAttr header "name"
  let parent := headerAttr? header "parent"
  let (path, parentPath) := nodePlace st.hasRoot parent name
  let node : NodeDecl :=
    { name, type := headerAttr header "type", path, parentPath,
      instanced := instancedPath st.file (headerAttr header "instance"),
      groups := groups header, line }
  { st with
    file := { st.file with nodes := st.file.nodes ++ [node] }
    inNode := true
    hasRoot := st.hasRoot || parent.isNone }

/-- Adds a resource, replacing an earlier one of the same id. -/
def putResource (r : ExtResource) : List ExtResource → List ExtResource
  | [] => [r]
  | s :: rest => if s.id == r.id then r :: rest else s :: putResource r rest

/-- Reads the header of an external resource; one without id is not kept. -/
def readExtResource (header : Text) (file : SceneFile) : SceneFile :=
  let r : ExtResource :=
    { id := headerAttr header "id", path := headerAttr header "path",
      type := headerAttr header "type", uid := headerAttr header "uid" }
  if r.id.isEmpty then file else { file with extResources := putResource r file.extResources }

/-- Reads the header of a connection. -/
def readConnection (line : Nat) (header : Text) : Connection :=
  { signal := headerAttr header "signal", source := headerAttr header "from",
    target := headerAttr header "to", method := headerAttr header "method",
    flags := headerAttr header "flags", line }

/-- Opens a section. -/
def State.openSection (opts : Options) (st : State) (line : Nat) (header : Text) : State :=
  let st := { st with inNode := false, lastKey := none }
  let kind := sectionKind header
  if kind == "gd_scene" then
    { st with file := { st.file with
        format := headerAttr header "format", uid := headerAttr header "uid" } }
  else if kind == "ext_resource" then { st with file := readExtResource header st.file }
  else if kind == "sub_resource" then
    let r : SubResource := ⟨headerAttr header "id", headerAttr header "type"⟩
    { st with file := { st.file with subResources := st.file.subResources ++ [r] } }
  else if kind == "node" then st.openNode line header
  else if kind == "connection" && opts.connections then
    { st with file := { st.file with
        connections := st.file.connections ++ [readConnection line header] } }
  else st

/-! ## Properties -/

/-- Sets the property of that key. -/
def putProperty (key : Text) (p : Property) : List (Text × Property) → List (Text × Property)
  | [] => [(key, p)]
  | (k, q) :: rest => if k == key then (key, p) :: rest else (k, q) :: putProperty key p rest

/-- Changes the last of the nodes. -/
def updateLast (f : NodeDecl → NodeDecl) : List NodeDecl → List NodeDecl
  | [] => []
  | [n] => [f n]
  | n :: ns => n :: updateLast f ns

/-- Sets a property of the node being read. -/
def State.setProperty (st : State) (f : NodeDecl → Text × Property) : State :=
  let update := fun n : NodeDecl =>
    let (key, p) := f n
    { n with properties := putProperty key p n.properties }
  { st with file := { st.file with nodes := updateLast update st.file.nodes } }

/-- Adds a line to the value of a property. -/
def extendProperty (key line raw : Text) (n : NodeDecl) : Text × Property :=
  let p := (n.property? key).getD ⟨[], []⟩
  (key, ⟨p.value ++ "\n" ++ line, p.raw ++ "\n" ++ raw⟩)

/-- Reads a line of a node's section. -/
def State.propertyLine (opts : Options) (st : State) (line raw : Text) : State :=
  match findUnquoted? line "=" with
  | none | some 0 =>
    match st.lastKey with
    | none => st
    | some key => st.setProperty (extendProperty key line raw)
  | some i =>
    let key := trim (line.take i)
    if !opts.properties && key != scriptProperty then { st with lastKey := none }
    else
      let p : Property := ⟨trim (line.drop (i + 1)), raw⟩
      { st.setProperty fun _ => (key, p) with lastKey := some key }

/-! ## The reader -/

/-- Reads the next line. -/
def State.next (opts : Options) (st : State) (l : Script.Line) : State :=
  let line := trim l.text
  if line.isEmpty || startsWith line ";" then st
  else if startsWith line "[" && endsWith line "]" then st.openSection opts l.number line
  else if st.inNode then st.propertyLine opts line l.text
  else st

/-- Reads the source of a scene file. -/
def parse (src : Text) (opts : Options) : SceneFile :=
  ((Script.numberedLines src).foldl (State.next opts) {}).file

end GodotSurvey.Scene
