import GodotSurvey.Survey.Scene
import GodotSurvey.Proofs.Scene.Hierarchy
import GodotSurvey.Proofs.Scene.LastNode
import GodotSurvey.Proofs.Scene.LineKind
import GodotSurvey.Proofs.Text.Table

/-!
# Options of the scene reader

The options decide what is kept of a scene, not how it is read. A reader that does not keep
properties carries another state than one that does: it forgets the property that a continuation
line would extend, unless that is the script. Leaving the properties out of a state is a map between
the two runs that every line respects, and so is leaving out the connections.

The scripts of a scene are found through the script property and through the places of the nodes,
which both runs have in common. The tree of a node list is made from names and paths alone, so a
change of anything else in the nodes can be made before or after the tree is built.

* `next_scriptsOnly`, `next_unconnected` — one line, read with and without the option.
* `hierarchy_map` — the tree of changed nodes is the changed tree.
* `options_only_filter` — **a scene read without properties or without connections is the scene read
  with them, less what was not asked for; and the same scripts are found in it.**
-/

namespace GodotSurvey

/-! ## Leaving out -/

/-- The node with no property but its script. -/
def NodeDecl.scriptOnly (n : NodeDecl) : NodeDecl :=
  { n with properties := n.properties.filter fun p => p.1 == Scene.scriptProperty }

/-- The file with no properties but the scripts. -/
def SceneFile.scriptsOnly (f : SceneFile) : SceneFile :=
  { f with nodes := f.nodes.map NodeDecl.scriptOnly }

/-- The file without connections. -/
def SceneFile.unconnected (f : SceneFile) : SceneFile := { f with connections := [] }

namespace Scene

open Text Lexing

theorem property?_scriptOnly (n : NodeDecl) :
    n.scriptOnly.property? scriptProperty = n.property? scriptProperty :=
  lookup_filter_key (fun key => key == scriptProperty) (by simp) n.properties

/-! ## Without properties -/

/-- What a reader that keeps scripts only knows in place of this state. -/
def State.scriptsOnly (st : State) : State :=
  { st with
    file := st.file.scriptsOnly
    lastKey := st.lastKey.filter fun key => key == scriptProperty }

theorem scriptsOnly_openSection (c : Bool) (st : State) (line : Nat) (header : Text) :
    st.scriptsOnly.openSection ⟨false, c⟩ line header =
      (st.openSection ⟨true, c⟩ line header).scriptsOnly := by
  unfold State.openSection
  dsimp only
  split
  · rfl
  · split
    · simp only [State.scriptsOnly, readExtResource]
      split <;> rfl
    · split
      · rfl
      · split
        · -- the new node has no properties yet, and its place is told by the header alone
          simp [State.openNode, State.scriptsOnly, SceneFile.scriptsOnly, NodeDecl.scriptOnly]
          rfl
        · split <;> rfl

/-- Setting the script commutes with leaving out the other properties. -/
theorem scriptsOnly_setProperty (st : State) {f g : NodeDecl → Text × Property}
    (hg : ∀ n, g n.scriptOnly = f n) (hf : ∀ n, (f n).1 = scriptProperty) :
    st.scriptsOnly.setProperty g = (st.setProperty f).scriptsOnly := by
  simp only [State.setProperty, State.scriptsOnly, SceneFile.scriptsOnly]
  congr 2
  symm
  apply map_updateLast
  intro n
  have hkeep : ((f n).1 == scriptProperty) = true := by simp [hf n]
  have hput := filter_putProperty (fun key => key == scriptProperty) hkeep (f n).2 n.properties
  rw [hg]
  simp [NodeDecl.scriptOnly, hput]

/-- Setting any other property is not seen. -/
theorem scriptsOnly_setProperty_of_not (st : State) {f : NodeDecl → Text × Property}
    (hf : ∀ n, (f n).1 ≠ scriptProperty) : (st.setProperty f).scriptsOnly = st.scriptsOnly := by
  simp only [State.setProperty, State.scriptsOnly, SceneFile.scriptsOnly]
  congr 2
  rw [map_updateLast (g := id), updateLast_id]
  intro n
  have hkeep : ((f n).1 == scriptProperty) = false := by simp [hf n]
  have hput := filter_putProperty_of_not (fun key => key == scriptProperty) hkeep (f n).2
    n.properties
  simp [NodeDecl.scriptOnly, hput]

/-- The script is set in both runs. -/
theorem scriptsOnly_assign (st : State) (p : Property) :
    st.scriptsOnly.assign scriptProperty p = (st.assign scriptProperty p).scriptsOnly := by
  rw [State.assign, scriptsOnly_setProperty st (f := fun _ => (scriptProperty, p)) (fun _ => rfl)
    fun _ => rfl]
  simp [State.assign, State.scriptsOnly, Option.filter_some]

/-- Where any other property is set, the reader that does not keep it forgets what it could
continue. -/
theorem scriptsOnly_assign_of_not (st : State) {key : Text} (h : key ≠ scriptProperty)
    (p : Property) : (st.assign key p).scriptsOnly = st.scriptsOnly.forget := by
  have hset := scriptsOnly_setProperty_of_not st (f := fun _ => (key, p)) fun _ => h
  have hlast : (some key).filter (fun key => key == scriptProperty) = none := by simp [h]
  calc (st.assign key p).scriptsOnly
      = { (st.setProperty fun _ => (key, p)).scriptsOnly with
          lastKey := (some key).filter fun key => key == scriptProperty } := rfl
    _ = st.scriptsOnly.forget := by rw [hset, hlast]; rfl

/-- A line that continues a value continues it in both runs, or is passed over where the property
is not kept. -/
theorem scriptsOnly_extend (st : State) (line raw : Text) :
    st.scriptsOnly.extend line raw = (st.extend line raw).scriptsOnly := by
  cases hlast : st.lastKey with
  | none =>
    have hnone : st.scriptsOnly.lastKey = none := by simp [State.scriptsOnly, hlast]
    simp [State.extend, hlast, hnone]
  | some key =>
    by_cases hkey : key = scriptProperty
    · have hsome : st.scriptsOnly.lastKey = some scriptProperty := by
        simp [State.scriptsOnly, hlast, hkey]
      subst hkey
      simp only [State.extend, hlast, hsome]
      apply scriptsOnly_setProperty
      · intro n
        rw [extendProperty, extendProperty, property?_scriptOnly]
      · exact fun _ => rfl
    · have hnone : st.scriptsOnly.lastKey = none := by simp [State.scriptsOnly, hlast, hkey]
      simp only [State.extend, hlast, hnone]
      exact (scriptsOnly_setProperty_of_not st fun _ => hkey).symm

/-- A reader that keeps scripts only goes through the images of the states of one that keeps every
property. -/
theorem next_scriptsOnly (c : Bool) (st : State) (l : Script.Line) :
    st.scriptsOnly.next ⟨false, c⟩ l = (st.next ⟨true, c⟩ l).scriptsOnly := by
  have hnode : st.scriptsOnly.inNode = st.inNode := rfl
  rw [next_eq, next_eq, hnode]
  cases kind l with
  | passed => rfl
  | header => exact scriptsOnly_openSection c st l.number (trim l.text)
  | continues =>
    dsimp only
    split
    · exact scriptsOnly_extend st (trim l.text) l.text
    · rfl
  | assigns key value =>
    dsimp only
    split
    · by_cases hkey : key = scriptProperty
      · subst hkey
        simpa [Options.keeps] using scriptsOnly_assign st ⟨value, l.text⟩
      · simpa [Options.keeps, hkey] using (scriptsOnly_assign_of_not st hkey ⟨value, l.text⟩).symm
    · rfl

theorem parse_scriptsOnly (src : Text) (c : Bool) :
    parse src ⟨false, c⟩ = (parse src ⟨true, c⟩).scriptsOnly := by
  have hrun : (Script.numberedLines src).foldl (State.next ⟨false, c⟩) (State.scriptsOnly {}) =
      ((Script.numberedLines src).foldl (State.next ⟨true, c⟩) {}).scriptsOnly :=
    List.foldl_hom State.scriptsOnly (next_scriptsOnly c)
  exact congrArg State.file hrun

/-! ## Without connections -/

/-- What a reader that keeps no connections knows in place of this state. -/
def State.unconnected (st : State) : State := { st with file := st.file.unconnected }

theorem unconnected_openSection (p : Bool) (st : State) (line : Nat) (header : Text) :
    st.unconnected.openSection ⟨p, false⟩ line header =
      (st.openSection ⟨p, true⟩ line header).unconnected := by
  unfold State.openSection
  dsimp only
  split
  · rfl
  · split
    · simp only [State.unconnected, readExtResource]
      split <;> rfl
    · split
      · rfl
      · split
        · rfl
        · simp only [Bool.and_false, Bool.false_eq_true, if_false, Bool.and_true]
          split <;> rfl

theorem unconnected_extend (st : State) (line raw : Text) :
    st.unconnected.extend line raw = (st.extend line raw).unconnected := by
  have hlast : st.unconnected.lastKey = st.lastKey := rfl
  rw [State.extend, State.extend, hlast]
  cases st.lastKey <;> rfl

/-- A reader that keeps no connections goes through the images of the states of one that keeps
them. -/
theorem next_unconnected (p : Bool) (st : State) (l : Script.Line) :
    st.unconnected.next ⟨p, false⟩ l = (st.next ⟨p, true⟩ l).unconnected := by
  have hnode : st.unconnected.inNode = st.inNode := rfl
  rw [next_eq, next_eq, hnode]
  cases kind l with
  | passed => rfl
  | header => exact unconnected_openSection p st l.number (trim l.text)
  | continues =>
    dsimp only
    split
    · exact unconnected_extend st (trim l.text) l.text
    · rfl
  | assigns key value =>
    have hkeeps : Options.keeps ⟨p, false⟩ key = Options.keeps ⟨p, true⟩ key := rfl
    dsimp only
    rw [hkeeps]
    split
    · split <;> rfl
    · rfl

theorem parse_unconnected (src : Text) (p : Bool) :
    parse src ⟨p, false⟩ = (parse src ⟨p, true⟩).unconnected := by
  have hrun : (Script.numberedLines src).foldl (State.next ⟨p, false⟩) (State.unconnected {}) =
      ((Script.numberedLines src).foldl (State.next ⟨p, true⟩) {}).unconnected :=
    List.foldl_hom State.unconnected (next_unconnected p)
  exact congrArg State.file hrun

end Scene

/-! ## Trees of changed nodes -/

section Change

variable (f : NodeDecl → NodeDecl)

mutual

/-- The tree with every node changed. -/
def NodeTree.change : NodeTree → NodeTree
  | .node d cs => .node (f d) (NodeTree.changeAll cs)

def NodeTree.changeAll : List NodeTree → List NodeTree
  | [] => []
  | t :: ts => t.change :: NodeTree.changeAll ts

end

namespace Scene

/-- The placement with every node changed. -/
def Placement.change (p : Placement) : Placement where
  placed := p.placed.map fun u => { u with decl := f u.decl }
  orphans := p.orphans.map f

/-- The subtree with every node changed. -/
def Pending.change (u : Pending) : Pending := ⟨u.parent, u.tree.change f⟩

end Scene

theorem NodeTree.changeAll_eq (ts : List NodeTree) :
    NodeTree.changeAll f ts = ts.map (NodeTree.change f) := by
  induction ts with
  | nil => rfl
  | cons t ts ih => rw [NodeTree.changeAll, ih, List.map_cons]

mutual

theorem NodeTree.walkFrom_change (limit depth : Nat) : ∀ t : NodeTree,
    (t.change f).walkFrom limit depth = (t.walkFrom limit depth).map fun v => (f v.1, v.2)
  | .node d cs => by
    rw [NodeTree.change, NodeTree.walkFrom, NodeTree.walkFrom, NodeTree.walkAllFrom_change]
    split <;> rfl

theorem NodeTree.walkAllFrom_change (limit depth : Nat) : ∀ ts : List NodeTree,
    NodeTree.walkAllFrom limit depth (NodeTree.changeAll f ts) =
      (NodeTree.walkAllFrom limit depth ts).map fun v => (f v.1, v.2)
  | [] => rfl
  | t :: ts => by
    rw [NodeTree.changeAll, NodeTree.walkAllFrom, NodeTree.walkAllFrom, List.map_append,
      NodeTree.walkFrom_change, NodeTree.walkAllFrom_change]

end

namespace Scene

/-- Where scripts are looked for in a changed tree. -/
theorem searched_change (t : NodeTree) (orphans : List NodeDecl) (maxDepth : Int) :
    searched (t.change f) (orphans.map f) maxDepth = (searched t orphans maxDepth).map f := by
  simp [searched, NodeTree.walk, NodeTree.walkFrom_change, Function.comp_def]

theorem assemble_change (ps : List Placed) :
    assemble (ps.map fun u => { u with decl := f u.decl }) =
      (assemble ps).map (Pending.change f) := by
  induction ps with
  | nil => rfl
  | cons p ps ih =>
    rw [List.map_cons, assemble_cons, assemble_cons, ih, List.map_cons]
    simp [Pending.change, NodeTree.change, NodeTree.changeAll_eq, List.filter_map,
      Function.comp_def]

theorem root?_change (p : Placement) : (p.change f).root? = p.root? := by
  simp [Placement.root?, Placement.change, Function.comp_def]

/-- The change leaves the name and the place of a node. -/
structure KeepsPlace : Prop where
  name : ∀ n, (f n).name = n.name
  path : ∀ n, (f n).path = n.path
  parentPath : ∀ n, (f n).parentPath = n.parentPath

variable {f} (hf : KeepsPlace f)

include hf

theorem parentOf?_change (p : Placement) (path : Text) :
    (p.change f).parentOf? path = p.parentOf? path := by
  have hattached : (p.change f).attached = p.attached.map fun u => { u with decl := f u.decl } := by
    simp [Placement.attached, Placement.change, List.filter_map, Function.comp_def]
  rw [Placement.parentOf?_eq, Placement.parentOf?_eq, root?_change, hattached]
  simp [Function.comp_def, hf.path, hf.name, ← Option.map_or]

theorem next_change (p : Placement) (i : Nat) (n : NodeDecl) :
    (p.change f).next (i, f n) = (p.next (i, n)).change f := by
  have hisRoot : (f n).isRoot = n.isRoot := by rw [NodeDecl.isRoot, hf.parentPath, NodeDecl.isRoot]
  simp only [Placement.next, root?_change, hisRoot, hf.parentPath, parentOf?_change hf]
  split
  · simp [Placement.change]
  · cases p.parentOf? n.parentPath <;> simp [Placement.change]

theorem placement_map (nodes : List NodeDecl) :
    placement (nodes.map f) = (placement nodes).change f := by
  induction nodes using List.reverseRecOn with
  | nil => rfl
  | append_singleton nodes n ih =>
    rw [List.map_append, List.map_singleton, placement_concat, placement_concat, ih,
      List.length_map, next_change hf]

/-- The tree of changed nodes is the changed tree, if the change leaves them in their places. -/
theorem hierarchy_map (nodes : List NodeDecl) :
    hierarchy (nodes.map f) =
      ⟨(hierarchy nodes).root.map (NodeTree.change f), (hierarchy nodes).orphans.map f⟩ := by
  rw [hierarchy, hierarchy, placement_map hf]
  simp [Placement.change, assemble_change, Pending.change, Function.comp_def]

end Scene

end Change

/-! ## Scripts of a scene -/

namespace Scene

/-- The script references of a file, if there is a tree. -/
def scriptRefs? (f : SceneFile) (maxDepth : Int) :
    Option (List (Except UnresolvedScript NodeScript)) :=
  (hierarchy f.nodes).root.map fun t =>
    attachments f (searched t (hierarchy f.nodes).orphans maxDepth)

theorem keepsPlace_scriptOnly : KeepsPlace NodeDecl.scriptOnly :=
  ⟨fun _ => rfl, fun _ => rfl, fun _ => rfl⟩

theorem attachment?_scriptOnly (f : SceneFile) (n : NodeDecl) :
    attachment? f.scriptsOnly n.scriptOnly = attachment? f n := by
  rw [attachment?, property?_scriptOnly]
  rfl

theorem scriptRefs?_scriptsOnly (f : SceneFile) (maxDepth : Int) :
    scriptRefs? f.scriptsOnly maxDepth = scriptRefs? f maxDepth := by
  have htree : hierarchy f.scriptsOnly.nodes =
      ⟨(hierarchy f.nodes).root.map (NodeTree.change NodeDecl.scriptOnly),
        (hierarchy f.nodes).orphans.map NodeDecl.scriptOnly⟩ :=
    hierarchy_map keepsPlace_scriptOnly f.nodes
  rw [scriptRefs?, htree, scriptRefs?]
  simp [searched_change, attachments, List.filterMap_map, Function.comp_def,
    attachment?_scriptOnly]

/-- What is found in a file does not depend on the options that it is read with. -/
theorem scriptRefs?_parse (src : Text) (opts : Options) (maxDepth : Int) :
    scriptRefs? (parse src opts) maxDepth = scriptRefs? (parse src {}) maxDepth := by
  obtain ⟨p, c⟩ := opts
  have hproperties : scriptRefs? (parse src ⟨p, c⟩) maxDepth =
      scriptRefs? (parse src ⟨true, c⟩) maxDepth := by
    cases p with
    | false => rw [parse_scriptsOnly, scriptRefs?_scriptsOnly]
    | true => rfl
  have hconnections : scriptRefs? (parse src ⟨true, c⟩) maxDepth =
      scriptRefs? (parse src ⟨true, true⟩) maxDepth := by
    cases c with
    | false => rw [parse_unconnected]; rfl
    | true => rfl
  exact hproperties.trans hconnections

end Scene

namespace SceneResult

/-- The result says of the scripts what their references say. -/
theorem ofContent_scripts (o : SceneOptions) (name content : Text) :
    let refs := Scene.scriptRefs? (o.file content) o.maxDepth
    (ofContent o name content).attached = (refs.map Scene.attached).getD [] ∧
      (ofContent o name content).unresolved = (refs.map Scene.unresolved).getD [] ∧
      (ofContent o name content).outline.isSome = refs.isSome := by
  cases h : (Scene.hierarchy (o.file content).nodes).root with
  | none =>
    have hrefs : Scene.scriptRefs? (o.file content) o.maxDepth = none := by
      rw [Scene.scriptRefs?, h, Option.map_none]
    simp [ofContent, h, hrefs, failure]
  | some t =>
    have hrefs : Scene.scriptRefs? (o.file content) o.maxDepth =
        some (Scene.attachments (o.file content)
          (Scene.searched t (Scene.hierarchy (o.file content).nodes).orphans o.maxDepth)) := by
      rw [Scene.scriptRefs?, h, Option.map_some]
    simp [ofContent, h, hrefs]

end SceneResult

namespace Scene

/-- **The options only filter.** A scene that is read without properties is the scene read with
them, where every node has lost all properties but its script; read without connections, it is the
scene read with them, where their list is empty. So what is found of the scripts of a scene does not
depend on whether properties and connections were asked for. -/
theorem options_only_filter (src : Text) :
    (∀ connections, parse src ⟨false, connections⟩ = (parse src ⟨true, connections⟩).scriptsOnly) ∧
    (∀ properties, parse src ⟨properties, false⟩ = (parse src ⟨properties, true⟩).unconnected) ∧
    ∀ (o : SceneOptions) (properties connections : Bool) (name : Text),
      let r := SceneResult.ofContent o name src
      let r' := SceneResult.ofContent { o with properties, connections } name src
      r'.attached = r.attached ∧ r'.unresolved = r.unresolved ∧
        r'.outline.isSome = r.outline.isSome := by
  refine ⟨parse_scriptsOnly src, parse_unconnected src, fun o properties connections name => ?_⟩
  let o' : SceneOptions := { o with properties, connections }
  have hrefs : scriptRefs? (o'.file src) o'.maxDepth = scriptRefs? (o.file src) o.maxDepth :=
    (scriptRefs?_parse src ⟨properties, connections⟩ o.maxDepth).trans
      (scriptRefs?_parse src _ o.maxDepth).symm
  obtain ⟨hattached, hunresolved, hsome⟩ := SceneResult.ofContent_scripts o name src
  obtain ⟨hattached', hunresolved', hsome'⟩ := SceneResult.ofContent_scripts o' name src
  rw [hrefs] at hattached' hunresolved' hsome'
  exact ⟨hattached'.trans hattached.symm, hunresolved'.trans hunresolved.symm,
    hsome'.trans hsome.symm⟩

end Scene

end GodotSurvey
