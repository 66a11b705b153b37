import GodotSurvey.Proofs.Survey.SceneDepth
import GodotSurvey.Proofs.Text.Table

/-!
# Where the connections of a scene lead

A connection names its target by a path, and the script of the target is looked up by that path
among all nodes at which a script was found: first those of the tree, then the orphans. Nodes of the
tree may well have paths that are all different, but nothing keeps an orphan from repeating one of
them. Then the orphan's script is taken for the script of the node.

* `lookup_scriptsByNode` — of several nodes with one path and a script the last counts.
* `targetScript_connectionFlow`, `leadsTo_of_lastScript?` — where a connection leads.
* `connection_leadsTo_iff` — **a connection to a node of the tree leads to the script of the node
  exactly if no orphan puts another script in its place.**
-/

namespace GodotSurvey

namespace Scene

variable {f : SceneFile} {n : NodeDecl} {nodes : List NodeDecl} {path script : Text}

/-! ## Scripts by path -/

/-- The script that a node refers to, if the reference leads to a file of the project. -/
def resolvedScript? (f : SceneFile) (n : NodeDecl) : Option Text :=
  (n.property? scriptProperty).bind fun p => (scriptOf f p.value).toOption

/-- The script of the last of the nodes that have this path and a script. -/
def lastScript? (f : SceneFile) (nodes : List NodeDecl) (path : Text) : Option Text :=
  ((nodes.filter (·.path = path)).filterMap (resolvedScript? f)).getLast?

theorem attached_attachments (f : SceneFile) (nodes : List NodeDecl) :
    attached (attachments f nodes) =
      nodes.filterMap fun n => (resolvedScript? f n).map fun s => ⟨n.path, s⟩ := by
  rw [attached, attachments, List.filterMap_filterMap]
  refine List.filterMap_congr fun n _ => ?_
  rw [attachment?, resolvedScript?]
  cases n.property? scriptProperty with
  | none => rfl
  | some p =>
    simp only [Option.map_some, Option.bind_some]
    cases scriptOf f p.value <;> rfl

/-- What follows counts more than what comes before. -/
theorem lastScript?_append (f : SceneFile) (nodes later : List NodeDecl) (path : Text) :
    lastScript? f (nodes ++ later) path =
      (lastScript? f later path).or (lastScript? f nodes path) := by
  simp only [lastScript?, List.filter_append, List.filterMap_append, List.getLast?_append]

theorem lastScript?_singleton (f : SceneFile) (n : NodeDecl) (path : Text) :
    lastScript? f [n] path = if n.path = path then resolvedScript? f n else none := by
  by_cases hpath : n.path = path
  · cases hscript : resolvedScript? f n <;> simp [lastScript?, hpath, hscript]
  · simp [lastScript?, hpath]

/-- The table of scripts has the last one under each path. -/
theorem lookup_scriptsByNode (f : SceneFile) (nodes : List NodeDecl) (path : Text) :
    (scriptsByNode (attached (attachments f nodes))).lookup path = lastScript? f nodes path := by
  rw [scriptsByNode, attached_attachments]
  induction nodes using List.reverseRecOn with
  | nil => rfl
  | append_singleton nodes n ih =>
    rw [lastScript?_append, lastScript?_singleton, ← ih, List.filterMap_append, List.map_append,
      List.reverse_append]
    cases hscript : resolvedScript? f n with
    | none => simp [hscript]
    | some script =>
      by_cases hpath : n.path = path
      · simp [hscript, hpath]
      · simp [hscript, hpath, List.lookup_cons, beq_false_of_ne (Ne.symm hpath)]

theorem lastScript?_eq_none (h : ∀ n ∈ nodes, n.path ≠ path) : lastScript? f nodes path = none := by
  have hnone : nodes.filter (·.path = path) = [] := by
    simpa [List.filter_eq_nil_iff] using h
  rw [lastScript?, hnone]
  rfl

/-- If the paths are all different, the script under the path of a node is the node's own. -/
theorem lastScript?_of_mem (hdistinct : (nodes.map (·.path)).Nodup) (hn : n ∈ nodes) :
    lastScript? f nodes n.path = resolvedScript? f n := by
  obtain ⟨before, after, rfl⟩ := List.append_of_mem hn
  rw [List.map_append, List.map_cons, List.nodup_middle, List.nodup_cons, ← List.map_append]
    at hdistinct
  have hothers : ∀ m ∈ before ++ after, m.path ≠ n.path := fun m hm hpath =>
    hdistinct.1 (List.mem_map.2 ⟨m, hm, hpath⟩)
  have hbefore : lastScript? f before n.path = none :=
    lastScript?_eq_none fun m hm => hothers m (List.mem_append_left _ hm)
  have hafter : lastScript? f after n.path = none :=
    lastScript?_eq_none fun m hm => hothers m (List.mem_append_right _ hm)
  rw [lastScript?_append, ← List.singleton_append, lastScript?_append, lastScript?_singleton,
    if_pos rfl, hbefore, hafter, Option.none_or, Option.or_none]

theorem mem_of_lastScript? (h : lastScript? f nodes path = some script) :
    ∃ n ∈ nodes, resolvedScript? f n = some script := by
  obtain ⟨n, hn, hscript⟩ := List.mem_filterMap.1 (List.mem_of_getLast? h)
  exact ⟨n, List.mem_of_mem_filter hn, hscript⟩

theorem startsWith_of_scriptOf {value : Text} (h : scriptOf f value = .ok script) :
    Text.startsWith script ResourcePath.resScheme = true := by
  have hproject {p : Text} (hp : projectPath p = .ok script) :
      Text.startsWith script ResourcePath.resScheme = true := by
    rw [projectPath] at hp
    split at hp
    · obtain rfl := Except.ok.inj hp
      assumption
    · cases hp
  simp only [scriptOf] at h
  split at h
  · cases h
  · split at h
    · split at h
      · cases h
      · exact hproject h
    · exact hproject h

theorem resolvedScript?_ne_nil (h : resolvedScript? f n = some script) : script ≠ [] := by
  obtain ⟨p, -, hscript⟩ := Option.bind_eq_some_iff.1 h
  cases hof : scriptOf f p.value with
  | error reason => simp [hof, Except.toOption] at hscript
  | ok s =>
    obtain rfl : s = script := by simpa [hof, Except.toOption] using hscript
    rintro rfl
    exact absurd (startsWith_of_scriptOf hof) (by decide)

end Scene

/-- The analysis did not fail, and the script has a method of that name. -/
def ScriptResult.Handles (r : ScriptResult) (method : Text) : Prop :=
  r.failed = false ∧ ∃ d, r.decl = some d ∧ ∃ m ∈ d.methods, m.name = method

theorem ScriptResult.handles_iff {r : ScriptResult} {method : Text} :
    r.Handles method ↔ (!r.failed && r.decl.any (·.hasMethod method)) = true := by
  simp [Handles, ScriptDecl.hasMethod, Option.any_eq_true]

instance (r : ScriptResult) (method : Text) : Decidable (r.Handles method) :=
  decidable_of_iff _ ScriptResult.handles_iff.symm

namespace SceneResult

/-! ## Flows -/

/-- The flow leads to the script: it names the script, which is among those that were analysed, and
the handler is found exactly if the script handles the method. -/
structure LeadsTo (r : SceneResult) (flow : ConnectionFlow) (script : Text) : Prop where
  target : flow.targetScript = script
  analysed : ∃ result, (script, result) ∈ r.scripts
  handler : ∀ result, (script, result) ∈ r.scripts →
    (flow.handlerFound = true ↔ result.Handles flow.connection.method)

variable {attached : List NodeScript} {scripts : List (Text × ScriptResult)} {c : Connection}

theorem handlerFound_iff {result : ScriptResult}
    (h : scripts.lookup (connectionFlow attached scripts c).targetScript = some result) :
    (connectionFlow attached scripts c).handlerFound = true ↔ result.Handles c.method := by
  rw [ScriptResult.handles_iff]
  simp only [connectionFlow] at h ⊢
  rw [h]

section Join

variable {f : SceneFile} {nodes : List NodeDecl} {r : SceneResult}
  (hattached : r.attached = Scene.attached (Scene.attachments f nodes))

include hattached

/-- A connection leads to what is found under the path of its target. -/
theorem targetScript_connectionFlow :
    (connectionFlow r.attached scripts c).targetScript =
      (Scene.lastScript? f nodes c.target).getD [] := by
  rw [← Scene.lookup_scriptsByNode, ← hattached]
  rfl

/-- Every script that is found at a node is one of those to be analysed. -/
theorem mem_uniqueScripts {n : NodeDecl} {script : Text} (hn : n ∈ nodes)
    (hscript : Scene.resolvedScript? f n = some script) : script ∈ r.uniqueScripts := by
  rw [uniqueScripts, Text.mem_dedup, hattached, Scene.attached_attachments]
  refine List.mem_map.2 ⟨⟨n.path, script⟩, List.mem_filterMap.2 ⟨n, hn, ?_⟩, rfl⟩
  rw [hscript, Option.map_some]

theorem leadsTo_of_lastScript? (hkeys : scripts.map Prod.fst = r.uniqueScripts) {script : Text}
    (hlast : Scene.lastScript? f nodes c.target = some script) :
    (r.withScripts scripts).LeadsTo (connectionFlow r.attached scripts c) script := by
  have htarget : (connectionFlow r.attached scripts c).targetScript = script := by
    rw [targetScript_connectionFlow hattached, hlast, Option.getD_some]
  have hdistinct : (scripts.map Prod.fst).Nodup := by
    rw [hkeys]
    exact Text.nodup_dedup
  refine ⟨htarget, ?_, fun result hresult => handlerFound_iff ?_⟩
  · obtain ⟨n, hn, hscript⟩ := Scene.mem_of_lastScript? hlast
    have hmem := mem_uniqueScripts hattached hn hscript
    rw [← hkeys] at hmem
    obtain ⟨entry, hentry, rfl⟩ := List.mem_map.1 hmem
    exact ⟨entry.2, hentry⟩
  · rw [htarget]
    exact (Text.lookup_eq_some_iff_mem hdistinct).2 hresult

/-- If the path of the target leads to the script of some stray node, if there is one, and otherwise
to this script, if the node with it is seen, then so does the connection. -/
theorem leadsTo_connectionFlow_iff (hkeys : scripts.map Prod.fst = r.uniqueScripts)
    {stray : Option Text} {script : Text} {seen : Prop} [Decidable seen] (hscript : script ≠ [])
    (hlast : Scene.lastScript? f nodes c.target = stray.or (if seen then some script else none)) :
    (∀ other, stray = some other →
      (r.withScripts scripts).LeadsTo (connectionFlow r.attached scripts c) other) ∧
    ((r.withScripts scripts).LeadsTo (connectionFlow r.attached scripts c) script ↔
      stray = some script ∨ stray = none ∧ seen) := by
  have hstray : ∀ other, stray = some other →
      (r.withScripts scripts).LeadsTo (connectionFlow r.attached scripts c) other := by
    intro other hother
    apply leadsTo_of_lastScript? hattached hkeys
    rw [hlast, hother, Option.some_or]
  refine ⟨hstray, fun hleads => ?_, ?_⟩
  · cases hcase : stray with
    | some other =>
      have hsame : other = script := (hstray other hcase).target.symm.trans hleads.target
      exact .inl (congrArg some hsame)
    | none =>
      refine .inr ⟨rfl, ?_⟩
      by_contra hdeep
      -- nothing is found under the path, and that is not a script
      have hnothing := hleads.target
      rw [targetScript_connectionFlow hattached, hlast, hcase, if_neg hdeep] at hnothing
      exact hscript hnothing.symm
  · rintro (hsame | ⟨hnone, hseen⟩)
    · exact hstray script hsame
    · apply leadsTo_of_lastScript? hattached hkeys
      rw [hlast, hnone, if_pos hseen, Option.none_or]

end Join

/-! ## Nodes of the tree and orphans -/

section Shown

variable {t : NodeTree} {n : NodeDecl}

/-- What is found under the path of a node of the tree is the script of the last orphan of this path
that has one, and otherwise that of the node, if it is not too deep to be searched. -/
theorem lastScript?_searched (hdistinct : (t.flatten.map (·.path)).Nodup) (hn : n ∈ t.flatten)
    (f : SceneFile) (orphans : List NodeDecl) (maxDepth : Int) :
    Scene.lastScript? f (Scene.searched t orphans maxDepth) n.path =
      (Scene.lastScript? f orphans n.path).or
        (if n ∈ (t.walk maxDepth.toNat).map (·.1) then Scene.resolvedScript? f n else none) := by
  have hsub : ((t.walk maxDepth.toNat).map (·.1)).Sublist t.flatten :=
    (NodeTree.walkFrom_sublist maxDepth.toNat 0 t).map _
  rw [Scene.searched, Scene.lastScript?_append]
  congr 1
  split
  · rename_i hshown
    exact Scene.lastScript?_of_mem ((hsub.map _).nodup hdistinct) hshown
  · rename_i hdeep
    refine Scene.lastScript?_eq_none fun m hm hpath => hdeep ?_
    rwa [← List.inj_on_of_nodup_map hdistinct (hsub.subset hm) hn hpath]

end Shown

/-- **Where a connection to a node of the tree leads.** Let the paths in the tree be all different,
and the target of a connection be the path of a node with a script. If some orphan with the same path
has a script, the connection leads to the script of the last such orphan. So it leads to the script
of the node exactly if that is the same script, or there is no such orphan and the node belongs to
the part of the tree that is shown. -/
theorem connection_leadsTo_iff {σ : Type} (analyse : Text → StateM σ ScriptResult) (st : σ)
    {o : SceneOptions} (name : Text) {content : Text} {t : NodeTree}
    (hroot : (Scene.hierarchy (o.file content).nodes).root = some t)
    (hinsights : o.scriptInsights = true) (hdistinct : (t.flatten.map (·.path)).Nodup) :
    let f := o.file content
    let r := ((analysedBy analyse o name content).run st).1
    ∃ outline i, r.outline = some outline ∧ r.insights = some i ∧
      i.flows.map (·.connection) = f.connections ∧
      ∀ flow ∈ i.flows, ∀ n ∈ t.flatten, flow.connection.target = n.path →
        ∀ script, Scene.resolvedScript? f n = some script →
          let stray := Scene.lastScript? f (Scene.hierarchy f.nodes).orphans n.path
          (∀ other, stray = some other → r.LeadsTo flow other) ∧
          (r.LeadsTo flow script ↔
            stray = some script ∨ stray = none ∧ n ∈ outline.tree.flatten) := by
  obtain ⟨outline, houtline, htree, hconnections⟩ := NodeTree.outline_ofContent name hroot
  have hshown : outline.tree.flatten = (t.walk o.maxDepth.toNat).map (·.1) := by
    rw [htree, NodeTree.flatten_reported]
  have hattached := attached_ofContent name hroot
  have hkeys := keys_run_mapM analyse (ofContent o name content).uniqueScripts st
  rw [run_analysedBy _ _ (failed_ofContent name hroot) hinsights]
  generalize ((ofContent o name content).uniqueScripts.mapM fun path => do
    return (path, ← analyse path)).run st = scripts at hkeys
  generalize ofContent o name content = r at houtline hkeys hattached
  have hflows : (r.insightsOf scripts.1).flows =
      outline.connections.map (connectionFlow r.attached scripts.1) := by
    simp [insightsOf, houtline]
  refine ⟨outline, r.insightsOf scripts.1, houtline, rfl, ?_, ?_⟩
  · rw [hflows, List.map_map, ← hconnections]
    exact List.map_id _
  · intro flow hflow n hn htarget script hscript
    rw [hflows] at hflow
    obtain ⟨c, -, rfl⟩ := List.mem_map.1 hflow
    have hlast := lastScript?_searched hdistinct hn (o.file content)
      (Scene.hierarchy (o.file content).nodes).orphans o.maxDepth
    rw [← hshown, hscript, ← htarget] at hlast
    rw [← htarget]
    exact leadsTo_connectionFlow_iff hattached hkeys (Scene.resolvedScript?_ne_nil hscript) hlast

/-- A scene with a door that is opened when the root is pressed, and one more node. -/
def doorScene (stray : Text) : Text :=
  "[node name=\"Main\"]\n" ++
    "[node name=\"Door\" parent=\".\"]\nscript = \"res://door.gd\"\n" ++ stray ++
    "[connection signal=\"pressed\" from=\".\" to=\"Door\" method=\"open\"]\n"

/-- A door can be opened, and no other script has any methods. -/
def doorResult (path : Text) : ScriptResult :=
  if path == "res://door.gd" then { decl := some { methods := [{ name := "open" }] } }
  else { decl := some {} }

/-- An orphan with a path of its own. -/
def lostLamp : Text := "[node name=\"Lamp\" parent=\"Cellar\"]\nscript = \"res://lamp.gd\"\n"

/-- With the lamp in the scene, the connection leads to the door, and the handler is found. -/
theorem connection_leadsTo_door :
    let o : SceneOptions := {}
    let content := doorScene lostLamp
    let r := ((analysedBy (logging doorResult) o "res://main.tscn" content).run []).1
    o.scriptInsights = true ∧
    ∃ t, (Scene.hierarchy (o.file content).nodes).root = some t ∧
      (t.flatten.map (·.path)).Nodup ∧
      ∃ i, r.insights = some i ∧ i.flows.length = 1 ∧
        ∀ flow ∈ i.flows, r.LeadsTo flow "res://door.gd" ∧ flow.handlerFound = true := by
  intro o content r
  have hfacts : (∃ n ∈ (o.file content).nodes, n.isRoot = true) ∧
      (Scene.hierarchy (o.file content).nodes).root.any (fun t =>
        decide ((t.flatten.map (·.path)).Nodup ∧
          ∃ n ∈ t.flatten, n.path = Text.ofString "Door" ∧
            Scene.resolvedScript? (o.file content) n = some (Text.ofString "res://door.gd") ∧
            Scene.lastScript? (o.file content) (Scene.hierarchy (o.file content).nodes).orphans
              n.path = none ∧
            r.outline.all fun outline => decide (n ∈ outline.tree.flatten))) = true ∧
      r.insights.all (fun i => decide (i.flows.length = 1 ∧
        ∀ flow ∈ i.flows, flow.connection.target = Text.ofString "Door" ∧
          flow.handlerFound = true)) = true := by
    decide +kernel
  obtain ⟨hroot, htree, hvalues⟩ := hfacts
  obtain ⟨t, ht⟩ := Scene.exists_tree hroot
  rw [ht, Option.any_some, decide_eq_true_iff] at htree
  obtain ⟨hdistinct, n, hn, hpath, hscript, hstray, hseen⟩ := htree
  obtain ⟨outline, i, houtline, hi, -, hleads⟩ :=
    connection_leadsTo_iff (logging doorResult) [] "res://main.tscn" ht rfl hdistinct
  rw [houtline, Option.all_some, decide_eq_true_iff] at hseen
  rw [hi, Option.all_some, decide_eq_true_iff] at hvalues
  refine ⟨rfl, t, ht, hdistinct, i, hi, hvalues.1, fun flow hflow => ?_⟩
  obtain ⟨htarget, hfound⟩ := hvalues.2 flow hflow
  exact ⟨(hleads flow hflow n hn (htarget.trans hpath.symm) _ hscript).2.2 (.inr ⟨hstray, hseen⟩),
    hfound⟩

/-- An orphan that repeats the path of the door: a second node without a parent. -/
def strayDoor : Text := "[node name=\"Door\"]\nscript = \"res://gate.gd\"\n"

/-- With the stray node in the scene, the connection leads to the gate, which cannot be opened. The
paths in the tree are all different, and the node that the connection leads to has a script that was
analysed and has the method. -/
theorem strayDoor_taken :
    let o : SceneOptions := {}
    let content := doorScene strayDoor
    let r := ((analysedBy (logging doorResult) o "res://main.tscn" content).run []).1
    ((Scene.hierarchy (o.file content).nodes).root.any fun t =>
      decide ((t.flatten.map (·.path)).Nodup ∧
        ∃ n ∈ t.flatten, n.path = Text.ofString "Door" ∧
          Scene.resolvedScript? (o.file content) n = some (Text.ofString "res://door.gd"))) ∧
    (Text.ofString "res://door.gd", doorResult "res://door.gd") ∈ r.scripts ∧
    (doorResult "res://door.gd").Handles "open" ∧
    r.insights.map (fun i =>
        i.flows.map fun flow => (flow.connection.target, flow.targetScript, flow.handlerFound)) =
      some [(Text.ofString "Door", Text.ofString "res://gate.gd", false)] := by
  decide +kernel

end SceneResult

end GodotSurvey
