import GodotSurvey.Survey.Scene
import GodotSurvey.Proofs.Scene.Hierarchy
import GodotSurvey.Proofs.Text.Distinct
import Mathlib.Data.List.Perm.Basic
import Mathlib.Logic.Function.Basic

/-!
# What a scene tells of its scripts

Every node of a scene file hangs in the tree or is an orphan, and a survey without a depth limit
looks for scripts at all of them. So each script reference of the file is reported once: as the
script attached to the node, or with the reason for which it leads nowhere. The scripts that are
attached are analysed once each, in the order in which they are first met, and what they do is
merged in that order. A script whose analysis fails is counted and changes nothing else.

* `Scene.Reports` — one report for each reference; `Scene.reports_attachments`,
  `reports_ofContent` — a scene has them.
* `run_mapM_logging` — an analysis that is logged is asked once for each path.
* `AccountsFor` — what a result says of the scripts of a file; `accountsFor_withScripts` — every
  result with insights says so, wherever the results of its scripts are from.
* `sceneOf_accountsFor` — this holds of surveys, whatever the cache has.
* `analysedBy_accounts` — **a scene accounts for every script reference, and its insights are those
  of the scripts that did not fail, merged in the order of their first use.**
-/

namespace GodotSurvey

namespace Scene

/-! ## References -/

/-- The node has a script property. -/
def hasScript (n : NodeDecl) : Bool := (n.property? scriptProperty).isSome

/-- What may be reported for a node with a script property: the script that it refers to, or why
the reference leads nowhere. -/
inductive Reported (f : SceneFile) (n : NodeDecl) : Except UnresolvedScript NodeScript → Prop
  | attached {p : Property} {script : Text} (hp : n.property? scriptProperty = some p)
      (hscript : scriptOf f p.value = .ok script) : Reported f n (.ok ⟨n.path, script⟩)
  | unresolved {p : Property} {reason : Unresolved} (hp : n.property? scriptProperty = some p)
      (hreason : scriptOf f p.value = .error reason) :
      Reported f n (.error ⟨n.path, p.value, reason⟩)

/-- The reports belong one to one to those of the nodes that have a script property. -/
def Reports (f : SceneFile) (nodes : List NodeDecl) (attached : List NodeScript)
    (unresolved : List UnresolvedScript) : Prop :=
  ∃ ns : List NodeDecl, ns.Perm (nodes.filter hasScript) ∧
    List.Forall₂ (Reported f) ns (attached.map Except.ok ++ unresolved.map Except.error)

variable {f : SceneFile} {n : NodeDecl} {nodes : List NodeDecl}

theorem attachment?_eq_none (h : hasScript n = false) : attachment? f n = none := by
  rw [hasScript, Option.isSome_eq_false_iff, Option.isNone_iff_eq_none] at h
  rw [attachment?, h]
  rfl

theorem exists_reported (h : hasScript n = true) :
    ∃ ref, attachment? f n = some ref ∧ Reported f n ref := by
  obtain ⟨p, hp⟩ := Option.isSome_iff_exists.1 h
  rw [attachment?, hp]
  cases hscript : scriptOf f p.value with
  | ok script => exact ⟨_, by simp [hscript], .attached hp hscript⟩
  | error reason => exact ⟨_, by simp [hscript], .unresolved hp hscript⟩

/-- The references are reported in the order of the nodes that have one. -/
theorem forall₂_attachments :
    List.Forall₂ (Reported f) (nodes.filter hasScript) (attachments f nodes) := by
  induction nodes with
  | nil => exact .nil
  | cons n nodes ih =>
    rw [attachments, List.filterMap_cons]
    cases h : hasScript n with
    | true =>
      obtain ⟨ref, href, hreported⟩ := exists_reported (f := f) h
      rw [List.filter_cons_of_pos h, href]
      exact .cons hreported ih
    | false =>
      rw [List.filter_cons_of_neg (by simp [h]), attachment?_eq_none h]
      exact ih

/-- A reference is either attached or unresolved. -/
theorem attached_unresolved_perm (refs : List (Except UnresolvedScript NodeScript)) :
    ((attached refs).map Except.ok ++ (unresolved refs).map Except.error).Perm refs := by
  induction refs with
  | nil => exact .nil
  | cons ref refs ih =>
    cases ref with
    | ok a => exact ih.cons _
    | error u => exact List.perm_middle.trans (ih.cons _)

theorem reports_attachments (f : SceneFile) (nodes : List NodeDecl) :
    Reports f nodes (attached (attachments f nodes)) (unresolved (attachments f nodes)) := by
  -- the attached scripts come first in the reports, so the nodes have to be moved with them
  have hmoved : Relation.Comp (List.Forall₂ (Reported f)) List.Perm (nodes.filter hasScript)
      ((attached (attachments f nodes)).map Except.ok ++
        (unresolved (attachments f nodes)).map Except.error) :=
    ⟨_, forall₂_attachments, (attached_unresolved_perm _).symm⟩
  rw [List.forall₂_comp_perm_eq_perm_comp_forall₂] at hmoved
  obtain ⟨ns, hns, hreported⟩ := hmoved
  exact ⟨ns, hns.symm, hreported⟩

theorem Reports.perm {nodes' : List NodeDecl} {as : List NodeScript} {us : List UnresolvedScript}
    (h : Reports f nodes as us) (hperm : nodes.Perm nodes') : Reports f nodes' as us := by
  obtain ⟨ns, hns, hreported⟩ := h
  exact ⟨ns, hns.trans (hperm.filter _), hreported⟩

/-- Without a depth limit, scripts are looked for at every node. -/
theorem searched_perm {t : NodeTree} (h : (hierarchy nodes).root = some t) {maxDepth : Int}
    (hlimit : maxDepth ≤ 0) : (searched t (hierarchy nodes).orphans maxDepth).Perm nodes := by
  have hperm := hierarchy_perm nodes
  rw [h, Option.toList_some, List.flatMap_singleton] at hperm
  rw [searched, Int.toNat_of_nonpos hlimit]
  exact hperm

/-- There is a tree as soon as some node has no parent path. -/
theorem exists_tree (h : ∃ n ∈ nodes, n.isRoot = true) : ∃ t, (hierarchy nodes).root = some t := by
  have harranges := layout_arranges nodes
  obtain ⟨subtree, hroot, -⟩ := harranges.grown
  have hfirst : (nodes.findIdx? NodeDecl.isRoot).isSome := by
    rw [List.findIdx?_isSome, List.any_eq_true]
    exact h
  obtain ⟨i, hi⟩ := Option.isSome_iff_exists.1 hfirst
  exact ⟨subtree i, by rw [hroot, harranges.root_first, hi, Option.map_some]⟩

end Scene

/-! ## The scene -/

/-- The result has an error or tells of the script. -/
def ScriptResult.IsComplete (r : ScriptResult) : Prop := r.failed = true ∨ r.context.isSome = true

namespace SceneResult

section Content

variable {o : SceneOptions} (name : Text) {content : Text} {t : NodeTree}
  (h : (Scene.hierarchy (o.file content).nodes).root = some t)

include h

theorem attached_ofContent : (ofContent o name content).attached =
    Scene.attached (Scene.attachments (o.file content)
      (Scene.searched t (Scene.hierarchy (o.file content).nodes).orphans o.maxDepth)) := by
  simp only [ofContent, h]

theorem unresolved_ofContent : (ofContent o name content).unresolved =
    Scene.unresolved (Scene.attachments (o.file content)
      (Scene.searched t (Scene.hierarchy (o.file content).nodes).orphans o.maxDepth)) := by
  simp only [ofContent, h]

theorem failed_ofContent : (ofContent o name content).failed = false := by
  simp only [ofContent, h]
  rfl

/-- Without a depth limit, every reference of the file is reported. -/
theorem reports_ofContent (hlimit : o.maxDepth ≤ 0) :
    Scene.Reports (o.file content) (o.file content).nodes (ofContent o name content).attached
      (ofContent o name content).unresolved := by
  rw [attached_ofContent name h, unresolved_ofContent name h]
  exact (Scene.reports_attachments _ _).perm (Scene.searched_perm h hlimit)

end Content

/-! ## Analysing scripts -/

/-- The analysis that gives these results, and logs the paths that it is asked for. -/
def logging (result : Text → ScriptResult) (path : Text) : StateM (List Text) ScriptResult := do
  modify (· ++ [path])
  return result path

section Run

variable {σ : Type} (analyse : Text → StateM σ ScriptResult)

theorem run_analysedBy {o : SceneOptions} {name content : Text} (st : σ)
    (hfailed : (ofContent o name content).failed = false) (hinsights : o.scriptInsights = true) :
    (analysedBy analyse o name content).run st =
      let scripts := ((ofContent o name content).uniqueScripts.mapM fun path => do
        return (path, ← analyse path)).run st
      ((ofContent o name content).withScripts scripts.1, scripts.2) := by
  rw [analysedBy, hfailed, hinsights]
  generalize ofContent o name content = r
  rfl

theorem run_mapM_cons {α β : Type} (f : α → StateM σ β) (x : α) (xs : List α) (st : σ) :
    ((x :: xs).mapM f).run st =
      let first := (f x).run st
      let rest := (xs.mapM f).run first.2
      (first.1 :: rest.1, rest.2) := by
  rw [List.mapM_cons]
  rfl

/-- The results stand beside the paths that they were asked for. -/
theorem keys_run_mapM (paths : List Text) (st : σ) :
    ((paths.mapM fun path => do return (path, ← analyse path)).run st).1.map Prod.fst = paths := by
  induction paths generalizing st with
  | nil => rfl
  | cons path paths ih =>
    rw [run_mapM_cons, List.map_cons, ih]
    rfl

/-- What holds of every answer holds of all results. -/
theorem forall_run_mapM {P : ScriptResult → Prop} (h : ∀ path st, P ((analyse path).run st).1)
    (paths : List Text) (st : σ) :
    ∀ r ∈ ((paths.mapM fun path => do return (path, ← analyse path)).run st).1, P r.2 := by
  induction paths generalizing st with
  | nil => nofun
  | cons path paths ih =>
    rw [run_mapM_cons]
    intro r hr
    obtain rfl | hr := List.mem_cons.1 hr
    · exact h path st
    · exact ih _ r hr

theorem keys_results (result : Text → ScriptResult) (paths : List Text) :
    (paths.map fun path => (path, result path)).map Prod.fst = paths := by
  rw [List.map_map]
  exact List.map_id _

theorem run_mapM_logging (result : Text → ScriptResult) (paths log : List Text) :
    (paths.mapM fun path => do return (path, ← logging result path)).run log =
      (paths.map fun path => (path, result path), log ++ paths) := by
  induction paths generalizing log with
  | nil => rw [List.append_nil]; rfl
  | cons path paths ih =>
    have hfirst : (do return (path, ← logging result path) : StateM _ _).run log =
      ((path, result path), log ++ [path]) := rfl
    rw [run_mapM_cons, hfirst]
    dsimp only
    rw [ih, List.append_assoc, List.singleton_append, List.map_cons]

/-- With insights, each script is analysed once, in the order of their first use. -/
theorem run_logging (result : Text → ScriptResult) {o : SceneOptions} {name content : Text}
    (hfailed : (ofContent o name content).failed = false) (hinsights : o.scriptInsights = true) :
    (analysedBy (logging result) o name content).run [] =
      ((ofContent o name content).withScripts
        ((ofContent o name content).uniqueScripts.map fun path => (path, result path)),
        (ofContent o name content).uniqueScripts) := by
  rw [run_analysedBy _ _ hfailed hinsights, run_mapM_logging, List.nil_append]

end Run

/-! ## Accounting -/

theorem isNone_contribution? (r : ScriptResult) :
    (contribution? r).isNone = (r.failed || r.context.isNone) := by
  cases hfailed : r.failed <;> simp [contribution?, hfailed]

/-- A script that fails adds nothing, and leaves what the others add. -/
theorem filterMap_contribution?_update (result : Text → ScriptResult) (paths : List Text)
    (path : Text) {failing : ScriptResult} (hfailing : failing.failed = true) :
    (paths.map fun p => (p, Function.update result path failing p)).filterMap
        (fun s => contribution? s.2) =
      (paths.filter (· ≠ path)).filterMap fun p => contribution? (result p) := by
  rw [List.filterMap_map, List.filterMap_filter]
  refine List.filterMap_congr fun p _ => ?_
  by_cases hp : p = path
  · simp [hp, contribution?, hfailing]
  · simp [hp]

/-- What the result `r` for the file `f`, with the insights `i`, says of the scripts. -/
structure AccountsFor (f : SceneFile) (r : SceneResult) (i : SceneInsights) : Prop where
  insights : r.insights = some i
  /-- Each node with a script property is reported once, and nothing else is. -/
  references : Scene.Reports f f.nodes r.attached r.unresolved
  attached : i.attached = r.attached
  /-- Each attached script is named once, in the order in which it is first met. -/
  scripts : i.scripts = Text.dedup (r.attached.map (·.scriptPath))
  distinct : i.scripts.Nodup
  /-- There is one result for each of the scripts. -/
  keys : r.scripts.map Prod.fst = i.scripts
  scriptCount : i.scriptCount = i.scripts.length
  failedScripts : i.failedScripts = r.scripts.countP fun s => s.2.failed || s.2.context.isNone
  merged : i.insights = (r.scripts.filterMap fun s => contribution? s.2).foldl Insights.merge {}

/-- If results without an error have insights, the failed ones are those with an error. -/
theorem AccountsFor.failedScripts_eq {f : SceneFile} {r : SceneResult} {i : SceneInsights}
    (h : AccountsFor f r i) (hcomplete : ∀ s ∈ r.scripts, s.2.IsComplete) :
    i.failedScripts = r.scripts.countP fun s => s.2.failed := by
  rw [h.failedScripts]
  refine List.countP_congr fun s hs => ?_
  obtain hfailed | hcontext := hcomplete s hs
  · simp [hfailed]
  · simp [Option.isNone_eq_false_iff.2 hcontext]

/-- A result accounts for the scripts of a file if its references do, and the results of its scripts
stand beside their paths. -/
theorem accountsFor_withScripts {f : SceneFile} {r : SceneResult}
    {scripts : List (Text × ScriptResult)}
    (hreferences : Scene.Reports f f.nodes r.attached r.unresolved)
    (hkeys : scripts.map Prod.fst = r.uniqueScripts) :
    AccountsFor f (r.withScripts scripts) (r.insightsOf scripts) where
  insights := rfl
  references := hreferences
  attached := rfl
  scripts := hkeys
  distinct := by
    change (scripts.map Prod.fst).Nodup
    rw [hkeys]
    exact Text.nodup_dedup
  keys := rfl
  scriptCount := rfl
  failedScripts := by
    have hsplit := List.length_eq_countP_add_countP
      (fun s : Text × ScriptResult => (contribution? s.2).isSome) (l := scripts)
    have hfailed : scripts.countP (fun s => decide ¬ (contribution? s.2).isSome = true) =
        scripts.countP fun s => s.2.failed || s.2.context.isNone :=
      List.countP_congr fun s _ => by rw [← isNone_contribution?]; simp
    change scripts.length - (scripts.filterMap fun s => contribution? s.2).length = _
    rw [List.length_filterMap_eq_countP, hsplit, hfailed, Nat.add_sub_cancel_left]
    rfl
  merged := rfl

/-- **A scene accounts for every script reference.** Whatever the results of the scripts are, every
node of the file with a script property is reported once, as attached or as unresolved; each script
that is attached is analysed once, in the order in which the scripts are first met; and the insights
of the scene are those of the scripts that did not fail, merged in this order. A script that fails
takes its own part out of the insights and nothing else. -/
theorem analysedBy_accounts (result : Text → ScriptResult) (o : SceneOptions)
    (name content : Text) (hlimit : o.maxDepth ≤ 0) (hinsights : o.scriptInsights = true)
    (hroot : ∃ n ∈ (o.file content).nodes, n.isRoot = true) :
    ∃ r i, (analysedBy (logging result) o name content).run [] = (r, i.scripts) ∧
      AccountsFor (o.file content) r i ∧
      r.scripts = i.scripts.map (fun path => (path, result path)) ∧
      ((∀ path ∈ i.scripts, (result path).IsComplete) →
        i.failedScripts = i.scripts.countP fun path => (result path).failed) ∧
      ∀ path failing, failing.failed = true →
        ∃ r' i', (analysedBy (logging (Function.update result path failing)) o name content).run []
            = (r', i.scripts) ∧
          r'.insights = some i' ∧ r'.attached = r.attached ∧ r'.unresolved = r.unresolved ∧
          i'.scripts = i.scripts ∧
          i'.insights = ((i.scripts.filter (· ≠ path)).filterMap fun p =>
            contribution? (result p)).foldl Insights.merge {} := by
  obtain ⟨t, ht⟩ := Scene.exists_tree hroot
  have hreferences := reports_ofContent name ht hlimit
  have hrun (result : Text → ScriptResult) :=
    run_logging result (failed_ofContent name ht) hinsights
  generalize ofContent o name content = scene at hreferences hrun
  generalize hpaths : scene.uniqueScripts = paths at hrun
  have hkeys (result : Text → ScriptResult) := keys_results result paths
  have haccounts (result : Text → ScriptResult) :=
    accountsFor_withScripts hreferences ((hkeys result).trans hpaths.symm)
  have hscripts (result : Text → ScriptResult) :
      (scene.insightsOf (paths.map fun path => (path, result path))).scripts = paths :=
    hkeys result
  refine ⟨_, scene.insightsOf (paths.map fun path => (path, result path)),
    (hrun result).trans ?_, haccounts result, ?_, fun hcomplete => ?_,
    fun path failing hfailing => ?_⟩
  · rw [hscripts]
  · rw [hscripts]
    rfl
  · rw [hscripts] at hcomplete ⊢
    have hresults : ∀ s ∈ paths.map fun path => (path, result path), s.2.IsComplete :=
      List.forall_mem_map.2 hcomplete
    rw [(haccounts result).failedScripts_eq hresults]
    exact List.countP_map
  · rw [hscripts]
    refine ⟨_, _, hrun _, rfl, rfl, rfl, hscripts _, ?_⟩
    rw [← filterMap_contribution?_update result paths path hfailing]
    rfl

/-- A scene in which two nodes share a script, one has a script of its own, and an orphan has a
script that is built in. -/
def hauntedScene : Text :=
  "[ext_resource path=\"res://hero.gd\" id=\"1\"]\n" ++
    "[ext_resource path=\"res://ghost.gd\" id=\"2\"]\n" ++
    "[node name=\"Main\"]\nscript = ExtResource(\"1\")\n" ++
    "[node name=\"Ghost\" parent=\".\"]\nscript = ExtResource(\"2\")\n" ++
    "[node name=\"Twin\" parent=\"Ghost\"]\nscript = ExtResource(\"1\")\n" ++
    "[node name=\"Lost\" parent=\"Nowhere\"]\nscript = SubResource(\"3\")\n"

/-- The scripts of that scene. -/
def hauntedScripts : List Text := ["res://hero.gd", "res://ghost.gd"]

/-- The script of the ghost cannot be read; the other one sends a signal. -/
def hauntedResult (path : Text) : ScriptResult :=
  if path == "res://ghost.gd" then .failure path "file not found"
  else { context := some ⟨{ signalsEmitted := ["died"] }, [], [], []⟩ }

/-- Four references are reported; one of two scripts fails, and the signal of the other stays. -/
theorem analysedBy_accounts_hauntedScene :
    ({} : SceneOptions).maxDepth ≤ 0 ∧ ({} : SceneOptions).scriptInsights = true ∧
    (∃ n ∈ (({} : SceneOptions).file hauntedScene).nodes, n.isRoot = true) ∧
    ∃ r i, (analysedBy (logging hauntedResult) {} "res://main.tscn" hauntedScene).run [] =
        (r, i.scripts) ∧
      AccountsFor (({} : SceneOptions).file hauntedScene) r i ∧
      i.scripts = hauntedScripts ∧
      r.attached.length = 3 ∧ r.unresolved.length = 1 ∧ i.failedScripts = 1 ∧
      i.insights.signalsEmitted = [Text.ofString "died"] := by
  have hroot : ∃ n ∈ (({} : SceneOptions).file hauntedScene).nodes, n.isRoot = true := by
    decide +kernel
  obtain ⟨r, i, hrun, haccounts, -⟩ := analysedBy_accounts hauntedResult {} "res://main.tscn"
    hauntedScene (Int.le_refl 0) rfl hroot
  obtain ⟨rfl, -⟩ := Prod.ext_iff.1 hrun
  have hvalues : (fun r : SceneResult => r.attached.length = 3 ∧ r.unresolved.length = 1 ∧
      r.insights.all (fun i => decide (i.scripts = hauntedScripts ∧ i.failedScripts = 1 ∧
        i.insights.signalsEmitted = [Text.ofString "died"])) = true)
      ((analysedBy (logging hauntedResult) {} "res://main.tscn" hauntedScene).run []).1 := by
    decide +kernel
  obtain ⟨hattached, hunresolved, hinsights⟩ := hvalues
  rw [haccounts.insights, Option.all_some, decide_eq_true_iff] at hinsights
  obtain ⟨hscripts, hfailed, hsignals⟩ := hinsights
  exact ⟨Int.le_refl 0, rfl, hroot, _, i, hrun, haccounts, hscripts, hattached, hunresolved,
    hfailed, hsignals⟩

end SceneResult

/-! ## Surveys -/

namespace Survey

open SceneResult

theorem failed_failure (path : Text) (e : AnalysisError) :
    (ScriptResult.failure path e.message).failed = true := by
  have hmessage : e.message ≠ [] := by
    unfold AnalysisError.message
    cases e.cause <;> simp [Text.ofString]
  simpa [ScriptResult.failed, ScriptResult.failure] using hmessage

/-- A result that is not from the cache is complete. -/
theorem isComplete_attachedScript {s : Survey} (hcache : s.cache.enabled = false) (root : Text)
    (r : Registry) (o : ScriptOptions) (path : Text) (fs : FileSystem) :
    ((s.attachedScript root r o path).run fs).1.IsComplete := by
  unfold attachedScript
  cases locateIn root path with
  | error e => exact .inl (failed_failure path e)
  | ok t =>
    dsimp only [scriptAt]
    cases Source.read s.files t.path with
    | error e => exact .inl (failed_failure t.name e)
    | ok content =>
      dsimp only [cachedScript]
      rw [hcache]
      exact .inr rfl

variable {s : Survey} {r : Registry} {o : SceneOptions} {t : Target} {content : Text}
  (hlimit : o.maxDepth ≤ 0) (hinsights : o.scriptInsights = true)
  (hroot : ∃ n ∈ (o.file content).nodes, n.isRoot = true)

include hlimit hinsights hroot

/-- The scene of a survey accounts for the scripts of its file, whatever the cache has. -/
theorem sceneOf_accountsFor (fs : FileSystem) :
    ∃ i, AccountsFor (o.file content) ((s.sceneOf r o t content).run fs).1 i := by
  obtain ⟨tree, htree⟩ := Scene.exists_tree hroot
  rw [sceneOf, run_analysedBy _ _ (failed_ofContent _ htree) hinsights]
  exact ⟨_, accountsFor_withScripts (reports_ofContent _ htree hlimit) (keys_run_mapM _ _ _)⟩

/-- Without a cache, the failed scripts are those whose results have an error. -/
theorem failedScripts_sceneOf (hcache : s.cache.enabled = false) (fs : FileSystem) :
    ∃ i, ((s.sceneOf r o t content).run fs).1.insights = some i ∧
      i.failedScripts =
        ((s.sceneOf r o t content).run fs).1.scripts.countP fun s => s.2.failed := by
  obtain ⟨i, hi⟩ := sceneOf_accountsFor (s := s) (r := r) (t := t) hlimit hinsights hroot fs
  refine ⟨i, hi.insights, hi.failedScripts_eq ?_⟩
  obtain ⟨tree, htree⟩ := Scene.exists_tree hroot
  rw [sceneOf, run_analysedBy _ _ (failed_ofContent _ htree) hinsights]
  exact forall_run_mapM _ (isComplete_attachedScript hcache _ _ _) _ _

end Survey

end GodotSurvey
