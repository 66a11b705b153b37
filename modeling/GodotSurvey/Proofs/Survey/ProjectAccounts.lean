import GodotSurvey.Proofs.Graph.Building
import GodotSurvey.Proofs.Survey.ProjectOutcomes

/-!
# What a project says of its files

The result of a project is made of the outcomes of all scripts and scenes that a scan finds. A file
that fails is listed with its error, and every other one is counted, is a node of the graph, and
takes its part in the insights and the statistics.

A script that the cache serves has the name under which it was analysed. The node of the graph has
that name too, which is not the path of the file if the script was asked for by another spelling of
its path.

* `ofOutcomes_accountsFor` – a result accounts for the files whose outcomes it is made of.
* `project_accounts` – **no file is lost or counted twice, whatever the cache serves.**
* `node_after_script` – a script that was asked for by another name is a node under that name.
-/

namespace GodotSurvey

/-- A file that is added to a graph is a node. -/
theorem Graph.path_mem_built (r : Resolution) {as : List Addition} {a : Addition} (ha : a ∈ as) :
    a.path ∈ (built r as).nodes.map (·.id) := by
  have haccounts := accounts_empty.foldl_add r as
  have hperm : (built r as).nodes.Perm (as.foldl (add r) {}).nodes := List.mergeSort_perm _ _
  rw [(hperm.map _).mem_iff, haccounts.mem_nodes]
  exact .inl (List.mem_map_of_mem ha)

/-! ## The result of a project -/

namespace ScriptResult

/-- What the script declares; that of a failed script is empty. -/
def declared (r : ScriptResult) : ScriptDecl := r.decl.getD {}

/-- The insights into the script; those into a failed one are empty. -/
def ownInsights (r : ScriptResult) : Insights := (r.context.map (·.insights)).getD {}

theorem IsWhole.decl_eq {r : ScriptResult} (h : r.IsWhole) : r.decl = some r.declared := by
  obtain ⟨decl, hdecl⟩ := Option.isSome_iff_exists.1 h.decl
  rw [declared, hdecl]
  rfl

theorem IsWhole.contribution?_eq {r : ScriptResult} (h : r.IsWhole) :
    SceneResult.contribution? r = some r.ownInsights := by
  obtain ⟨context, hcontext⟩ := Option.isSome_iff_exists.1 h.context
  rw [SceneResult.contribution?, if_neg (by simp [h.succeeded]), ownInsights, hcontext]
  rfl

end ScriptResult

namespace ProjectResult

/-- What the result for the project at `root` says of the files that were found, given the outcomes
of its scripts and scenes. -/
structure AccountsFor (result : ProjectResult) (root : Text) (o : ProjectOptions)
    (found : FoundFiles) (scripts : List (Text × Except Text ScriptResult))
    (scenes : List (Text × Except Text SceneResult)) : Prop where
  script_files : scripts.map Prod.fst = found.scripts
  scene_files : scenes.map Prod.fst = found.scenes
  script_count : result.scriptCount = found.scripts.length
  scene_count : result.sceneCount = found.scenes.length
  methods_count : result.stats.methods.count = (Batch.values scripts).length
  scenes_length : result.scenes.length = (Batch.values scenes).length
  /-- Every file is counted once. -/
  total : result.scriptCount + result.sceneCount =
    result.stats.methods.count + result.scenes.length + result.errors.length
  /-- Every failed file is listed once. -/
  errors_perm : result.errors.Perm ((Batch.failures scripts ++ Batch.failures scenes).map fun f =>
    { f with path := ResourcePath.ofFile root f.path })
  errors_sorted : result.errors.Pairwise fun a b => Text.le a.path b.path
  insights : result.insights =
    ((Batch.values scripts).map (·.2.ownInsights)).foldl Insights.merge {}
  stats : result.stats = ScriptStats.ofDecls ((Batch.values scripts).map (·.2.declared))
  kept : o.scripts = true → result.scripts = (Batch.values scripts).map (·.2)
  /-- A script is a node under the name that its result has. -/
  script_nodes : ∀ v ∈ Batch.values scripts, v.2.path ∈ result.graph.nodes.map (·.id)
  scene_nodes : ∀ v ∈ Batch.values scenes,
    ResourcePath.ofFile root v.1 ∈ result.graph.nodes.map (·.id)

theorem count_summarizeInts (counts : List Int) :
    (Stats.summarizeInts counts).count = counts.length := by
  simp [Stats.summarizeInts, Stats.summarize, Stats.Summary.ofValues, Stats.sorted]

theorem errorsOf_perm (root : Text) (failures : List Batch.Failed) :
    (errorsOf root failures).Perm
      (failures.map fun f => { f with path := ResourcePath.ofFile root f.path }) :=
  List.mergeSort_perm _ _

theorem errorsOf_sorted (root : Text) (failures : List Batch.Failed) :
    (errorsOf root failures).Pairwise fun a b => Text.le a.path b.path :=
  Batch.ascending_mergeSort _

/-- The scripts and scenes of a graph are nodes of it. -/
theorem mem_nodes_graphOf (resolution : Graph.Resolution) (scripts : List ScriptResult)
    (scenes : List SceneSummary) :
    (∀ r ∈ scripts, r.path ∈ (graphOf resolution scripts scenes).nodes.map (·.id)) ∧
      ∀ s ∈ scenes, s.path ∈ (graphOf resolution scripts scenes).nodes.map (·.id) := by
  rw [Graph.graphOf_eq_built]
  constructor
  · intro r hr
    exact Graph.path_mem_built resolution (List.mem_append_left _ (List.mem_map_of_mem hr))
  · intro s hs
    exact Graph.path_mem_built resolution (List.mem_append_right _ (List.mem_map_of_mem hs))

section Outcomes

variable {scripts : List (Text × Except Text ScriptResult)}
  {scenes : List (Text × Except Text SceneResult)}
  (hscripts : ∀ v ∈ Batch.values scripts, v.2.IsWhole)
  (hscenes : ∀ v ∈ Batch.values scenes, v.2.outline.isSome)

include hscripts in
/-- No script that succeeded is left out of the insights. -/
theorem filterMap_contribution?_eq :
    ((Batch.values scripts).map (·.2)).filterMap SceneResult.contribution? =
      (Batch.values scripts).map (·.2.ownInsights) := by
  rw [List.filterMap_map, ← List.filterMap_eq_map]
  exact List.filterMap_congr fun v hv => (hscripts v hv).contribution?_eq

include hscripts in
/-- No script that succeeded is left out of the statistics. -/
theorem filterMap_decl_eq :
    ((Batch.values scripts).map (·.2)).filterMap (·.decl) =
      (Batch.values scripts).map (·.2.declared) := by
  rw [List.filterMap_map, ← List.filterMap_eq_map]
  exact List.filterMap_congr fun v hv => (hscripts v hv).decl_eq

include hscenes in
/-- No scene that succeeded is left out. -/
theorem map_path_summaries :
    ((Batch.values scenes).filterMap fun v => SceneSummary.of? v.2).map (·.path) =
      (Batch.values scenes).map (·.2.path) := by
  rw [List.map_filterMap, ← List.filterMap_eq_map]
  refine List.filterMap_congr fun v hv => ?_
  obtain ⟨outline, houtline⟩ := Option.isSome_iff_exists.1 (hscenes v hv)
  rw [SceneSummary.of?, houtline]
  rfl

include hscripts hscenes in
/-- A result accounts for the files whose outcomes it is made of. -/
theorem ofOutcomes_accountsFor (root : Text) (r : Registry) (o : ProjectOptions)
    (found : FoundFiles) (hscriptFiles : scripts.map Prod.fst = found.scripts)
    (hsceneFiles : scenes.map Prod.fst = found.scenes)
    (hnames : ∀ v ∈ Batch.values scenes, v.2.path = ResourcePath.ofFile root v.1) :
    (ofOutcomes root r o found scripts scenes).AccountsFor root o found scripts scenes := by
  have hmethods : (ofOutcomes root r o found scripts scenes).stats.methods.count =
      (Batch.values scripts).length := by
    show (Stats.summarizeInts _).count = _
    rw [count_summarizeInts, List.length_map, filterMap_decl_eq hscripts, List.length_map]
  have hsummaries : (ofOutcomes root r o found scripts scenes).scenes.length =
      (Batch.values scenes).length := by
    have hlength := congrArg List.length (map_path_summaries hscenes)
    rwa [List.length_map, List.length_map] at hlength
  have herrors : (ofOutcomes root r o found scripts scenes).errors.Perm
      ((Batch.failures scripts ++ Batch.failures scenes).map fun f =>
        { f with path := ResourcePath.ofFile root f.path }) :=
    (errorsOf_perm root _).trans
      (((Batch.sortedStably_mergeSort (Batch.failures scenes)).perm.append_left _).map _)
  have hgraph := mem_nodes_graphOf { registry := r, classNodes := o.classNodes }
    ((Batch.values scripts).map (·.2))
    ((Batch.values scenes).filterMap fun v => SceneSummary.of? v.2)
  exact {
    script_files := hscriptFiles
    scene_files := hsceneFiles
    script_count := rfl
    scene_count := rfl
    methods_count := hmethods
    scenes_length := hsummaries
    total := by
      have hs := Batch.length_values_failures scripts
      have ht := Batch.length_values_failures scenes
      have hlength := herrors.length_eq
      rw [List.length_map, List.length_append] at hlength
      rw [hmethods, hsummaries, hlength]
      show found.scripts.length + found.scenes.length = _
      rw [← hscriptFiles, ← hsceneFiles, List.length_map, List.length_map]
      omega
    errors_perm := herrors
    errors_sorted := errorsOf_sorted root _
    insights := congrArg Insights.mergeAll (filterMap_contribution?_eq hscripts)
    stats := congrArg ScriptStats.ofDecls (filterMap_decl_eq hscripts)
    kept := fun hkeep => if_pos hkeep
    script_nodes := fun v hv => hgraph.1 v.2 (List.mem_map_of_mem hv)
    scene_nodes := by
      intro v hv
      have hpath := List.mem_map_of_mem (f := (·.2.path)) hv
      rw [← map_path_summaries hscenes, List.mem_map] at hpath
      obtain ⟨summary, hsummary, hname⟩ := hpath
      rw [← hnames v hv, ← hname]
      exact hgraph.2 summary hsummary }

end Outcomes

end ProjectResult

/-! ## Any project -/

/-- A directory whose entries are files in order is walked as it is. -/
theorem FileSystem.sortTree_of_pairwise {es : List (Text × Entry)}
    (hfiles : FileSystem.sortTrees es = es) (hsorted : es.Pairwise fun a b => Text.le a.1 b.1) :
    FileSystem.sortTree (.directory es) = .directory es := by
  rw [FileSystem.sortTree, hfiles, List.mergeSort_of_pairwise hsorted]

namespace Survey

variable {s : Survey} {root : Text} {r : Registry}

/-- The directory that is surveyed as a project: the root of the project of a directory, or that
directory itself. -/
def surveyedRoot (s : Survey) (dir : Text) : Text :=
  (s.projectRoot? (s.files.absolute dir)).getD (s.files.absolute dir)

theorem project_run {dir : Text} {found : FoundFiles} {m : Scan.Memory}
    (hscan : Scan.scanDirectory s.files s.config.exclude {} (s.surveyedRoot dir) = .ok (found, m))
    (hregistry : s.registry (s.surveyedRoot dir) = .ok r) (o : ProjectOptions)
    (store : FileSystem) : ((s.project dir o).run store).1 =
      .ok (.ofOutcomes (s.surveyedRoot dir) r o found
        (s.scriptOutcomes (s.surveyedRoot dir) r store found.scripts)
        (found.scenes.map (s.sceneOutcome (s.surveyedRoot dir)))) := by
  rw [surveyedRoot] at hscan hregistry
  simp only [project, hscan, hregistry]
  rfl

/-- **A project accounts for every file that the scan found.** Whatever the cache serves, as long as
it is whole: every script and scene is counted once, as analysed or as failed; a script fails
exactly if its file cannot be read; each failure is listed once, and the list is sorted by path;
insights, statistics and kept results are those of the scripts that succeeded, in the order of the
scan. A scene that succeeded is a node under its path, and so is a script, if what the cache serves
for it was analysed under that path. -/
theorem project_accounts (s : Survey) (dir : Text) (o : ProjectOptions) (store : FileSystem)
    {found : FoundFiles} {m : Scan.Memory} {r : Registry}
    (hscan : Scan.scanDirectory s.files s.config.exclude {} (s.surveyedRoot dir) = .ok (found, m))
    (hregistry : s.registry (s.surveyedRoot dir) = .ok r)
    (hwhole : ∀ x ∈ s.servedScripts (s.surveyedRoot dir) r store found.scripts, x.2.IsWhole) :
    ∃ result, ((s.project dir o).run store).1 = .ok result ∧
      result.AccountsFor (s.surveyedRoot dir) o found
        (s.scriptOutcomes (s.surveyedRoot dir) r store found.scripts)
        (found.scenes.map (s.sceneOutcome (s.surveyedRoot dir))) ∧
      (∀ x ∈ s.scriptOutcomes (s.surveyedRoot dir) r store found.scripts, ∀ cause,
        x.2 = .error cause ↔ ∃ e, Source.read s.files x.1 = .error e ∧ e.message = cause) ∧
      ((∀ x ∈ s.servedScripts (s.surveyedRoot dir) r store found.scripts,
          x.2.path = ResourcePath.ofFile (s.surveyedRoot dir) x.1) →
        ∀ v ∈ Batch.values (s.scriptOutcomes (s.surveyedRoot dir) r store found.scripts),
          ResourcePath.ofFile (s.surveyedRoot dir) v.1 ∈ result.graph.nodes.map (·.id)) := by
  have hanalysed : ∀ x ∈ s.scriptOutcomes (s.surveyedRoot dir) r store found.scripts,
      s.Analysed _ r _ x := analysed_scriptOutcomes found.scripts store
  have hscripts : ∀ v ∈ Batch.values (s.scriptOutcomes (s.surveyedRoot dir) r store found.scripts),
      v.2.IsWhole := by
    intro v hv
    exact (hanalysed _ (Batch.mem_values.1 hv)).isWhole hwhole
  have hscenes : ∀ v ∈ Batch.values (found.scenes.map (s.sceneOutcome (s.surveyedRoot dir))),
      v.2.outline.isSome ∧ v.2.path = ResourcePath.ofFile (s.surveyedRoot dir) v.1 := by
    intro v hv
    obtain ⟨path, -, hpath⟩ := List.mem_map.1 (Batch.mem_values.1 hv)
    exact outline_of_sceneOutcome hpath
  have haccounts := ProjectResult.ofOutcomes_accountsFor hscripts (fun v hv => (hscenes v hv).1)
    (s.surveyedRoot dir) r o found (files_scriptOutcomes found.scripts store)
    (files_sceneOutcomes found.scenes) (fun v hv => (hscenes v hv).2)
  refine ⟨_, project_run hscan hregistry o store, haccounts, ?_, ?_⟩
  · intro x hx cause
    exact (hanalysed x hx).error_iff hwhole cause
  · intro hnamed v hv
    rw [← (hanalysed _ (Batch.mem_values.1 hv)).path_eq hnamed]
    exact haccounts.script_nodes v hv

/-! ## A project with files of every kind -/

/-- A script, an empty one, a scene, and a scene without nodes. -/
def mixedEntries : List (Text × Entry) :=
  [("a.gd", .file "extends Node\n"), ("b.gd", .file ""),
    ("bad.tscn", .file "[gd_scene format=3]\n"), ("main.tscn", .file "[node name=\"Main\"]\n"),
    ("project.godot", .file "config_version=5\n")]

/-- A survey of that project, with a cache. -/
def mixedSurvey : Survey :=
  { smallSurvey with files := { root := .directory [("p", .directory mixedEntries)] } }

def mixedFound : FoundFiles where
  scripts := ["/p/a.gd", "/p/b.gd"]
  scenes := ["/p/bad.tscn", "/p/main.tscn"]

theorem scan_mixedSurvey : ∃ m, Scan.scanDirectory mixedSurvey.files mixedSurvey.config.exclude {}
    (mixedSurvey.surveyedRoot "/p") = .ok (mixedFound, m) := by
  have htree (enter : Text → Entry → Bool) : mixedSurvey.files.tree enter "/p" =
      FileSystem.visit enter "/p" (.directory mixedEntries) := by
    rw [FileSystem.tree, show mixedSurvey.files.lstat "/p" = .ok (.directory mixedEntries) from rfl]
    have hsort : FileSystem.sortTree (.directory mixedEntries) = .directory mixedEntries :=
      FileSystem.sortTree_of_pairwise rfl (by decide +kernel)
    simp only [hsort]
  have hroot : mixedSurvey.surveyedRoot "/p" = Text.ofString "/p" := by decide +kernel
  have hfound : (Scan.scanDirectory mixedSurvey.files mixedSurvey.config.exclude {}
      "/p").toOption.map (·.1) = some mixedFound := by
    rw [Scan.scanDirectory]
    simp only [htree]
    decide +kernel
  rw [hroot]
  cases hscan : Scan.scanDirectory mixedSurvey.files mixedSurvey.config.exclude {} "/p" with
  | error e =>
    rw [hscan] at hfound
    cases hfound
  | ok x =>
    obtain ⟨found, m⟩ := x
    rw [hscan] at hfound
    obtain rfl := Option.some.inj hfound
    exact ⟨m, rfl⟩

theorem servedScripts_mixedSurvey :
    mixedSurvey.servedScripts "/p" {} smallStore mixedFound.scripts = [] := by
  have hholds : smallStore.Holds ["c"] [] := ⟨by decide, rfl, by simp⟩
  have hread : (Source.read mixedSurvey.files "/p/b.gd").toOption = none := by decide +kernel
  show Option.toList _ ++ (Option.toList _ ++ []) = []
  rw [served?_of_empty rfl hholds rfl, served?, fileIn, hread]
  rfl

/-- Of two scripts and two scenes, one each is analysed, and the others are listed as errors. -/
theorem project_accounts_mixedSurvey : ∃ m result,
    Scan.scanDirectory mixedSurvey.files mixedSurvey.config.exclude {}
      (mixedSurvey.surveyedRoot "/p") = .ok (mixedFound, m) ∧
    mixedSurvey.registry (mixedSurvey.surveyedRoot "/p") = .ok {} ∧
    mixedSurvey.servedScripts (mixedSurvey.surveyedRoot "/p") {} smallStore mixedFound.scripts =
      [] ∧
    ((mixedSurvey.project "/p" {}).run smallStore).1 = .ok result ∧
    result.scriptCount + result.sceneCount = 4 ∧ result.stats.methods.count = 1 ∧
    result.scenes.length = 1 ∧ result.errors.length = 2 ∧
    Text.ofString "res://a.gd" ∈ result.graph.nodes.map (·.id) := by
  obtain ⟨m, hscan⟩ := scan_mixedSurvey
  have hroot : mixedSurvey.surveyedRoot "/p" = Text.ofString "/p" := by decide +kernel
  have hserved : mixedSurvey.servedScripts (mixedSurvey.surveyedRoot "/p") {} smallStore
      mixedFound.scripts = [] := by
    rw [hroot]
    exact servedScripts_mixedSurvey
  obtain ⟨result, hrun, haccounts, -, hnodes⟩ := project_accounts mixedSurvey "/p" {} smallStore
    hscan rfl (by rw [hserved]; simp)
  have hunnamed := hnodes (by rw [hserved]; simp)
  rw [scriptOutcomes_of_served_nil hserved, hroot] at haccounts hunnamed
  have hmethods : result.stats.methods.count = 1 :=
    haccounts.methods_count.trans (by decide +kernel)
  have hscenes : result.scenes.length = 1 := haccounts.scenes_length.trans (by decide +kernel)
  have hcounts : result.scriptCount + result.sceneCount = 4 := by
    rw [haccounts.script_count, haccounts.scene_count]
    rfl
  have hvalue : (Text.ofString "/p/a.gd", ScriptResult.ofContent mixedSurvey.config {}
      { dependencies := true } (ResourcePath.ofFile "/p" "/p/a.gd") "extends Node\n") ∈
        Batch.values (mixedFound.scripts.map fun path =>
          (path, mixedSurvey.plainOutcome "/p" {} path)) := by
    have hread : Source.read mixedSurvey.files "/p/a.gd" =
        .ok (Text.ofString "extends Node\n") := by
      rfl
    rw [Batch.mem_values]
    refine List.mem_map.2 ⟨"/p/a.gd", List.mem_cons_self, ?_⟩
    rw [plainOutcome, hread]
  have hname : ResourcePath.ofFile "/p" "/p/a.gd" = Text.ofString "res://a.gd" := by decide +kernel
  have htotal := haccounts.total
  exact ⟨m, result, hscan, rfl, hserved, hrun, hcounts, hmethods, hscenes, by omega,
    hname ▸ hunnamed _ hvalue⟩

/-! ## A script under another name -/

/-- After a script was asked for, the project that it is the first script of has a node under the
name by which it was asked for. -/
theorem node_after_script {ok : FileSystem → Prop} (he : s.cache.enabled = true)
    (hreliable : s.cache.Reliable ok) (hfresh : 0 ≤ s.cache.ttl) {store : FileSystem}
    (hok : ok store) {path content : Text} {t : Target} (hlocate : s.locate path = .ok t)
    (hregistry : s.registry t.root = .ok r) (hread : Source.read s.files t.path = .ok content)
    (hnew : s.served? r { dependencies := true } store t = none)
    (hsurvives : ResultCache.Survives (Blake3.hex content) s.now
      (.ofContent s.config r { dependencies := true } t.name content))
    {dir : Text} {found : FoundFiles} {m : Scan.Memory} {rest : List Text}
    (hscan : Scan.scanDirectory s.files s.config.exclude {} (s.surveyedRoot dir) = .ok (found, m))
    (hclasses : s.registry (s.surveyedRoot dir) = .ok r) (hfirst : found.scripts = t.path :: rest)
    (o : ProjectOptions) :
    ∃ result, ((s.project dir o).run
        ((s.script path { dependencies := true }).run store).2).1 = .ok result ∧
      t.name ∈ result.graph.nodes.map (·.id) := by
  refine ⟨_, project_run hscan hclasses o _, ?_⟩
  apply (ProjectResult.mem_nodes_graphOf _ _ _).1
    (.ofContent s.config r { dependencies := true } t.name content)
  refine List.mem_map.2 ⟨(t.path, _), Batch.mem_values.2 ?_, rfl⟩
  have hserved := served?_after_script he hreliable hfresh hok hlocate hregistry hread hnew
    hsurvives
  rw [hfirst, scriptOutcomes, SceneResult.run_mapM_cons]
  apply List.mem_cons.2
  left
  show _ = (t.path, ProjectResult.scriptOutcome ((s.scriptAt r { dependencies := true }
    (fileIn (s.surveyedRoot dir) t.path)).run _).1)
  rw [scriptAt_run_fst, fileIn, hserved, hread]
  rfl

end Survey

end GodotSurvey
