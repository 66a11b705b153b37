import GodotSurvey.Analysis.Stats
import GodotSurvey.Graph.Metrics
import GodotSurvey.Project.Batch
import GodotSurvey.Scan.Basic
import GodotSurvey.Survey.Scene

/-!
# Surveying a project

Every script and scene of a project is analysed, and the dependency graph is built from what they
refer to. A file that fails is listed with its error, and the rest of the project is reported all the
same.
-/

namespace GodotSurvey

/-- What is reported about a project. -/
structure ProjectOptions where
  /-- The results of the scripts are kept. -/
  scripts : Bool := false
  /-- Classes without a file are nodes of the graph. -/
  classNodes : Bool := false
  deriving DecidableEq, Repr

/-- One scene of a project in short. -/
structure SceneSummary where
  path : Text
  rootType : Text
  nodeCount : Nat
  attached : List NodeScript
  instances : List Text
  deriving DecidableEq, Repr

/-- The sizes of the scripts of a project. -/
structure ScriptStats where
  methods : Stats.Summary Float
  signals : Stats.Summary Float
  vars : Stats.Summary Float

/-- The result for a project. -/
structure ProjectResult where
  root : Text
  classSource : Text := []
  scriptCount : Nat := 0
  sceneCount : Nat := 0
  skipped : List Text := []
  insights : Insights := {}
  stats : ScriptStats
  scenes : List SceneSummary := []
  scripts : List ScriptResult := []
  errors : List Batch.Failed := []
  graph : Graph := {}
  metrics : Graph.Metrics := {}

namespace ScriptStats

/-- The sizes of the given scripts. -/
def ofDecls (decls : List ScriptDecl) : ScriptStats :=
  let sizes := fun (size : ScriptDecl → Nat) => Stats.summarizeInts (decls.map fun d => (size d : Int))
  { methods := sizes (·.methods.length)
    signals := sizes (·.signals.length)
    vars := sizes (·.allVariables.length) }

end ScriptStats

/-- The summary of a scene, if that was analysed. -/
def SceneSummary.of? (r : SceneResult) : Option SceneSummary :=
  r.outline.map fun o => {
    path := r.path
    rootType := o.rootType
    nodeCount := o.nodeCount
    attached := r.attached
    instances := Scene.instances o.tree }

namespace ProjectResult

/-- The graph of scripts and scenes. -/
def graphOf (resolution : Graph.Resolution) (scripts : List ScriptResult)
    (scenes : List SceneSummary) : Graph :=
  let withScripts := scripts.foldl (fun g r =>
    let decl := r.decl.getD {}
    g.addScript resolution r.path decl.className decl.dependencies) ({} : Graph)
  (scenes.foldl (fun g s => g.addScene s.path (s.attached.map (·.scriptPath)) s.instances)
    withScripts).sorted

/-- The outcome of a script: its result, or the error it has. -/
def scriptOutcome (r : ScriptResult) : Except Text ScriptResult :=
  if r.failed then .error r.error else .ok r

/-- The outcome of a scene. -/
def sceneOutcome (r : SceneResult) : Except Text SceneResult :=
  if r.failed then .error r.error else .ok r

/-- The failures of scripts and scenes under their `res://` paths, sorted by path. -/
def errorsOf (root : Text) (failures : List Batch.Failed) : List Batch.Failed :=
  (failures.map fun f => { f with path := ResourcePath.ofFile root f.path }).mergeSort
    fun a b => Text.le a.path b.path

/-- The result for the project at `root` with these files and outcomes. -/
def ofOutcomes (root : Text) (r : Registry) (o : ProjectOptions) (found : FoundFiles)
    (scriptOutcomes : List (Text × Except Text ScriptResult))
    (sceneOutcomes : List (Text × Except Text SceneResult)) : ProjectResult :=
  let scripts := (Batch.values scriptOutcomes).map (·.2)
  let scenes := (Batch.values sceneOutcomes).filterMap fun (_, s) => SceneSummary.of? s
  let graph := graphOf { registry := r, classNodes := o.classNodes } scripts scenes
  { root
    classSource := r.source
    scriptCount := found.scripts.length
    sceneCount := found.scenes.length
    skipped := found.skipped.map (ResourcePath.ofFile root)
    insights := Insights.mergeAll (scripts.filterMap SceneResult.contribution?)
    stats := ScriptStats.ofDecls (scripts.filterMap (·.decl))
    scenes
    scripts := if o.scripts then scripts else []
    errors := errorsOf root (Batch.failures scriptOutcomes ++ Batch.sortedFailures sceneOutcomes)
    graph
    metrics := graph.metrics }

end ProjectResult

namespace Survey

/-- The outcome of a script of the project at `root`. -/
def scriptOutcome (s : Survey) (root : Text) (r : Registry) (path : Text) :
    Caching (Text × Except Text ScriptResult) := do
  let result ← s.scriptAt r { dependencies := true } (fileIn root path)
  return (path, ProjectResult.scriptOutcome result)

/-- The outcome of a scene of the project at `root`; its scripts are not analysed again. -/
def sceneOutcome (s : Survey) (root path : Text) : Text × Except Text SceneResult :=
  match Source.read s.files path with
  | .error e => (path, .error e.message)
  | .ok content =>
    let options : SceneOptions := { properties := false, scriptInsights := false }
    (path, ProjectResult.sceneOutcome (.ofContent options (fileIn root path).name content))

/-- The result for the project that contains a directory. -/
def project (s : Survey) (dir : Text) (o : ProjectOptions) :
    Caching (Except SurveyError ProjectResult) :=
  let absolute := s.files.absolute dir
  let root := (s.projectRoot? absolute).getD absolute
  match Scan.scanDirectory s.files s.config.exclude {} root with
  | .error e => return .error (.scan root e)
  | .ok (found, _) =>
    match s.registry root with
    | .error e => return .error e
    | .ok r => do
      let scripts ← found.scripts.mapM (s.scriptOutcome root r)
      return .ok (.ofOutcomes root r o found scripts (found.scenes.map (s.sceneOutcome root)))

end Survey

/-! ## Documents -/

open Document

def SceneSummary.document (s : SceneSummary) : Document :=
  ofFields [field "scene_path" (.text s.path), textField "root_type" s.rootType,
    field "node_count" (nat s.nodeCount),
    field "scripts" (.list (s.attached.map NodeScript.document)),
    listField "instances" (s.instances.map .text)]

def ScriptStats.document (s : ScriptStats) : Document :=
  ofFields [field "methods" s.methods.document, field "signals" s.signals.document,
    field "variables" s.vars.document]

def ProjectResult.document (r : ProjectResult) : Document :=
  ofFields [field "root" (.text r.root), textField "class_source" r.classSource,
    field "script_count" (nat r.scriptCount), field "scene_count" (nat r.sceneCount),
    listField "skipped" (r.skipped.map .text), field "insights" r.insights.document,
    field "stats" r.stats.document, field "scenes" (.list (r.scenes.map SceneSummary.document)),
    listField "scripts" (r.scripts.map ScriptResult.document),
    listField "errors" (r.errors.map fun e =>
      ofFields [field "path" (.text e.path), field "error" (.text e.cause)]),
    field "metrics" r.metrics.document]

end GodotSurvey
