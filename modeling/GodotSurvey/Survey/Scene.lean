import GodotSurvey.Scene.Attachment
import GodotSurvey.Survey.Script

/-!
# Surveying a scene

A scene is read, its nodes are put into a tree, and the scripts attached to them are analysed. The
insights of a scene are those of its scripts taken together; a script that fails is counted and adds
nothing. A signal connection is joined with the script of the node it leads to.
-/

namespace GodotSurvey

/-- What is reported about a scene. -/
structure SceneOptions where
  properties : Bool := true
  connections : Bool := true
  scriptInsights : Bool := true
  /-- The attached scripts are analysed with their dependencies. -/
  dependencies : Bool := false
  /-- How far below the root nodes are reported and scripts looked for; 0 means without limit. -/
  maxDepth : Int := 0
  deriving DecidableEq, Repr

/-- The options that the settings ask for. -/
def SceneOptions.ofConfig (c : Config) : SceneOptions where
  properties := c.analysis.includeProperties
  connections := c.analysis.includeConnections
  scriptInsights := c.analysis.includeScriptInsights
  dependencies := c.analysis.includeDependencies
  maxDepth := c.analysis.maxDepth

/-- The scene file that is read with these options. -/
def SceneOptions.file (o : SceneOptions) (content : Text) : SceneFile :=
  Scene.parse content { properties := o.properties, connections := o.connections }

/-- The structure of a scene. -/
structure SceneOutline where
  rootName : Text
  rootType : Text
  nodeCount : Nat
  tree : NodeTree
  connections : List Connection
  extResources : List ExtResource
  subResourceCount : Nat

/-- A connection together with the script it leads to, and whether that has the method. -/
structure ConnectionFlow where
  connection : Connection
  targetScript : Text
  handlerFound : Bool
  deriving DecidableEq, Repr

/-- What the scripts of a scene do, taken together. -/
structure SceneInsights where
  insights : Insights := {}
  failedScripts : Nat := 0
  attached : List NodeScript := []
  scripts : List Text := []
  flows : List ConnectionFlow := []
  deriving DecidableEq, Repr

/-- The number of scripts. -/
def SceneInsights.scriptCount (i : SceneInsights) : Nat := i.scripts.length

/-- The result for one scene. A failed one has an error and no outline. -/
structure SceneResult where
  path : Text := []
  outline : Option SceneOutline := none
  scripts : List (Text × ScriptResult) := []
  attached : List NodeScript := []
  insights : Option SceneInsights := none
  unresolved : List UnresolvedScript := []
  error : Text := []

namespace SceneResult

/-- The result of a scene that could not be analysed. -/
def failure (path error : Text) : SceneResult := { path, error }

def failed (r : SceneResult) : Bool := !r.error.isEmpty

/-! ## The scene itself -/

/-- The result for a scene of that content, before its scripts are analysed. -/
def ofContent (o : SceneOptions) (name content : Text) : SceneResult :=
  let f := o.file content
  let t := Scene.hierarchy f.nodes
  match t.root with
  | none =>
    let e : AnalysisError := ⟨.invalidStructure, name, some "scene declares no root node"⟩
    .failure name e.message
  | some root =>
    let refs := Scene.attachments f (Scene.searched root t.orphans o.maxDepth)
    { path := name
      outline := some {
        rootName := root.decl.name
        rootType := root.decl.type
        nodeCount := f.nodes.length
        tree := if 0 < o.maxDepth then root.truncate o.maxDepth.toNat else root
        connections := f.connections
        extResources := f.extResources
        subResourceCount := f.subResources.length }
      attached := Scene.attached refs
      unresolved := Scene.unresolved refs }

/-- The scripts attached in a scene, each once. -/
def uniqueScripts (r : SceneResult) : List Text := Text.dedup (r.attached.map (·.scriptPath))

/-! ## Its scripts -/

/-- What a script result adds to the insights of a scene. -/
def contribution? (r : ScriptResult) : Option Insights :=
  if r.failed then none else r.context.map (·.insights)

/-- A connection, joined with the script of the node it leads to. -/
def connectionFlow (attached : List NodeScript) (scripts : List (Text × ScriptResult))
    (c : Connection) : ConnectionFlow :=
  let target := ((Scene.scriptsByNode attached).lookup c.target).getD []
  { connection := c
    targetScript := target
    handlerFound := match scripts.lookup target with
      | none => false
      | some r => !r.failed && r.decl.any (·.hasMethod c.method) }

/-- The insights of a scene whose scripts have these results. -/
def insightsOf (r : SceneResult) (scripts : List (Text × ScriptResult)) : SceneInsights :=
  let contributions := scripts.filterMap fun (_, s) => contribution? s
  { insights := Insights.mergeAll contributions
    failedScripts := scripts.length - contributions.length
    attached := r.attached
    scripts := scripts.map (·.1)
    flows := (r.outline.map (·.connections)).getD [] |>.map (connectionFlow r.attached scripts) }

/-- The result with those of its scripts. -/
def withScripts (r : SceneResult) (scripts : List (Text × ScriptResult)) : SceneResult :=
  { r with scripts, insights := some (r.insightsOf scripts) }

/-- The result for a scene of that content; its scripts are analysed, each once, if their insights
are asked for. -/
def analysedBy {m : Type → Type} [Monad m] (analyse : Text → m ScriptResult) (o : SceneOptions)
    (name content : Text) : m SceneResult := do
  let scene := ofContent o name content
  if scene.failed || !o.scriptInsights then return scene
  let scripts ← scene.uniqueScripts.mapM fun path => do return (path, ← analyse path)
  return scene.withScripts scripts

end SceneResult

namespace Survey

/-- The result for a script that is attached in a scene of the project at `root`. -/
def attachedScript (s : Survey) (root : Text) (r : Registry) (o : ScriptOptions) (path : Text) :
    Caching ScriptResult :=
  match locateIn root path with
  | .error e => return .failure path e.message
  | .ok t => s.scriptAt r o t

/-- The result for a scene of known content. -/
def sceneOf (s : Survey) (r : Registry) (o : SceneOptions) (t : Target) (content : Text) :
    Caching SceneResult :=
  let scripts : ScriptOptions := { dependencies := o.dependencies }
  SceneResult.analysedBy (s.attachedScript t.root r scripts) o t.name content

/-- The result for the scene at a path. -/
def scene (s : Survey) (path : Text) (o : SceneOptions) : Caching SceneResult :=
  match s.locate path with
  | .error e => return .failure path e.message
  | .ok t =>
    match Source.read s.files t.path with
    | .error e => return .failure t.name e.message
    | .ok content =>
      match s.registry t.root with
      | .error e => return .failure t.name e.message
      | .ok r => s.sceneOf r o t content

end Survey

/-! ## Documents -/

open Document

def SceneOutline.document (o : SceneOutline) : Document :=
  ofFields [field "root_name" (.text o.rootName), textField "root_type" o.rootType,
    field "node_count" (nat o.nodeCount), field "hierarchy" o.tree.document,
    listField "connections" (o.connections.map Connection.document),
    field "ext_resources" (extResourcesDocument o.extResources),
    field "sub_resource_count" (nat o.subResourceCount)]

def ConnectionFlow.document (f : ConnectionFlow) : Document :=
  ofFields [field "signal" (.text f.connection.signal), field "from" (.text f.connection.source),
    field "to" (.text f.connection.target), field "method" (.text f.connection.method),
    textField "target_script" f.targetScript, field "handler_found" (.bool f.handlerFound)]

def SceneInsights.document (i : SceneInsights) : Document :=
  ofFields [i.insights.embeddedField, field "script_count" (nat i.scriptCount),
    field "failed_scripts" (nat i.failedScripts),
    field "node_script_mapping" (.list (i.attached.map NodeScript.document)),
    field "unique_scripts" (texts i.scripts),
    listField "connection_flows" (i.flows.map ConnectionFlow.document)]

def SceneResult.document (r : SceneResult) : Document :=
  let scripts := r.scripts.map fun (path, s) => (path, s.document)
  ofFields [field "scene_path" (.text r.path),
    field "structure" ((r.outline.map SceneOutline.document).getD .null),
    optionalField "script_insights" (if scripts.isEmpty then none else some (sortedRecord scripts)),
    field "node_script_mapping"
      (if r.outline.isNone then .missingList else .list (r.attached.map NodeScript.document)),
    optionalField "scene_insights" (r.insights.map SceneInsights.document),
    listField "unresolved_scripts" (r.unresolved.map UnresolvedScript.document),
    textField "error" r.error]

end GodotSurvey
