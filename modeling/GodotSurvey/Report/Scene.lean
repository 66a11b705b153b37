import GodotSurvey.Report.Script
import GodotSurvey.Scene.Drawing
import GodotSurvey.Survey.Scene

/-!
# Reports on scenes
-/

namespace GodotSurvey.Report

/-- The structure of a scene with a drawing of its tree. -/
def hierarchyPassage (r : SceneResult) (o : SceneOutline) : Report :=
  let summary : Text := "Root: " ++ o.rootName ++ " (" ++ orDash o.rootType ++ "), "
    ++ Text.ofNat o.nodeCount ++ " nodes, " ++ Text.ofNat o.extResources.length
    ++ " external resources, " ++ Text.ofNat o.subResourceCount ++ " sub-resources\n\n"
  .passage (.mk "Hierarchy" (summary ++ o.tree.draw (Scene.scriptsByNode r.attached)) "text" [] none)

/-- What became of an attached script. -/
def scriptStatus : Option ScriptResult → Text
  | none => "-"
  | some r =>
    if r.failed then "failed"
    else match r.context with
      | some c => c.insights.complexity.name
      | none => "ok"

def attachedTable (r : SceneResult) : Report :=
  .table {
    title := "Scripts"
    headers := ["Node", "Script", "Status"]
    rows := r.attached.map fun a =>
      [a.nodePath, a.scriptPath, scriptStatus (r.scripts.lookup a.scriptPath)]
    notice := "No scripts attached" }

def unresolvedTable (us : List UnresolvedScript) : List Report :=
  optionalTable "Unresolved Scripts" ["Node", "Reference", "Reason"]
    (us.map fun u => [u.nodePath, u.reference, u.reason.message]) []

def sceneInsightsPassage (i : SceneInsights) : Report :=
  linesPassage "Insights" [
    "Scripts:         " ++ Text.ofNat i.scripts.length ++ " (" ++ Text.ofNat i.failedScripts
      ++ " failed)",
    "Complexity:      " ++ i.insights.complexity.name,
    "Patterns:        " ++ listed i.insights.patterns,
    "Lifecycle:       " ++ listed i.insights.lifecycleMethods,
    "Event handlers:  " ++ Text.ofNat i.insights.eventHandlerCount,
    "Signals defined: " ++ listed i.insights.signalsDefined,
    "Signals emitted: " ++ listed i.insights.signalsEmitted]

def connectionRow (c : Connection) : List Text := [c.signal, c.source, c.target, c.method]

def connectionHeaders : List Text := ["Signal", "From", "To", "Method"]

/-- The connections of a scene, with their handlers if scripts were analysed. -/
def connectionTable (o : SceneOutline) : Option SceneInsights → List Report
  | some i => optionalTable "Connections" (connectionHeaders ++ [Text.ofString "Handler"])
      (i.flows.map fun f => connectionRow f.connection ++ [Style.mark false f.handlerFound]) []
  | none => optionalTable "Connections" connectionHeaders (o.connections.map connectionRow) []

/-- The errors of the attached scripts. -/
def scriptErrors (scripts : List (Text × ScriptResult)) : List Report :=
  let errors := (scripts.filter fun s => s.2.failed).map fun (path, r) => path ++ ": " ++ r.error
  if errors.isEmpty then [] else [linesPassage "Script Errors" (Text.sort errors)]

/-- The sections of a report on a scene that was analysed. -/
def sceneSections (r : SceneResult) (o : SceneOutline) : List Report :=
  [hierarchyPassage r o, attachedTable r] ++ unresolvedTable r.unresolved
    ++ (r.insights.map sceneInsightsPassage).toList ++ connectionTable o r.insights
    ++ scriptErrors r.scripts

/-- The report on a scene. -/
def ofScene (r : SceneResult) : Report :=
  let sections := match r.failed, r.outline with
    | false, some o => sceneSections r o
    | _, _ => [errorPassage r.path r.error]
  .compound ("Scene: " ++ r.path) sections (some r.document)

end GodotSurvey.Report
