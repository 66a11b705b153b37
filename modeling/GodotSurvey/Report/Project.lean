import GodotSurvey.Decimal.Shortest
import GodotSurvey.Graph.Mermaid
import GodotSurvey.Report.Scene
import GodotSurvey.Survey.Classes
import GodotSurvey.Survey.Project

/-!
# Reports on projects

A project as a whole, its dependency graph, and its classes.
-/

namespace GodotSurvey.Report

/-! ## Graphs -/

/-- How many nodes a graph summary lists. -/
def topRanked : Nat := 5

def nodeMetricLine (m : Graph.NodeMetric) : Text :=
  "  " ++ m.name ++ ": " ++ Decimal.fixed 4 m.rank ++ " (in: " ++ Text.ofNat m.inDegree ++ ", out: "
    ++ Text.ofNat m.outDegree ++ ")"

/-- The nodes of highest rank. -/
def topNodes (ms : List Graph.NodeMetric) : List Graph.NodeMetric :=
  (ms.mergeSort fun a b => a.rank ≥ b.rank).take topRanked

/-- The numbers of a graph, its cycles and its nodes of highest rank. -/
def graphPassage (m : Graph.Metrics) : Report :=
  let s := m.summary
  let top := (topNodes m.nodes).map nodeMetricLine
  linesPassage "Dependency Graph"
    (["Nodes: " ++ Text.ofNat s.totalNodes, "Edges: " ++ Text.ofNat s.totalEdges,
      "Avg degree: " ++ Decimal.fixed 2 s.averageDegree,
      "Density: " ++ Decimal.fixed 4 s.density,
      "Components: " ++ Text.ofNat s.components ++ " (largest " ++ Text.ofNat s.largestComponent
        ++ ")",
      "Cycles: " ++ Text.ofNat s.cycles.length]
      ++ s.cycles.map (fun c => "  " ++ Text.join " -> " c)
      ++ if top.isEmpty then [] else [] :: Text.ofString "Top nodes by PageRank:" :: top)

open Document in
/-- The report on a graph: its diagram, and its metrics if they are given. -/
def ofGraph (g : Graph) (metrics : Option Graph.Metrics) (o : Mermaid.Options) : Report :=
  let diagram := Mermaid.render o g
  .compound [] (.passage (.mk [] diagram "mermaid" [] none) :: (metrics.map graphPassage).toList)
    (some (ofFields [field "graph" g.document, field "mermaid" (.text diagram),
      optionalField "metrics" (metrics.map Graph.Metrics.document)]))

/-! ## Projects -/

def projectSummary (r : ProjectResult) : Report :=
  let skipped : List Text :=
    if r.skipped.isEmpty then [] else ["Skipped: " ++ Text.ofNat r.skipped.length]
  let insights : List Text :=
    ["Complexity:      " ++ r.insights.complexity.name,
      "Patterns:        " ++ listed r.insights.patterns,
      "Event handlers:  " ++ Text.ofNat r.insights.eventHandlerCount,
      "Signals defined: " ++ listed r.insights.signalsDefined,
      "Signals emitted: " ++ listed r.insights.signalsEmitted]
  linesPassage "Summary"
    (["Scripts: " ++ Text.ofNat r.scriptCount, "Scenes:  " ++ Text.ofNat r.sceneCount,
      "Errors:  " ++ Text.ofNat r.errors.length, "Classes: " ++ orDash r.classSource]
      ++ skipped ++ [] :: insights)

def sceneTable (scenes : List SceneSummary) : Report :=
  .table {
    title := "Scenes"
    headers := ["Scene", "Root", "Nodes", "Scripts", "Instances"]
    rows := scenes.map fun s => [s.path, orDash s.rootType, Text.ofNat s.nodeCount,
      Text.ofNat s.attached.length, listed s.instances]
    notice := "No scenes found" }

def scriptRow (r : ScriptResult) : List Text :=
  let d := r.decl.getD {}
  [r.path, orDash d.className, orDash d.base, Text.ofNat d.methods.length,
    Text.ofNat d.signals.length, ((r.context.map (·.insights.complexity.name)).getD [])]

def sizeRow (name : Text) (s : Stats.Summary Float) : List Text :=
  name :: [s.total, s.mean, s.p50, s.p90, s.max].map Decimal.plainOfFloat

def sizeTable (s : ScriptStats) : List Report :=
  if s.methods.count == 0 then []
  else optionalTable "Script sizes" ["Per script", "Total", "Mean", "P50", "P90", "Max"]
    [sizeRow "Methods" s.methods, sizeRow "Signals" s.signals, sizeRow "Variables" s.vars] []

/-- The report on a project; the errors of its files are counted, and listed if asked for. -/
def ofProject (r : ProjectResult) (verbose : Bool) : Report :=
  let errors := if verbose then r.errors.map fun e => [e.path, e.cause] else []
  .compound ("Project: " ++ r.root)
    ([projectSummary r, sceneTable r.scenes]
      ++ optionalTable "Scripts" ["Script", "Class", "Extends", "Methods", "Signals", "Complexity"]
          (r.scripts.map scriptRow) []
      ++ sizeTable r.stats ++ [graphPassage r.metrics]
      ++ optionalTable "Errors" ["File", "Error"] errors [])
    (some r.document)

/-! ## Classes -/

def classRow (c : ListedClass) : List Text :=
  [c.declared.name, if c.declared.autoload then "autoload" else "class", orDash c.declared.base,
    orDash c.engineBase, c.declared.path]

/-- The report on the classes of a project. -/
def ofClasses (l : ClassList) : Report :=
  let autoloads := (l.classes.filter (·.declared.autoload)).length
  .table {
    title := "Classes (" ++ l.source ++ ")"
    headers := ["Name", "Kind", "Base", "Engine base", "Path"]
    rows := l.classes.map classRow
    footer := ["Classes: " ++ Text.ofNat (l.classes.length - autoloads),
      "Autoloads: " ++ Text.ofNat autoloads, "", "", ""]
    notice := "No global classes registered"
    data := some l.document }

end GodotSurvey.Report
