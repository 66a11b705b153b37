import GodotSurvey.Analysis.ScriptResult
import GodotSurvey.Report.Basic

/-!
# Reports on scripts
-/

namespace GodotSurvey.Report

/-- Several texts in a cell or line; a dash stands for none. -/
def listed (items : List Text) : Text := if items.isEmpty then "-" else Text.join ", " items

/-- The text, or a dash. -/
def orDash (s : Text) : Text := if s.isEmpty then "-" else s

/-- A passage of plain lines. -/
def linesPassage (title : Text) (lines : List Text) : Report :=
  .passage (.mk title (Text.join "\n" lines) [] [] none)

/-- The passage that stands for a result with an error. -/
def errorPassage (path error : Text) : Report := linesPassage "Error" [path ++ ": " ++ error]

/-- A table that is left out if it has no rows. -/
def optionalTable (title : Text) (headers : List Text) (rows : List (List Text))
    (footer : List Text) : List Report :=
  if rows.isEmpty then [] else [.table { title, headers, rows, footer }]

/-! ## Sections -/

/-- A parameter as it is declared. -/
def parameterText (p : Parameter) : Text :=
  p.name ++ Text.onlyIf (!p.type.isEmpty && p.type != inferredType) (": " ++ p.type)
    ++ Text.onlyIf (!p.default.isEmpty) (" = " ++ p.default)

/-- A parameter list as it is declared. -/
def parametersText (ps : List Parameter) : Text := Text.join ", " (ps.map parameterText)

def variableKind (v : VariableDecl) : Text :=
  if v.isExport then "export" else if v.isConstant then "const"
  else if v.isOnready then "onready" else "var"

def overview (d : ScriptDecl) (c : Option Behavior.Context) : Report :=
  let behavior := match c with
    | none => []
    | some c => [
      "Complexity: " ++ c.insights.complexity.name,
      "Patterns:   " ++ listed c.insights.patterns,
      "Lifecycle:  " ++ listed c.insights.lifecycleMethods,
      "Handlers:   " ++ listed c.eventHandlers]
  linesPassage "Overview"
    (["Class:   " ++ orDash d.className, "Extends: " ++ orDash d.base] ++ behavior)

def signalTable (d : ScriptDecl) : Report :=
  .table {
    title := "Signals"
    headers := ["Signal", "Parameters", "Line"]
    rows := d.signals.map fun s => [s.name, parametersText s.parameters, Text.ofNat s.line]
    notice := "No signals declared" }

def variableRow (v : VariableDecl) : List Text :=
  [v.name, variableKind v, v.type, v.default, Text.ofNat v.line]

def methodRow (m : MethodSummary) : List Text :=
  [m.name, Text.ofNat m.line, listed m.internalCalls, listed m.externalCalls,
    Text.ofNat m.builtinCalls.length, listed m.signalsEmitted]

def methodTable (ms : List MethodSummary) : List Report :=
  optionalTable "Methods" ["Method", "Line", "Internal", "External", "Builtin", "Emits"]
    (ms.map methodRow) ["Methods: " ++ Text.ofNat ms.length]

def dependencyRow (d : Dependency) : List Text :=
  let resolved := !d.resolvedPath.isEmpty && d.resolvedPath != d.target
  [d.kind.name, d.target ++ Text.onlyIf resolved (" -> " ++ d.resolvedPath), Text.ofNat d.line]

def interactionPassage (x : Interactions) : Report :=
  linesPassage "Scene Interactions" [
    "Node queries:       " ++ listed x.nodeQueries,
    "Tree manipulation:  " ++ listed x.treeManipulation,
    "Scene loading:      " ++ listed x.sceneLoading,
    "Calls down:         " ++ listed x.downward,
    "Signals up:         " ++ listed x.upward,
    "Signal connections: " ++ Text.ofNat x.connections.length]

def flowPassage (f : Behavior.Flows) : Report :=
  linesPassage "Flows" [
    "Entry points:         " ++ listed f.entryPoints,
    "Call flows:           " ++ listed (f.callFlows.map fun e => e.caller ++ " -> " ++ e.callee),
    "Unused signals:       " ++ listed f.unusedSignals,
    "Undeclared emissions: " ++ listed f.undeclaredEmissions]

/-! ## The report -/

/-- The sections of a report on a script that was analysed. -/
def scriptSections (r : ScriptResult) (d : ScriptDecl) : List Report :=
  [overview d r.context, signalTable d]
    ++ optionalTable "Variables" ["Name", "Kind", "Type", "Default", "Line"]
        (d.allVariables.map variableRow) []
    ++ methodTable ((r.analysis.map (·.summaries)).getD [])
    ++ optionalTable "Dependencies" ["Kind", "Target", "Line"] (d.dependencies.map dependencyRow) []
    ++ (r.analysis.map fun a => interactionPassage a.interactions).toList
    ++ (r.flows.map flowPassage).toList

/-- The report on a script. -/
def ofScript (r : ScriptResult) : Report :=
  let sections := match r.failed, r.decl with
    | false, some d => scriptSections r d
    | _, _ => [errorPassage r.path r.error]
  .compound ("Script: " ++ r.path) sections (some r.document)

end GodotSurvey.Report
