import GodotSurvey.Analysis.Interaction
import GodotSurvey.Json.Decode

/-!
# Results of script analyses

What is known of one script after its analysis, or why the analysis failed. A result can be written
as data and read back.
-/

namespace GodotSurvey

/-- The result for one script. A failed one has an error and none of the sections. -/
structure ScriptResult where
  path : Text := []
  decl : Option ScriptDecl := none
  analysis : Option BehaviorAnalysis := none
  context : Option Behavior.Context := none
  flows : Option Behavior.Flows := none
  fingerprint : Text := []
  error : Text := []
  deriving DecidableEq, Repr

namespace ScriptResult

/-- The result of a script that could not be analysed. -/
def failure (path error : Text) : ScriptResult := { path, error }

def failed (r : ScriptResult) : Bool := !r.error.isEmpty

open Document in
def document (r : ScriptResult) : Document :=
  ofFields [field "script_path" (.text r.path),
    field "structure" ((r.decl.map ScriptDecl.document).getD .null),
    optionalField "behavioral_analysis" (r.analysis.map BehaviorAnalysis.document),
    optionalField "behavioral_context" (r.context.map Behavior.Context.document),
    optionalField "behavioral_flows" (r.flows.map Behavior.Flows.document),
    textField "fingerprint" r.fingerprint, textField "error" r.error]

end ScriptResult

/-! ## Reading back -/

open Json (Value Members)

def Parameter.ofValue? : Value → Option Parameter :=
  Value.record? fun ms => do
    return { name := ← (ms.get "name").text?, type := ← (ms.get "type").text?
             default := ← (ms.get "default").text? }

def SignalDecl.ofValue? : Value → Option SignalDecl :=
  Value.record? fun ms => do
    return { name := ← (ms.get "name").text?
             parameters := ← (ms.get "parameters").list? Parameter.ofValue?
             line := ← (ms.get "line_number").nat? }

def VariableDecl.ofValue? : Value → Option VariableDecl :=
  Value.record? fun ms => do
    return { name := ← (ms.get "name").text?, type := ← (ms.get "type").text?
             default := ← (ms.get "default_value").text?
             isExport := ← (ms.get "is_export").bool?
             isConstant := ← (ms.get "is_constant").bool?
             isOnready := ← (ms.get "is_onready").bool?
             scope := VariableScope.ofName (← (ms.get "scope").text?)
             line := ← (ms.get "line_number").nat?
             annotations := ← (ms.get "annotations").texts? }

def MethodDecl.ofValue? : Value → Option MethodDecl :=
  Value.record? fun ms => do
    return { name := ← (ms.get "name").text?
             parameters := ← (ms.get "parameters").list? Parameter.ofValue?
             returnType := ← (ms.get "return_type").text?
             line := ← (ms.get "line_number").nat?
             isStatic := ← (ms.get "is_static").bool? }

def SignalEmission.ofValue? : Value → Option SignalEmission :=
  Value.record? fun ms => do
    return { method := ← (ms.get "method").text?, signal := ← (ms.get "signal").text?
             line := ← (ms.get "line").nat? }

def Dependency.ofValue? : Value → Option Dependency :=
  Value.record? fun ms => do
    let metadata : Members ← (ms.get "metadata").members?
    return { target := ← (ms.get "target").text?
             kind := DependencyKind.ofName (← (ms.get "kind").text?)
             resolvedPath := ← (ms.get "resolved_path").text?
             resourceType := ← (metadata.get "resource_type").text?
             sourceLine := ← (ms.get "source_line").text?
             line := ← (ms.get "line_number").nat? }

def ScriptDecl.ofValue? : Value → Option ScriptDecl :=
  Value.record? fun ms => do
    return { className := ← (ms.get "class_name").text?, base := ← (ms.get "extends").text?
             signals := ← (ms.get "signals").list? SignalDecl.ofValue?
             exports := ← (ms.get "exports").list? VariableDecl.ofValue?
             vars := ← (ms.get "variables").list? VariableDecl.ofValue?
             methods := ← (ms.get "methods").list? MethodDecl.ofValue?
             dependencies := ← (ms.get "dependencies").list? Dependency.ofValue?
             emissions := ← (ms.get "signal_emissions").list? SignalEmission.ofValue? }

def CallRecord.ofValue? : Value → Option CallRecord :=
  Value.record? fun ms => do
    return { method := ← (ms.get "method_name").text?, object := ← (ms.get "object").text?
             kind := CallKind.ofName (← (ms.get "call_type").text?)
             line := ← (ms.get "line_number").nat?, text := ← (ms.get "line").text? }

def MethodSummary.ofValue? : Value → Option MethodSummary :=
  Value.record? fun ms => do
    return { name := ← (ms.get "name").text?, line := ← (ms.get "line_number").nat?
             parameters := ← (ms.get "parameters").list? Parameter.ofValue?
             returnType := ← (ms.get "return_type").text?
             internalCalls := ← (ms.get "internal_calls").texts?
             externalCalls := ← (ms.get "external_calls").texts?
             builtinCalls := ← (ms.get "builtin_calls").texts?
             signalsEmitted := ← (ms.get "signals_emitted").texts?
             calls := ← (ms.get "calls").list? CallRecord.ofValue? }

def SignalConnection.ofValue? : Value → Option SignalConnection :=
  Value.record? fun ms => do
    return { source := ← (ms.get "source").text?, signal := ← (ms.get "signal").text?
             handler := ← (ms.get "handler").text?, method := ← (ms.get "method").text?
             line := ← (ms.get "line").nat? }

def Interactions.ofValue? : Value → Option Interactions :=
  Value.record? fun ms => do
    return { nodeQueries := ← (ms.get "node_queries").texts?
             treeManipulation := ← (ms.get "tree_manipulation").texts?
             sceneLoading := ← (ms.get "scene_loading").texts?
             downward := ← (ms.get "downward_communication").texts?
             upward := ← (ms.get "upward_communication").texts?
             connections := ← (ms.get "signal_connections").list? SignalConnection.ofValue? }

def BehaviorAnalysis.ofValue? : Value → Option BehaviorAnalysis :=
  Value.record? fun ms => do
    return { patternCount := ← (ms.get "pattern_count").nat?
             signalCount := ← (ms.get "signal_count").nat?
             variableCount := ← (ms.get "variable_count").nat?
             summaries := ← (ms.get "method_summaries").list? MethodSummary.ofValue?
             interactions := ← Interactions.ofValue? (ms.get "scene_interactions") }

def VariableCounts.ofValue? : Value → Option VariableCounts :=
  Value.record? fun ms => do
    return { exported := ← (ms.get "exported").nat?, onready := ← (ms.get "onready").nat?
             constant := ← (ms.get "constant").nat?, regular := ← (ms.get "regular").nat? }

/-- The insights among the members of a larger record. -/
def Insights.ofMembers? (ms : Members) : Option Insights := do
  return { patterns := ← (ms.get "patterns").texts?
           lifecycleMethods := ← (ms.get "lifecycle_methods").texts?
           eventHandlerCount := ← (ms.get "event_handler_count").nat?
           signalsDefined := ← (ms.get "signals_defined").texts?
           signalsEmitted := ← (ms.get "signals_emitted").texts?
           variableCounts := ← VariableCounts.ofValue? (ms.get "variable_type_counts")
           complexity := Complexity.ofName (← (ms.get "complexity").text?) }

namespace Behavior

def Context.ofValue? : Value → Option Context :=
  Value.record? fun ms => do
    return { insights := ← Insights.ofMembers? ms
             eventHandlers := ← (ms.get "event_handlers").texts?
             exportedProperties := ← (ms.get "exported_properties").texts?
             stateVariables := ← (ms.get "state_variables").texts? }

def SignalFlow.ofValue? : Value → Option SignalFlow :=
  Value.record? fun ms => do
    return { signal := ← (ms.get "signal").text?, declared := ← (ms.get "declared").bool?
             emitters := ← (ms.get "emitters").texts? }

def CallEdge.ofValue? : Value → Option CallEdge :=
  Value.record? fun ms => do
    return { caller := ← (ms.get "from").text?, callee := ← (ms.get "to").text? }

def Flows.ofValue? : Value → Option Flows :=
  Value.record? fun ms => do
    return { signalFlows := ← (ms.get "signal_flows").list? SignalFlow.ofValue?
             callFlows := ← (ms.get "call_flows").list? CallEdge.ofValue?
             entryPoints := ← (ms.get "entry_points").texts?
             unusedSignals := ← (ms.get "unused_signals").texts?
             undeclaredEmissions := ← (ms.get "undeclared_emissions").texts? }

end Behavior

/-- The result that a value describes. -/
def ScriptResult.ofValue? : Value → Option ScriptResult :=
  Value.record? fun ms => do
    return { path := ← (ms.get "script_path").text?
             decl := ← (ms.get "structure").optional? ScriptDecl.ofValue?
             analysis := ← (ms.get "behavioral_analysis").optional? BehaviorAnalysis.ofValue?
             context := ← (ms.get "behavioral_context").optional? Behavior.Context.ofValue?
             flows := ← (ms.get "behavioral_flows").optional? Behavior.Flows.ofValue?
             fingerprint := ← (ms.get "fingerprint").text?
             error := ← (ms.get "error").text? }

end GodotSurvey
