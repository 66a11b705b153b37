import GodotSurvey.Analysis.Insights
import GodotSurvey.Analysis.Summary
import GodotSurvey.Text.Case

/-!
# The behaviour of a script

Which patterns a script follows, judged by its declarations: lifecycle callbacks, event handlers,
signals and state variables. The conventions that mark handlers and state, and the limits of the
complexity tiers, are rules that a project can choose.
-/

namespace GodotSurvey.Behavior

open Text

/-! ## Rules -/

/-- The limits of the complexity tiers: a script beyond a limit belongs to the tier. -/
structure Thresholds where
  highMethods : Int := 20
  highVariables : Int := 30
  mediumMethods : Int := 10
  mediumVariables : Int := 15
  deriving DecidableEq, Repr

/-- The conventions of a project: how the names of event handlers begin, and which lower-case
words in a name mark a state variable. -/
structure Rules where
  handlerStart : Text := "_on_"
  stateKeywords : List Text := ["state", "status", "mode"]
  thresholds : Thresholds := {}
  deriving DecidableEq, Repr

/-- The rules with the given conventions; empty ones leave the defaults. -/
def Rules.choose (handlerStart : Text) (keywords : List Text) (thresholds : Thresholds) : Rules :=
  let d : Rules := {}
  { handlerStart := if handlerStart.isEmpty then d.handlerStart else handlerStart
    stateKeywords := (if keywords.isEmpty then d.stateKeywords else keywords).map lower
    thresholds }

/-- The lifecycle callbacks of the engine, each with the pattern it shows. -/
def lifecycleCallbacks : List (Text × Text) :=
  [("_ready", "ready_initialization"), ("_process", "frame_update"),
    ("_physics_process", "physics_update"), ("_input", "input_handling"),
    ("_unhandled_input", "input_handling"), ("_unhandled_key_input", "input_handling"),
    ("_shortcut_input", "input_handling"), ("_gui_input", "input_handling"),
    ("_enter_tree", "tree_lifecycle"), ("_exit_tree", "tree_lifecycle"), ("_init", "constructor"),
    ("_draw", "custom_drawing"), ("_notification", "notification_handling"),
    ("_integrate_forces", "physics_update")]

/-- The pattern that a lifecycle callback shows. -/
def lifecyclePattern? (name : Text) : Option Text := lifecycleCallbacks.lookup name

def isLifecycle (name : Text) : Bool := (lifecyclePattern? name).isSome

def Rules.isEventHandler (r : Rules) (name : Text) : Bool := startsWith name r.handlerStart

def Rules.isStateVariable (r : Rules) (name : Text) : Bool :=
  r.stateKeywords.any (contains (lower name))

/-- The tier of a script with that many methods and variables. -/
def Rules.complexity (r : Rules) (methods vars : Int) : Complexity :=
  let t := r.thresholds
  if methods > t.highMethods || vars > t.highVariables then .high
  else if methods > t.mediumMethods || vars > t.mediumVariables then .medium
  else .low

/-! ## Insights -/

/-- The kind under which a variable is counted. -/
def variableCount (v : VariableDecl) : VariableCounts :=
  if v.isExport then { exported := 1 }
  else if v.isOnready then { onready := 1 }
  else if v.isConstant then { constant := 1 }
  else { regular := 1 }

/-- Takes note of one method. -/
def noteMethod (r : Rules) (i : Insights) (m : MethodDecl) : Insights :=
  let i := match lifecyclePattern? m.name with
    | some p => (i.addLifecycleMethod m.name).addPattern p
    | none => i
  if r.isEventHandler m.name then { i with eventHandlerCount := i.eventHandlerCount + 1 } else i

/-- The insights of a script's declarations. -/
def insights (r : Rules) (d : ScriptDecl) : Insights :=
  let i := d.methods.foldl (noteMethod r) {}
  let i := i.addPatternIf (0 < i.eventHandlerCount) "event_driven"
  let i := { i with
    signalsDefined := dedup d.signalNames
    signalsEmitted := dedup d.emittedNames
    variableCounts := d.allVariables.foldl (fun c v => c.add (variableCount v)) {}
    complexity := r.complexity d.methods.length d.allVariables.length }
  let i := i.addPatternIf (!i.signalsDefined.isEmpty) "signal_emitter"
  let i := i.addPatternIf (!i.signalsEmitted.isEmpty) "signal_emitting_active"
  i.addPatternIf (d.allVariables.any (r.isStateVariable ·.name)) "state_management"

/-- The insights with the names behind the counters. -/
structure Context where
  insights : Insights
  eventHandlers : List Text
  exportedProperties : List Text
  stateVariables : List Text
  deriving DecidableEq, Repr

def context (r : Rules) (d : ScriptDecl) (i : Insights) : Context where
  insights := i
  eventHandlers := dedup ((d.methods.map (·.name)).filter r.isEventHandler)
  exportedProperties := dedup ((d.allVariables.filter (·.isExport)).map (·.name))
  stateVariables := dedup ((d.allVariables.map (·.name)).filter r.isStateVariable)

/-! ## Flows -/

/-- A signal with the methods that emit it. -/
structure SignalFlow where
  signal : Text
  declared : Bool
  emitters : List Text
  deriving DecidableEq, Repr

/-- A call from one method of the script to another. -/
structure CallEdge where
  caller : Text
  callee : Text
  deriving DecidableEq, Repr

/-- How control and signals move through a script. -/
structure Flows where
  signalFlows : List SignalFlow
  callFlows : List CallEdge
  entryPoints : List Text
  unusedSignals : List Text
  undeclaredEmissions : List Text
  deriving DecidableEq, Repr

/-- The methods that emit a signal, each once. -/
def emitters (d : ScriptDecl) (signal : Text) : List Text :=
  dedup ((d.emissions.filter (·.signal == signal)).map (·.method))

/-- Declared signals in declaration order, then the others in the order of their emission. -/
def signalFlows (d : ScriptDecl) : List SignalFlow :=
  (dedup (d.signalNames ++ d.emittedNames)).map fun s =>
    ⟨s, d.signalNames.contains s, emitters d s⟩

/-- The flows of a script, given the summaries of its methods. -/
def flows (r : Rules) (d : ScriptDecl) (summaries : List MethodSummary) : Flows :=
  let signals := signalFlows d
  let calls := summaries.flatMap fun s => s.internalCalls.map (CallEdge.mk s.name)
  { signalFlows := signals
    callFlows := calls.foldl (fun es e => if es.contains e then es else es ++ [e]) []
    entryPoints := dedup ((d.methods.map (·.name)).filter fun n => isLifecycle n || r.isEventHandler n)
    unusedSignals := (signals.filter fun f => f.declared && f.emitters.isEmpty).map (·.signal)
    undeclaredEmissions := (signals.filter (!·.declared)).map (·.signal) }

/-! ## Documents -/

open Document

def Context.document (c : Context) : Document :=
  ofFields [c.insights.embeddedField, field "event_handlers" (texts c.eventHandlers),
    field "exported_properties" (texts c.exportedProperties),
    field "state_variables" (texts c.stateVariables)]

def SignalFlow.document (f : SignalFlow) : Document :=
  ofFields [field "signal" (.text f.signal), field "declared" (.bool f.declared),
    field "emitters" (texts f.emitters)]

def CallEdge.document (e : CallEdge) : Document :=
  ofFields [field "from" (.text e.caller), field "to" (.text e.callee)]

def Flows.document (f : Flows) : Document :=
  ofFields [field "signal_flows" (.list (f.signalFlows.map SignalFlow.document)),
    field "call_flows" (.list (f.callFlows.map CallEdge.document)),
    field "entry_points" (texts f.entryPoints), field "unused_signals" (texts f.unusedSignals),
    field "undeclared_emissions" (texts f.undeclaredEmissions)]

end GodotSurvey.Behavior
