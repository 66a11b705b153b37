import GodotSurvey.Json.Value
import GodotSurvey.Report.Project

/-!
# Tools

The analyses that the server offers to its clients. A tool has a name, a description that tells when
to use it and how to read its results, and arguments. A call whose arguments do not fit is refused;
any other call is answered with a report, or with an error text.
-/

namespace GodotSurvey

open Json (Value)

inductive Tool where
  | analyzeProject
  | analyzeScene
  | analyzeScript
  | dependencyGraph
  | listClasses
  deriving DecidableEq, Repr

namespace Tool

/-- The tools sorted by name. -/
def all : List Tool :=
  [analyzeProject, analyzeScene, analyzeScript, dependencyGraph, listClasses]

def name : Tool → Text
  | analyzeProject => "analyze_project"
  | analyzeScene => "analyze_scene"
  | analyzeScript => "analyze_script"
  | dependencyGraph => "dependency_graph"
  | listClasses => "list_classes"

/-- The tool of that name. -/
def ofName? (n : Text) : Option Tool := all.find? (·.name == n)

/-! ## Descriptions -/

/-- What clients are told about a tool. -/
structure Guide where
  summary : Text
  useWhen : List Text
  interpreting : List Text
  returned : List Text

/-- A titled list of items. -/
def Guide.itemize (title : Text) (items : List Text) : Text :=
  "\n\n" ++ title ++ ":" ++ items.flatMap fun i => ("\n- " ++ i : Text)

def Guide.text (g : Guide) : Text :=
  g.summary ++ itemize "USE WHEN" g.useWhen ++ itemize "INTERPRETING RESULTS" g.interpreting
    ++ itemize "METRICS RETURNED" g.returned

def guide : Tool → Guide
  | analyzeScript => {
    summary := "Analyzes one GDScript file: its declaration, every method's calls, and the behavior patterns it follows."
    useWhen := [
      "Understanding what a script does before editing it",
      "Checking which signals a script declares, emits, or never uses",
      "Finding the entry points and internal call flows of a script",
      "Locating get_node, $Path and %Unique lookups a script depends on"]
    interpreting := [
      "complexity is low, medium, or high from method, signal, and event handler counts",
      "patterns name idioms such as event_driven, signal_emitter, state_management, ready_initialization",
      "entry_points are lifecycle methods (_ready, _process, ...) and event handlers (_on_*)",
      "call_flows are edges from one method to another method of the same script",
      "unused_signals are declared but never emitted; undeclared_emissions are emitted but never declared",
      "internal calls target methods of this script, external calls go through an object, builtin calls are engine or GDScript functions"]
    returned := [
      "structure: class_name, extends, signals, variables, exports, onready vars, constants, enums, inner classes, methods",
      "behavioral_analysis: per-method summaries and scene interactions",
      "behavioral_context: patterns, lifecycle methods, event handlers, complexity",
      "behavioral_flows: call flows, entry points, signal flows"] }
  | analyzeScene => {
    summary := "Analyzes a Godot text scene (.tscn): its node hierarchy, resources, signal connections, and attached scripts."
    useWhen := [
      "Getting an overview of how a scene is assembled",
      "Finding which script drives which node",
      "Tracing signal connections between nodes and checking their handlers exist",
      "Reviewing instanced sub-scenes and inherited scenes"]
    interpreting := [
      "node paths are relative to the root; \".\" is the root itself",
      "unresolved_scripts lists nodes whose script could not be mapped to a res:// file, with the reason",
      "connection_flows marks whether the target script defines the connected method (handler_found)",
      "a script that fails to analyze appears in script_insights with its error and does not fail the scene",
      "max_depth trims the hierarchy and the script search below the root"]
    returned := [
      "structure: root name and type, node count, external and sub resources, hierarchy, connections",
      "node_script_mapping: node path to script path",
      "script_insights: the full analyze_script result of every attached script",
      "scene_insights: aggregated patterns, complexity, lifecycle methods, signals defined and emitted"] }
  | analyzeProject => {
    summary := "Analyzes every script and scene of the Godot project containing a directory."
    useWhen := [
      "Getting a project-wide picture before a refactoring",
      "Finding the most referenced scripts and scenes",
      "Spotting scripts that fail to parse",
      "Summarizing the behavior patterns a codebase relies on"]
    interpreting := [
      "the project root is the nearest directory holding project.godot",
      "class_source tells where global classes came from: class_cache, project_classes, or scan",
      "errors list files that could not be analyzed; the rest of the project is still reported",
      "metrics rank files by PageRank over dependency, attach, and instance edges",
      "is_cyclic and cycles show mutual preloads that can break loading"]
    returned := [
      "script_count, scene_count, skipped binary scenes",
      "insights: aggregated patterns, complexity, event handlers, signals",
      "scenes: root type, node count, attached scripts, instanced scenes",
      "metrics: nodes, edges, density, components, cycles, per-node PageRank and degree"] }
  | dependencyGraph => {
    summary := "Builds the dependency graph of a Godot project as a Mermaid diagram."
    useWhen := [
      "Visualizing how scenes, scripts, and resources reference each other",
      "Finding hub files with many dependents",
      "Detecting circular preloads",
      "Explaining project structure to someone new"]
    interpreting := [
      "edges are typed by dependency kind (inheritance, preload, load, class_reference, type_hint, ...) plus attaches and instances for scenes",
      "class_nodes keeps engine and global classes as nodes; otherwise class references resolve to their scripts",
      "max_nodes keeps the highest PageRank nodes; max_edges caps the edges between them",
      "high PageRank marks files many others depend on, directly or indirectly"]
    returned := [
      "graph: nodes with type and name, typed edges",
      "mermaid: the diagram source",
      "metrics (optional): PageRank, in and out degree per node, density, components, cycles"] }
  | listClasses => {
    summary := "Lists the global classes (class_name) and autoload singletons of a Godot project."
    useWhen := [
      "Finding which script defines a class name",
      "Checking what a class extends, directly and at the engine level",
      "Listing the autoloads available to every script"]
    interpreting := [
      "source is class_cache when .godot/global_script_class_cache.cfg was read, project_classes for the legacy list in project.godot, scan when scripts were scanned instead",
      "autoloads come from the [autoload] section of project.godot",
      "an empty list means the project declares no global classes"]
    returned := [
      "classes: name, res:// path, base class, engine_base (the engine class the inheritance chain ends in), autoload flag"] }

def description (t : Tool) : Text := t.guide.text

/-! ## Arguments -/

/-- What an argument may be. -/
inductive ArgumentKind where
  | text
  | flag
  /-- A flag that may be null, which leaves it to the settings. -/
  | optionalFlag
  | integer
  deriving DecidableEq, Repr

/-- The integer that a number is, whatever its notation; `none` if it has a fraction or does not
fit. -/
def integer? (literal : Text) : Option Int :=
  let x := Value.floatOf literal
  if x.floor == x && x.abs < 9223372036854775808 then some x.toInt64.toInt else none

def ArgumentKind.admits : ArgumentKind → Value → Bool
  | text, .string _ => true
  | flag, .bool _ => true
  | optionalFlag, .bool _ => true
  | optionalFlag, .null => true
  | integer, .number n => (integer? n).isSome
  | _, _ => false

/-- An argument of a tool. -/
structure Argument where
  name : Text
  kind : ArgumentKind
  required : Bool := false
  deriving DecidableEq, Repr

/-- The arguments of a tool; every tool has a path and a format. -/
def arguments : Tool → List Argument
  | analyzeScript => [⟨"path", .text, true⟩, ⟨"include_dependencies", .optionalFlag, false⟩,
      ⟨"include_methods", .optionalFlag, false⟩, ⟨"include_variables", .optionalFlag, false⟩,
      ⟨"include_calls", .flag, false⟩, ⟨"format", .text, false⟩]
  | analyzeScene => [⟨"path", .text, true⟩, ⟨"include_properties", .optionalFlag, false⟩,
      ⟨"include_connections", .optionalFlag, false⟩,
      ⟨"include_script_insights", .optionalFlag, false⟩,
      ⟨"include_dependencies", .optionalFlag, false⟩, ⟨"max_depth", .integer, false⟩,
      ⟨"format", .text, false⟩]
  | analyzeProject => [⟨"path", .text, false⟩, ⟨"include_scripts", .flag, false⟩,
      ⟨"verbose", .flag, false⟩, ⟨"format", .text, false⟩]
  | dependencyGraph => [⟨"path", .text, false⟩, ⟨"class_nodes", .flag, false⟩,
      ⟨"include_metrics", .flag, false⟩, ⟨"max_nodes", .integer, false⟩,
      ⟨"max_edges", .integer, false⟩, ⟨"format", .text, false⟩]
  | listClasses => [⟨"path", .text, false⟩, ⟨"format", .text, false⟩]

/-- The arguments of a call, by name. -/
abbrev Given := List (Text × Value)

/-- The given argument of that name; of several the last counts. -/
def Given.arg? (g : Given) (name : Text) : Option Value := g.reverse.lookup name

/-- The given arguments are ones of the tool, of the right kinds, and none is missing. -/
def fits (t : Tool) (g : Given) : Bool :=
  g.all (fun (n, _) => match t.arguments.find? (·.name == n), g.arg? n with
    | some a, some v => a.kind.admits v
    | _, _ => false)
  && t.arguments.all fun a => !a.required || (g.arg? a.name).isSome

def Given.text (g : Given) (name : Text) : Text :=
  match g.arg? name with
  | some (.string s) => s
  | _ => []

def Given.flag (g : Given) (name : Text) (unset : Bool := false) : Bool :=
  match g.arg? name with
  | some (.bool b) => b
  | _ => unset

def Given.int (g : Given) (name : Text) : Int :=
  match g.arg? name with
  | some (.number n) => (integer? n).getD 0
  | _ => 0

/-- The format of the answer; one that clients can read easily is the default. -/
def Given.format (g : Given) : Format :=
  let f := g.text "format"
  if [Text.ofString "json", "markdown", "md", "text"].contains f then Format.ofName f else .toon

/-- The directory of a project. -/
def Given.directory (g : Given) : Text :=
  let p := g.text "path"
  if p.isEmpty then "." else p

/-! ## Calls -/

/-- The answer to a call. -/
structure Answer where
  isError : Bool
  text : Text
  deriving DecidableEq, Repr

def Answer.error (message : Text) : Answer := ⟨true, "Error: " ++ message⟩

/-- The answer with a report; a report that cannot be written is an error. -/
def Answer.ofReport (r : Report) (format : Format) : Answer :=
  match r.render format with
  | .ok t => ⟨false, t⟩
  | .error e => ⟨true, e.message⟩

/-- The outcome of a survey that keeps nothing in the cache. -/
def outcome {α : Type} (s : Survey) (run : Survey.Caching α) : α := (run.run s.files).1

def script (s : Survey) (g : Given) : Answer :=
  let d := ScriptOptions.ofConfig s.config
  let o : ScriptOptions := {
    dependencies := g.flag "include_dependencies" d.dependencies
    methods := g.flag "include_methods" d.methods
    vars := g.flag "include_variables" d.vars
    callRecords := g.flag "include_calls" }
  if (g.text "path").isEmpty then .error "path is required"
  else
    let r := outcome s (s.script (g.text "path") o)
    if r.failed then .error r.error else .ofReport (.ofScript r) g.format

def scene (s : Survey) (g : Given) : Answer :=
  let d := SceneOptions.ofConfig s.config
  let depth := g.int "max_depth"
  let o : SceneOptions := {
    properties := g.flag "include_properties" d.properties
    connections := g.flag "include_connections" d.connections
    scriptInsights := g.flag "include_script_insights" d.scriptInsights
    dependencies := g.flag "include_dependencies" d.dependencies
    maxDepth := if 0 < depth then depth else d.maxDepth }
  if (g.text "path").isEmpty then .error "path is required"
  else if depth < 0 then .error "max_depth must not be negative"
  else
    let r := outcome s (s.scene (g.text "path") o)
    if r.failed then .error r.error else .ofReport (.ofScene r) g.format

def project (s : Survey) (g : Given) : Answer :=
  match outcome s (s.project g.directory { scripts := g.flag "include_scripts" }) with
  | .error e => .error e.message
  | .ok r =>
    if r.scriptCount + r.sceneCount == 0 then .error "no scripts or scenes found"
    else .ofReport (.ofProject r (g.flag "verbose")) g.format

def graph (s : Survey) (g : Given) : Answer :=
  match outcome s (s.project g.directory { classNodes := g.flag "class_nodes" }) with
  | .error e => .error e.message
  | .ok r =>
    let kept := r.graph.within (g.int "max_nodes") (g.int "max_edges")
    let metrics := if g.flag "include_metrics" then some r.metrics else none
    .ofReport (.ofGraph kept metrics { maxNodes := 0, maxEdges := 0 }) g.format

def classes (s : Survey) (g : Given) : Answer :=
  match s.classList g.directory with
  | .error e => .error e.message
  | .ok l => .ofReport (.ofClasses l) g.format

/-- The answer to a call with these arguments; `none` if they do not fit. -/
def call? (t : Tool) (s : Survey) (arguments : Value) : Option Answer :=
  match arguments with
  | .object g =>
    if !t.fits g then none
    else some (match t with
      | analyzeScript => script s g
      | analyzeScene => scene s g
      | analyzeProject => project s g
      | dependencyGraph => graph s g
      | listClasses => classes s g)
  | _ => none

end Tool

end GodotSurvey
