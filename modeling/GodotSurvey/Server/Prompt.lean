import GodotSurvey.Yaml.Meaning

/-!
# Prompts

A prompt is a text with placeholders for arguments. Its file begins with front matter, which
describes the prompt and its arguments; a file without proper front matter is all text.
-/

namespace GodotSurvey

/-- An argument of a prompt. -/
structure PromptArgument where
  name : Text := []
  description : Text := []
  required : Bool := false
  default : Text := []
  deriving DecidableEq, Repr

structure Prompt where
  description : Text := []
  arguments : List PromptArgument := []
  body : Text := []
  deriving DecidableEq, Repr

namespace Prompt

open Text Yaml

/-! ## Front matter -/

/-- What a scalar stands for, beside its own text. -/
def scalarOf? (n : Node) : Option (Scalar × Text) :=
  match n.target with
  | .scalar tag t plain => (Scalar.of? tag t plain).map (·, t)
  | _ => none

/-- Null, or a value that is left out. -/
def isNull (n : Node) : Bool :=
  match scalarOf? n with
  | some (.null, _) => true
  | _ => false

/-- The text of a scalar as it stands; null is the empty text. -/
def textOf? (n : Node) : Option Text :=
  match scalarOf? n with
  | some (.null, _) => some []
  | some (.text t, _) => some t
  | some (_, t) => some t
  | none => none

/-- A truth value, for which some other words are understood too. -/
def boolOf? (n : Node) : Option Bool :=
  match scalarOf? n with
  | some (.null, _) => some false
  | some (.bool b, _) => some b
  | some (.text t, _) =>
    if [Text.ofString "y", "Y", "yes", "on"].contains t then some true
    else if [Text.ofString "n", "N", "no", "off"].contains t then some false
    else none
  | _ => none

/-- The entry of a mapping, read; a missing entry gives `blank`. -/
def entry? {α : Type} (entries : List (Text × Node)) (name : Text) (read : Node → Option α)
    (blank : α) : Option α :=
  match entries.lookup name with
  | some n => read n
  | none => some blank

def argumentOf? (n : Node) : Option PromptArgument :=
  n.target.entries?.bind fun es => do
    return {
      name := ← entry? es "name" textOf? []
      description := ← entry? es "description" textOf? []
      required := ← entry? es "required" boolOf? false
      default := ← entry? es "default" textOf? [] }

def argumentsOf? (n : Node) : Option (List PromptArgument) :=
  match n.target with
  | .sequence ns => (ns.filter (!isNull ·)).mapM argumentOf?
  | n => if isNull n then some [] else none

/-- The prompt that front matter describes, with an empty body. -/
def ofFrontMatter? (n : Node) : Option Prompt :=
  if isNull n then some {}
  else n.target.entries?.bind fun es => do
    return {
      description := ← entry? es "description" textOf? []
      arguments := ← entry? es "arguments" argumentsOf? [] }

/-- The prompt in the text of a file. -/
def parse (content : Text) : Prompt :=
  let plain : Prompt := { body := content }
  match dropStart? content "---\n" with
  | none => plain
  | some rest =>
    match cut? rest "\n---\n" with
    | none => plain
    | some (front, body) =>
      match (Yaml.parse? front).bind ofFrontMatter? with
      | none => plain
      | some p => { p with body := stripStart body "\n" }

/-! ## Filling in -/

/-- What stands for an argument in the text. -/
def placeholder (name : Text) : Text := "\x7b\x7b" ++ name ++ "\x7d\x7d"

/-- The value of an argument: the one given unless it is empty, else the default. -/
def valueOf (a : PromptArgument) (values : List (Text × Text)) : Text :=
  match values.lookup a.name with
  | some (c :: cs) => c :: cs
  | _ => a.default

/-- The text with the arguments filled in, one after the other. -/
def fill (p : Prompt) (values : List (Text × Text)) : Text :=
  p.arguments.foldl (fun body a => replaceAll body (placeholder a.name) (valueOf a values)) p.body

/-! ## Prompts that are offered -/

def projectPath : PromptArgument where
  name := "path"
  description := "Directory inside the project"
  default := "."

def auditSignals : Prompt where
  description := "Audit signal declarations, emissions, and connections across a project"
  arguments := [projectPath]
  body := "Audit the signals of the Godot project at \x7b\x7bpath\x7d\x7d.

1. Call `analyze_project` with `path` set to \x7b\x7bpath\x7d\x7d and `include_scripts` set to true.
2. For each script, compare declared signals against emitted ones. Report unused signals and emissions of undeclared signals.
3. For each scene that attaches scripts, call `analyze_scene` and collect its connection flows. Report connections whose handler is missing.
4. Group the findings by script, most severe first, and propose the smallest fix for each.
"

def mapProject : Prompt where
  description := "Map the architecture of a Godot project from its dependency graph"
  arguments := [projectPath, {
    name := "max_nodes", description := "How many of the highest ranked files to draw"
    default := "40" }]
  body := "Map the architecture of the Godot project at \x7b\x7bpath\x7d\x7d.

1. Call `list_classes` with `path` set to \x7b\x7bpath\x7d\x7d to learn the global classes and autoloads.
2. Call `dependency_graph` with `path` set to \x7b\x7bpath\x7d\x7d, `include_metrics` set to true and `max_nodes` set to \x7b\x7bmax_nodes\x7d\x7d.
3. Identify the hub files with the highest PageRank and explain what each one is responsible for.
4. Report dependency cycles, if any, and which preload or load creates them.
5. Include the Mermaid diagram and a short narrative of how the main scenes, autoloads, and scripts fit together.
"

def reviewScene : Prompt where
  description := "Review a scene's structure, scripts, and signal wiring"
  arguments := [{
    name := "scene", description := "Scene to review, as a filesystem or res:// path"
    required := true }]
  body := "Review the Godot scene \x7b\x7bscene\x7d\x7d.

1. Call `analyze_scene` with `path` set to \x7b\x7bscene\x7d\x7d and `format` set to markdown.
2. Describe the node hierarchy in a few sentences: the root type, the main branches, and any instanced sub-scenes.
3. For each attached script, summarize its role from its patterns, entry points, and complexity.
4. Check every signal connection. Flag connections whose handler is missing in the target script.
5. List unresolved scripts with the reason they could not be mapped.
6. Finish with concrete suggestions: scripts that grew too complex, signals that are declared but never emitted, nodes fetched by long hard-coded paths.
"

/-- The prompts by name, in order. -/
def all : List (Text × Prompt) :=
  [("audit-signals", auditSignals), ("map-project", mapProject), ("review-scene", reviewScene)]

end Prompt

end GodotSurvey
