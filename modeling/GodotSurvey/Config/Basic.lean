import GodotSurvey.Analysis.Behavior
import GodotSurvey.Analysis.Dependency
import GodotSurvey.Project.Source
import GodotSurvey.Toml.Writer

/-!
# Configuration

The settings of a run and their defaults. A list that is missing altogether (`none`) differs from an
empty one where the settings are printed, not where they are used.
-/

namespace GodotSurvey

open Document (field texts)

namespace Config

/-- What an analysis includes. -/
structure Analysis where
  includeProperties : Bool := true
  includeConnections : Bool := true
  includeScriptInsights : Bool := true
  includeDependencies : Bool := false
  includeMethods : Bool := true
  includeVariables : Bool := true
  /-- How deep scenes are read; 0 means without limit. -/
  maxDepth : Int := 0
  /-- How many files are worked on at once; 0 leaves the choice to the program. -/
  workers : Int := 0
  projectRootMaxDepth : Int := Source.defaultMaxDepth
  deriving DecidableEq, Repr

/-- The conventions by which behaviour is judged. -/
structure Patterns where
  handlerStart : Text := "_on_"
  stateKeywords : Option (List Text) := some ["state", "status", "mode"]
  thresholds : Behavior.Thresholds := {}
  deriving DecidableEq, Repr

/-- What a scan leaves out. -/
structure Exclude where
  dirs : Option (List Text) := some [".godot", ".import", ".git"]
  patterns : Option (List Text) := some []
  gitignore : Bool := true
  gdignore : Bool := true
  deriving DecidableEq, Repr

/-- Where results are kept, and for how many hours. -/
structure Cache where
  enabled : Bool := false
  dir : Text := ".gdlens/cache"
  ttl : Int := 24
  deriving DecidableEq, Repr

/-- How results are written. -/
structure Output where
  format : Text := "text"
  color : Bool := true
  verbose : Bool := false
  deriving DecidableEq, Repr

end Config

/-- The settings of a run. -/
structure Config where
  analysis : Config.Analysis := {}
  loaders : Option (List Dependency.Loader) := some Dependency.defaultLoaders
  patterns : Config.Patterns := {}
  exclude : Config.Exclude := {}
  cache : Config.Cache := {}
  output : Config.Output := {}
  deriving DecidableEq, Repr

namespace Config

/-- The rules of behaviour that the settings ask for. -/
def rules (c : Config) : Behavior.Rules :=
  Behavior.Rules.choose c.patterns.handlerStart (c.patterns.stateKeywords.getD [])
    c.patterns.thresholds

/-! ## Validity -/

/-- A name, or two names joined by a dot. -/
def isLoaderName (s : Text) : Bool :=
  match Text.splitByte '.' s with
  | [a] => Text.isIdentifier a
  | [a, b] => Text.isIdentifier a && Text.isIdentifier b
  | _ => false

def isValidLoader (l : Dependency.Loader) : Bool :=
  isLoaderName l.name && [.preload, .load, .classDbReference].contains l.kind

def Analysis.isValid (a : Analysis) : Bool :=
  0 ≤ a.maxDepth && 0 ≤ a.workers && 1 ≤ a.projectRootMaxDepth

def Patterns.isValid (p : Patterns) : Bool :=
  !p.handlerStart.isEmpty && (p.stateKeywords.getD []).all (!·.isEmpty)
    && 1 ≤ p.thresholds.highMethods && 1 ≤ p.thresholds.highVariables
    && 1 ≤ p.thresholds.mediumMethods && 1 ≤ p.thresholds.mediumVariables

def formatNames : List Text := ["text", "json", "markdown", "toon"]

/-- Every setting, taken alone, has a value that makes sense. -/
def isValid (c : Config) : Bool :=
  c.analysis.isValid && (c.loaders.getD []).all isValidLoader && c.patterns.isValid
    && 0 ≤ c.cache.ttl && formatNames.contains c.output.format

/-- The complaint about a medium limit above the high one. -/
def limitComplaint (what : Text) (medium high : Int) : List Text :=
  if medium > high then
    ["patterns.complexity: medium_" ++ what ++ " (" ++ Text.ofInt medium ++ ") exceeds high_" ++ what
      ++ " (" ++ Text.ofInt high ++ ")"]
  else []

/-- What is wrong about the limits taken together. -/
def Patterns.limitComplaints (p : Patterns) : List Text :=
  limitComplaint "methods" p.thresholds.mediumMethods p.thresholds.highMethods
    ++ limitComplaint "variables" p.thresholds.mediumVariables p.thresholds.highVariables

/-- Why settings are refused. -/
inductive Invalid where
  | badValue
  | limits (complaints : List Text)
  deriving DecidableEq, Repr

def Invalid.message : Invalid → Text
  | badValue => "jsonschema validation failed"
  | limits cs => Text.join "\n" cs

/-- What is wrong with the settings; values are judged before limits. -/
def invalid? (c : Config) : Option Invalid :=
  if !c.isValid then some .badValue
  else match c.patterns.limitComplaints with
    | [] => none
    | cs => some (.limits cs)

/-! ## Documents -/

def loaderDocument (l : Dependency.Loader) : Document :=
  Document.ofFields [field "name" (.text l.name), field "kind" (.text l.kind.name),
    field "allow_dot" (.bool l.allowDot)]

def Analysis.document (a : Analysis) : Document :=
  Document.ofFields [field "include_properties" (.bool a.includeProperties),
    field "include_connections" (.bool a.includeConnections),
    field "include_script_insights" (.bool a.includeScriptInsights),
    field "include_dependencies" (.bool a.includeDependencies),
    field "include_methods" (.bool a.includeMethods),
    field "include_variables" (.bool a.includeVariables), field "max_depth" (.int a.maxDepth),
    field "workers" (.int a.workers), field "project_root_max_depth" (.int a.projectRootMaxDepth)]

def thresholdsDocument (t : Behavior.Thresholds) : Document :=
  Document.ofFields [field "high_methods" (.int t.highMethods),
    field "high_variables" (.int t.highVariables), field "medium_methods" (.int t.mediumMethods),
    field "medium_variables" (.int t.mediumVariables)]

def Cache.document (c : Cache) : Document :=
  Document.ofFields [field "enabled" (.bool c.enabled), field "dir" (.text c.dir),
    field "ttl" (.int c.ttl)]

def Output.document (o : Output) : Document :=
  Document.ofFields [field "format" (.text o.format), field "color" (.bool o.color),
    field "verbose" (.bool o.verbose)]

/-- The settings, where `listOf` writes a list that may be missing, under its name. -/
def documentWith (listOf : Text → Option (List Document) → Option (Text × Document))
    (c : Config) : Document :=
  let textList := fun (name : Text) (ts : Option (List Text)) =>
    listOf name (ts.map fun ts => ts.map Document.text)
  Document.ofFields [field "analysis" c.analysis.document,
    listOf "loaders" (c.loaders.map fun ls => ls.map loaderDocument),
    field "patterns" (Document.ofFields [
      field "event_handler_prefix" (.text c.patterns.handlerStart),
      textList "state_keywords" c.patterns.stateKeywords,
      field "complexity" (thresholdsDocument c.patterns.thresholds)]),
    field "exclude" (Document.ofFields [textList "dirs" c.exclude.dirs,
      textList "patterns" c.exclude.patterns, field "gitignore" (.bool c.exclude.gitignore),
      field "gdignore" (.bool c.exclude.gdignore)]),
    field "cache" c.cache.document, field "output" c.output.document]

/-- The settings with null for missing lists. -/
def document (c : Config) : Document :=
  c.documentWith fun name items => field name ((items.map Document.list).getD .missingList)

/-- The settings as a TOML file below a header of comment lines. A missing list is written as an
empty one, and a list of tables without items leaves no trace. -/
def render (c : Config) (header : List Text) : Text :=
  let d := c.documentWith fun name items =>
    if name == "loaders" && (items.getD []).isEmpty then none
    else field name (.list (items.getD []))
  let comments := Text.lines (header.map fun h => ("# " ++ h : Text))
  comments ++ (if header.isEmpty then [] else Text.ofString "\n") ++ Toml.render d

end Config

end GodotSurvey
