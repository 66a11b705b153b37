import GodotSurvey.Command.Console

/-!
# Commands that analyse

The scripts or scenes at some paths, or a whole project: its summary, its graph, its classes.
-/

namespace GodotSurvey.Command

/-! ## Flags -/

def dependenciesFlag : FlagSpec := { name := "dependencies", aliases := ["deps"] }
def noMethodsFlag : FlagSpec := { name := "no-methods" }
def noVariablesFlag : FlagSpec := { name := "no-variables" }
def callsFlag : FlagSpec := { name := "calls" }
def noPropertiesFlag : FlagSpec := { name := "no-properties" }
def noConnectionsFlag : FlagSpec := { name := "no-connections" }
def noScriptsFlag : FlagSpec := { name := "no-scripts" }
def maxDepthFlag : FlagSpec := { name := "max-depth", kind := .int }
def scriptsFlag : FlagSpec := { name := "scripts" }
def classNodesFlag : FlagSpec := { name := "class-nodes" }
def metricsFlag : FlagSpec := { name := "metrics" }
def maxNodesFlag : FlagSpec := { name := "max-nodes", kind := .int }
def maxEdgesFlag : FlagSpec := { name := "max-edges", kind := .int }
def directionFlag : FlagSpec := { name := "direction", kind := .text }

def scriptFlags : List FlagSpec := [dependenciesFlag, noMethodsFlag, noVariablesFlag, callsFlag]

def sceneFlags : List FlagSpec :=
  [noPropertiesFlag, noConnectionsFlag, noScriptsFlag, dependenciesFlag, maxDepthFlag]

def projectFlags : List FlagSpec := [scriptsFlag, classNodesFlag]

def graphFlags : List FlagSpec :=
  [metricsFlag, classNodesFlag, maxNodesFlag, maxEdgesFlag, directionFlag]

/-! ## Scripts and scenes -/

/-- The scripts and scenes at the paths that a command was given. -/
def Session.find (s : Session) (paths : List Text) : Action FoundFiles := do
  orFail Scan.ScanError.message (Scan.scanPaths (← currentFiles) s.config.exclude paths)

/-- One report for several results: the only one, or all of them together. -/
def combined (reports : List Report) (data : List Document) : Report :=
  match reports with
  | [r] => r
  | rs => .compound [] rs (some (.list data))

/-- Fails if nothing could be analysed. -/
def failIfAll (what : Text) (failed total : Nat) : Action Unit :=
  if failed == total then
    throw ("no " ++ what ++ " could be analyzed (" ++ Text.ofNat failed ++ " failed)")
  else pure ()

def scriptOptions (c : Config) (a : Arguments) : ScriptOptions :=
  let d := ScriptOptions.ofConfig c
  { dependencies := if a.isSet dependenciesFlag then a.switch dependenciesFlag else d.dependencies
    methods := d.methods && !a.switch noMethodsFlag
    vars := d.vars && !a.switch noVariablesFlag
    callRecords := a.switch callsFlag }

/-- Analyses scripts. -/
def script (x : Surroundings) (a : Arguments) : Action Unit := do
  let s ← Session.start x
  let found ← s.find a.plain
  if found.scripts.isEmpty then
    notice (x.styled Style.yellow "No scripts found")
  else
    let results ← s.survey fun v => found.scripts.mapM fun p => v.script p (scriptOptions s.config a)
    s.openOutput
    let failed := results.filter (·.failed)
    if s.verbose then failed.forM fun r => s.warn (r.path ++ ": " ++ r.error)
    s.report (combined (results.map Report.ofScript) (results.map ScriptResult.document))
    failIfAll "script" failed.length results.length

def sceneOptions (c : Config) (a : Arguments) : SceneOptions :=
  let d := SceneOptions.ofConfig c
  { properties := d.properties && !a.switch noPropertiesFlag
    connections := d.connections && !a.switch noConnectionsFlag
    scriptInsights := d.scriptInsights && !a.switch noScriptsFlag
    dependencies := if a.isSet dependenciesFlag then a.switch dependenciesFlag else d.dependencies
    maxDepth := a.int maxDepthFlag d.maxDepth }

/-- The warnings about a scene: its error, or those of its scripts. -/
def sceneWarnings (r : SceneResult) : List Text :=
  if r.failed then [r.path ++ ": " ++ r.error]
  else
    let failed := (r.scripts.filter fun s => s.2.failed).mergeSort fun a b => Text.le a.1 b.1
    failed.map fun (path, s) => r.path ++ ": " ++ path ++ ": " ++ s.error

/-- Analyses scenes. -/
def scene (x : Surroundings) (a : Arguments) : Action Unit := do
  let depth := a.int maxDepthFlag 0
  if depth < 0 then
    throw ("--max-depth must not be negative (got " ++ Text.ofInt depth ++ ")")
  let s ← Session.start x
  let found ← s.find a.plain
  if found.scenes.isEmpty then
    notice (x.styled Style.yellow "No scenes found")
  else
    let results ← s.survey fun v => found.scenes.mapM fun p => v.scene p (sceneOptions s.config a)
    s.openOutput
    if s.verbose then results.forM fun r => (sceneWarnings r).forM s.warn
    s.report (combined (results.map Report.ofScene) (results.map SceneResult.document))
    failIfAll "scene" (results.filter (·.failed)).length results.length

/-! ## Projects -/

/-- The directory that a command was given. -/
def directory (a : Arguments) : Text := a.plain.headD "."

def analysisFailed (e : SurveyError) : Text := "analysis failed: " ++ e.message

/-- Analyses a project. -/
def project (x : Surroundings) (a : Arguments) : Action Unit := do
  let s ← Session.start x
  let options : ProjectOptions :=
    { scripts := a.switch scriptsFlag, classNodes := a.switch classNodesFlag }
  let r ← orFail analysisFailed (← s.survey fun v => v.project (directory a) options)
  if r.scriptCount + r.sceneCount == 0 then
    notice (x.styled Style.yellow "No scripts or scenes found")
  else
    s.openOutput
    if !r.errors.isEmpty && !s.verbose then
      s.warn (Text.ofNat r.errors.length
        ++ " file(s) could not be analyzed; use --verbose to list them")
    s.report (.ofProject r s.verbose)

/-- The direction of a diagram, in any letter case. -/
def readDirection (t : Text) : Except Text Text :=
  let d := Text.upper t
  if d == "LR" || d == "TD" then .ok d
  else .error ("--direction must be LR or TD (got " ++ Text.quoted t ++ ")")

/-- Draws the dependency graph of a project. -/
def graph (x : Surroundings) (a : Arguments) : Action Unit := do
  let defaults : Mermaid.Options := {}
  let direction ← orFail id (readDirection (a.text directionFlag defaults.direction))
  let s ← Session.start x
  let options : ProjectOptions := { classNodes := a.switch classNodesFlag }
  let r ← orFail analysisFailed (← s.survey fun v => v.project (directory a) options)
  if r.graph.nodes.isEmpty then
    notice (x.styled Style.yellow "No scripts or scenes found")
  else
    let kept := r.graph.within (a.int maxNodesFlag defaults.maxNodes)
      (a.int maxEdgesFlag defaults.maxEdges)
    s.openOutput
    s.report (.ofGraph kept (if a.switch metricsFlag then some r.metrics else none)
      { maxNodes := 0, maxEdges := 0, direction })

/-- Lists the classes of a project. -/
def classes (x : Surroundings) (a : Arguments) : Action Unit := do
  let s ← Session.start x
  let l ← orFail SurveyError.message (← s.survey fun v => pure (v.classList (directory a)))
  s.openOutput
  s.report (.ofClasses l)

end GodotSurvey.Command
