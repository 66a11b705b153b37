import GodotSurvey.Config.Basic
import GodotSurvey.Json.Decode

/-!
# Settings over the defaults

Settings can be given as a JSON value that names only what differs from the defaults. Reading is
strict: every value has to be of its kind. A list takes the place of the default list, and null
takes a list away.
-/

namespace GodotSurvey

open Json (Value Members)

def Dependency.Loader.ofValue? : Value → Option Dependency.Loader :=
  Value.record? fun ms => do
    return { name := ← (ms.get "name").text?
             kind := DependencyKind.ofName (← (ms.get "kind").text?)
             allowDot := ← (ms.get "allow_dot").bool? }

namespace Config

/-- Reads the member of that name, unless it is missing or null. -/
def over? {α : Type} (ms : Members) (name : Text) (read : Value → Option α) (d : α) : Option α :=
  match ms.get name with
  | .null => some d
  | v => read v

/-- Reads a list in place of another, unless it is missing. -/
def overList? {α : Type} (ms : Members) (name : Text) (read : Value → Option α)
    (d : Option (List α)) : Option (Option (List α)) :=
  if ms.any fun m => Value.foldName m.1 == Value.foldName name then
    (ms.get name).optional? (·.list? read)
  else some d

/-- The members of the record of that name. -/
def part? (ms : Members) (name : Text) : Option Members := (ms.get name).members?

def Analysis.overlay? (ms : Members) : Option Analysis := do
  let d : Analysis := {}
  return {
    includeProperties := ← over? ms "include_properties" Value.bool? d.includeProperties
    includeConnections := ← over? ms "include_connections" Value.bool? d.includeConnections
    includeScriptInsights := ← over? ms "include_script_insights" Value.bool? d.includeScriptInsights
    includeDependencies := ← over? ms "include_dependencies" Value.bool? d.includeDependencies
    includeMethods := ← over? ms "include_methods" Value.bool? d.includeMethods
    includeVariables := ← over? ms "include_variables" Value.bool? d.includeVariables
    maxDepth := ← over? ms "max_depth" Value.int? d.maxDepth
    workers := ← over? ms "workers" Value.int? d.workers
    projectRootMaxDepth := ← over? ms "project_root_max_depth" Value.int? d.projectRootMaxDepth }

/-- Limits of complexity over others. -/
def thresholdsOver? (d : Behavior.Thresholds) (ms : Members) : Option Behavior.Thresholds := do
  return {
    highMethods := ← over? ms "high_methods" Value.int? d.highMethods
    highVariables := ← over? ms "high_variables" Value.int? d.highVariables
    mediumMethods := ← over? ms "medium_methods" Value.int? d.mediumMethods
    mediumVariables := ← over? ms "medium_variables" Value.int? d.mediumVariables }

def Patterns.overlay? (ms : Members) : Option Patterns := do
  let d : Patterns := {}
  return {
    handlerStart := ← over? ms "event_handler_prefix" Value.text? d.handlerStart
    stateKeywords := ← overList? ms "state_keywords" Value.text? d.stateKeywords
    thresholds := ← thresholdsOver? d.thresholds (← part? ms "complexity") }

def Exclude.overlay? (ms : Members) : Option Exclude := do
  let d : Exclude := {}
  return {
    dirs := ← overList? ms "dirs" Value.text? d.dirs
    patterns := ← overList? ms "patterns" Value.text? d.patterns
    gitignore := ← over? ms "gitignore" Value.bool? d.gitignore
    gdignore := ← over? ms "gdignore" Value.bool? d.gdignore }

def Cache.overlay? (ms : Members) : Option Cache := do
  let d : Cache := {}
  return {
    enabled := ← over? ms "enabled" Value.bool? d.enabled
    dir := ← over? ms "dir" Value.text? d.dir
    ttl := ← over? ms "ttl" Value.int? d.ttl }

def Output.overlay? (ms : Members) : Option Output := do
  let d : Output := {}
  return {
    format := ← over? ms "format" Value.text? d.format
    color := ← over? ms "color" Value.bool? d.color
    verbose := ← over? ms "verbose" Value.bool? d.verbose }

/-- The settings that a value describes over the defaults. -/
def overlay? : Value → Option Config :=
  Value.record? fun ms => do
    let d : Config := {}
    return {
      analysis := ← Analysis.overlay? (← part? ms "analysis")
      loaders := ← overList? ms "loaders" Dependency.Loader.ofValue? d.loaders
      patterns := ← Patterns.overlay? (← part? ms "patterns")
      exclude := ← Exclude.overlay? (← part? ms "exclude")
      cache := ← Cache.overlay? (← part? ms "cache")
      output := ← Output.overlay? (← part? ms "output") }

end Config

end GodotSurvey
