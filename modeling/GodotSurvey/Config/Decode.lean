import GodotSurvey.Config.Basic
import GodotSurvey.Json.Value

/-!
# Reading settings from a value

Settings are read over others, which stay where the value says nothing. Reading is lenient: a number
may be written as text, a truth value as a number, a single item in place of a list, and names may
differ in letter case. What still makes no sense is refused. Numbers are given by their plain decimal
texts, or by a word if they are not finite.
-/

namespace GodotSurvey.Config

open Json (Value)

/-! ## Plain values -/

/-- The integer towards zero from a number; one that no 64-bit integer can hold gives the least. -/
def truncate (literal : Text) : Int :=
  match Text.parseInt64? literal with
  | some n => n
  | none =>
    let x := Value.floatOf literal
    if !Text.isFiniteDouble literal || x.abs ≥ 9.3e18 then -Text.int64Limit
    else
      let n : Int := (if x < 0 then -x else x).floor.toUInt64.toNat
      let n := if x < 0 then -n else n
      if Text.fitsInt64 n then n else -Text.int64Limit

def isZero (literal : Text) : Bool := Text.isFiniteDouble literal && Value.floatOf literal == 0

/-- An integer. -/
def readInt? (old : Int) : Value → Option Int
  | .null => some old
  | .number n => some (truncate n)
  | .bool b => some (if b then 1 else 0)
  | .string [] => some 0
  | .string s => Text.parseMarkedInt? s
  | _ => none

def trueWords : List Text := ["1", "t", "T", "TRUE", "true", "True"]
def falseWords : List Text := ["", "0", "f", "F", "FALSE", "false", "False"]

/-- A truth value. -/
def readBool? (old : Bool) : Value → Option Bool
  | .null => some old
  | .bool b => some b
  | .number n => some (!isZero n)
  | .string s =>
    if trueWords.contains s then some true
    else if falseWords.contains s then some false
    else none
  | _ => none

/-- A text. -/
def readText? (old : Text) : Value → Option Text
  | .null => some old
  | .string s => some s
  | .bool b => some (if b then "1" else "0")
  | .number n => some n
  | _ => none

/-! ## Lists and records -/

/-- Reads items over those of a list, which give way to `blank` where the list is shorter. -/
def readItems? {α : Type} (read : α → Value → Option α) (blank : α) :
    List α → List Value → Option (List α)
  | _, [] => some []
  | olds, v :: vs => do
    let x ← read (olds.headD blank) v
    let xs ← readItems? read blank olds.tail vs
    return x :: xs

/-- A list; a value that is none counts as the only item, and an empty record as no item. With
`skipEmpty` a list without items says nothing. -/
def readList? {α : Type} (skipEmpty : Bool) (read : α → Value → Option α) (blank : α)
    (old : Option (List α)) : Value → Option (Option (List α))
  | .null => some old
  | .array [] => some (if skipEmpty then old else some [])
  | .array vs => some <$> readItems? read blank (old.getD []) vs
  | .object [] => some (some [])
  | v => some <$> readItems? read blank (old.getD []) [v]

/-- The text without distinctions of letter case. -/
def foldCase (s : Text) : Text := Text.lower (Text.upper s)

/-- The member of that name; the exact name goes before one in other letters. -/
def member? (members : List (Text × Value)) (name : Text) : Option Value :=
  match members.reverse.find? (·.1 == name) with
  | some m => some m.2
  | none => (members.reverse.find? fun m => foldCase m.1 == foldCase name).map (·.2)

/-- Reads the member of that name over an old value. -/
def readMember? {α : Type} (members : List (Text × Value)) (name : Text)
    (read : α → Value → Option α) (old : α) : Option α :=
  match member? members name with
  | some v => read old v
  | none => some old

/-- A record, read member by member. -/
def readRecord? {α : Type} (read : List (Text × Value) → α → Option α) (old : α) :
    Value → Option α
  | .null => some old
  | .object ms => read ms old
  | _ => none

/-! ## Settings -/

def readAnalysis? : Analysis → Value → Option Analysis :=
  readRecord? fun ms a => do
    let bool := fun name => readMember? ms name readBool?
    let int := fun name => readMember? ms name readInt?
    return {
      includeProperties := ← bool "include_properties" a.includeProperties
      includeConnections := ← bool "include_connections" a.includeConnections
      includeScriptInsights := ← bool "include_script_insights" a.includeScriptInsights
      includeDependencies := ← bool "include_dependencies" a.includeDependencies
      includeMethods := ← bool "include_methods" a.includeMethods
      includeVariables := ← bool "include_variables" a.includeVariables
      maxDepth := ← int "max_depth" a.maxDepth
      workers := ← int "workers" a.workers
      projectRootMaxDepth := ← int "project_root_max_depth" a.projectRootMaxDepth }

def readLoader? : Dependency.Loader → Value → Option Dependency.Loader :=
  readRecord? fun ms l => do
    return {
      name := ← readMember? ms "name" readText? l.name
      kind := DependencyKind.ofName (← readMember? ms "kind" readText? l.kind.name)
      allowDot := ← readMember? ms "allow_dot" readBool? l.allowDot }

/-- A loader before anything is known of it. -/
def blankLoader : Dependency.Loader := ⟨[], DependencyKind.ofName [], false⟩

def readThresholds? : Behavior.Thresholds → Value → Option Behavior.Thresholds :=
  readRecord? fun ms t => do
    let int := fun name => readMember? ms name readInt?
    return {
      highMethods := ← int "high_methods" t.highMethods
      highVariables := ← int "high_variables" t.highVariables
      mediumMethods := ← int "medium_methods" t.mediumMethods
      mediumVariables := ← int "medium_variables" t.mediumVariables }

def readTexts? (skipEmpty : Bool) : Option (List Text) → Value → Option (Option (List Text)) :=
  readList? skipEmpty readText? []

def readPatterns? (skipEmpty : Bool) : Patterns → Value → Option Patterns :=
  readRecord? fun ms p => do
    return {
      handlerStart := ← readMember? ms "event_handler_prefix" readText? p.handlerStart
      stateKeywords := ← readMember? ms "state_keywords" (readTexts? skipEmpty) p.stateKeywords
      thresholds := ← readMember? ms "complexity" readThresholds? p.thresholds }

def readExclude? (skipEmpty : Bool) : Exclude → Value → Option Exclude :=
  readRecord? fun ms e => do
    return {
      dirs := ← readMember? ms "dirs" (readTexts? skipEmpty) e.dirs
      patterns := ← readMember? ms "patterns" (readTexts? skipEmpty) e.patterns
      gitignore := ← readMember? ms "gitignore" readBool? e.gitignore
      gdignore := ← readMember? ms "gdignore" readBool? e.gdignore }

def readCache? : Cache → Value → Option Cache :=
  readRecord? fun ms c => do
    return {
      enabled := ← readMember? ms "enabled" readBool? c.enabled
      dir := ← readMember? ms "dir" readText? c.dir
      ttl := ← readMember? ms "ttl" readInt? c.ttl }

def readOutput? : Output → Value → Option Output :=
  readRecord? fun ms o => do
    return {
      format := ← readMember? ms "format" readText? o.format
      color := ← readMember? ms "color" readBool? o.color
      verbose := ← readMember? ms "verbose" readBool? o.verbose }

/-- All settings. -/
def read? (skipEmpty : Bool) : Config → Value → Option Config :=
  readRecord? fun ms c => do
    return {
      analysis := ← readMember? ms "analysis" readAnalysis? c.analysis
      loaders := ←
        readMember? ms "loaders" (readList? skipEmpty readLoader? blankLoader) c.loaders
      patterns := ← readMember? ms "patterns" (readPatterns? skipEmpty) c.patterns
      exclude := ← readMember? ms "exclude" (readExclude? skipEmpty) c.exclude
      cache := ← readMember? ms "cache" readCache? c.cache
      output := ← readMember? ms "output" readOutput? c.output }

/-! ## Lists that replace the defaults -/

mutual

/-- Some nested names, joined by dots, spell the path. -/
def mentions (path : Text) : Value → Bool
  | .object ms => mentionsAny path ms
  | _ => false

def mentionsAny (path : Text) : List (Text × Value) → Bool
  | [] => false
  | (k, v) :: rest =>
    k == path
      || (match Text.dropStart? path (k ++ ".") with
          | some below => mentions below v
          | none => false)
      || mentionsAny path rest

end

/-- The defaults without the lists that the value mentions. -/
def defaultsFor (v : Value) : Config :=
  let d : Config := {}
  let keep := fun {α : Type} (path : Text) (xs : Option α) => if mentions path v then none else xs
  { d with
    loaders := keep "loaders" d.loaders
    patterns := { d.patterns with
      stateKeywords := keep "patterns.state_keywords" d.patterns.stateKeywords }
    exclude := { d.exclude with dirs := keep "exclude.dirs" d.exclude.dirs } }

/-- The settings that a value describes. -/
def ofValue? (skipEmpty : Bool) (v : Value) : Option Config := read? skipEmpty (defaultsFor v) v

end GodotSurvey.Config
