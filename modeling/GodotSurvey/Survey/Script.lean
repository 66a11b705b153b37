import GodotSurvey.Survey.Basic

/-!
# Surveying a script

A script is always analysed as a whole; the options say what of it is reported. Results are taken
from the cache where it has them: the key of a result names everything that it depends on besides
the content of the file.
-/

namespace GodotSurvey

/-- What is reported about a script. -/
structure ScriptOptions where
  dependencies : Bool := false
  methods : Bool := true
  vars : Bool := true
  /-- Method summaries keep every call. -/
  callRecords : Bool := false
  deriving DecidableEq, Repr

namespace ScriptOptions

/-- The options that the settings ask for. -/
def ofConfig (c : Config) : ScriptOptions where
  dependencies := c.analysis.includeDependencies
  methods := c.analysis.includeMethods
  vars := c.analysis.includeVariables

def flagText (b : Bool) : Text := if b then "true" else "false"

/-- The options as part of a key. -/
def key (o : ScriptOptions) : Text :=
  "deps=" ++ flagText o.dependencies ++ ",methods=" ++ flagText o.methods
    ++ ",vars=" ++ flagText o.vars ++ ",calls=" ++ flagText o.callRecords

end ScriptOptions

namespace Config

/-- A list in brackets, its items separated by blanks. -/
def bracketed (items : List Text) : Text := "[" ++ Text.join " " items ++ "]"

/-- A record in braces, its fields separated by blanks. -/
def braced (fields : List Text) : Text := "\x7b" ++ Text.join " " fields ++ "\x7d"

def loaderText (l : Dependency.Loader) : Text :=
  braced [l.name, l.kind.name, ScriptOptions.flagText l.allowDot]

def patternsText (p : Patterns) : Text :=
  let t := p.thresholds
  braced [p.handlerStart, bracketed (p.stateKeywords.getD []),
    braced [Text.ofInt t.highMethods, Text.ofInt t.highVariables, Text.ofInt t.mediumMethods,
      Text.ofInt t.mediumVariables]]

/-- The settings that script results depend on, in one text. -/
def settingsText (c : Config) : Text :=
  bracketed ((c.loaders.getD []).map loaderText) ++ "|" ++ patternsText c.patterns

end Config

/-- The result for a script of that content. -/
def ScriptResult.ofContent (c : Config) (r : Registry) (o : ScriptOptions) (name content : Text) :
    ScriptResult :=
  let p := Script.parse content {}
  let decl := if o.dependencies then
      { p.decl with dependencies := Dependency.ofScript r (c.loaders.getD []) p }
    else p.decl
  let insights := Behavior.insights c.rules decl
  let summaries := MethodSummary.ofScript p r o.callRecords
  let reported := if o.methods then summaries else []
  let analysis := BehaviorAnalysis.ofParts decl insights summaries (Interaction.ofScript p)
  { path := name
    decl := some { decl with
      methods := if o.methods then decl.methods else []
      vars := if o.vars then decl.vars else [] }
    analysis := some { analysis with summaries := reported }
    context := some (Behavior.context c.rules decl insights)
    flows := some (Behavior.flows c.rules decl summaries)
    fingerprint := contentFingerprint content }

namespace Survey

/-- The key of a script's result in the cache. -/
def scriptKey (s : Survey) (r : Registry) (o : ScriptOptions) (t : Target) : Text :=
  ResultCache.key [t.path, o.key, r.fingerprint, contentFingerprint s.config.settingsText]

/-- The result for a script of known content: the one in the cache, or a new one, which is stored. -/
def cachedScript (s : Survey) (r : Registry) (o : ScriptOptions) (t : Target) (content : Text) :
    Caching ScriptResult := do
  if !s.cache.enabled then return .ofContent s.config r o t.name content
  let key := s.scriptKey r o t
  let hash := Blake3.hex content
  let (found, store) := s.cache.getScript (← get) s.now key hash
  match found with
  | some result =>
    set store
    return result
  | none =>
    let result := ScriptResult.ofContent s.config r o t.name content
    set (s.cache.setScript store s.now key hash result)
    return result

/-- The result for a script that has been located. -/
def scriptAt (s : Survey) (r : Registry) (o : ScriptOptions) (t : Target) : Caching ScriptResult :=
  match Source.read s.files t.path with
  | .error e => return .failure t.name e.message
  | .ok content => s.cachedScript r o t content

/-- The result for the script at a path. -/
def script (s : Survey) (path : Text) (o : ScriptOptions) : Caching ScriptResult :=
  match s.locate path with
  | .error e => return .failure path e.message
  | .ok t =>
    match s.registry t.root with
    | .error e => return .failure t.name e.message
    | .ok r => s.scriptAt r o t

end Survey

end GodotSurvey
