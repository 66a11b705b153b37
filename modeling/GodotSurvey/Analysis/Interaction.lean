import GodotSurvey.Analysis.Behavior
import GodotSurvey.Text.Path

/-!
# How a script touches the scene tree

Node lookups, changes to the tree, loaded scenes, calls into child nodes and connected signals,
found line by line in the bodies of a script's methods.
-/

namespace GodotSurvey

/-- A signal connected to a handler in code. -/
structure SignalConnection where
  source : Text
  signal : Text
  handler : Text := []
  method : Text
  line : Nat
  deriving DecidableEq, Repr

/-- What a script does with the scene tree. -/
structure Interactions where
  nodeQueries : List Text := []
  treeManipulation : List Text := []
  sceneLoading : List Text := []
  downward : List Text := []
  upward : List Text := []
  connections : List SignalConnection := []
  deriving DecidableEq, Repr

namespace Interaction

open Text Lexing

/-! ## Shapes in a line -/

/-- A recogniser: the length of the shape that begins the text, 0 if none does, given the byte
before the text. -/
abbrev Recogniser := Option UInt8 → Text → Nat

/-- The shapes of a text from left to right, without overlap, as start and length. The text starts
at index `i`, and `skip` bytes still belong to the shape found last. -/
def occurrencesFrom (r : Recogniser) (before : Option UInt8) (i : Nat) :
    (skip : Nat) → Text → List (Nat × Nat)
  | _, [] => []
  | n + 1, c :: rest => occurrencesFrom r (some c) (i + 1) n rest
  | 0, c :: rest =>
    match r before (c :: rest) with
    | 0 => occurrencesFrom r (some c) (i + 1) 0 rest
    | n + 1 => (i, n + 1) :: occurrencesFrom r (some c) (i + 1) n rest

def occurrences (r : Recogniser) (s : Text) : List (Nat × Nat) := occurrencesFrom r none 0 0 s

/-- White space inside a shape. -/
def isGap (c : UInt8) : Bool := c == ' ' || c == '\t' || c == '\n' || c == 0x0C || c == '\r'

/-- The number of leading gap bytes. -/
def gapLength (s : Text) : Nat := (s.takeWhile isGap).length

/-- The length of a quoted text without escapes that begins with `q`. -/
def quotedLength (q : UInt8) : Text → Nat
  | [] => 0
  | c :: rest => if c == q then ((findByte? rest q).map (· + 2)).getD 0 else 0

def isNameStart (c : UInt8) : Bool := isLetter c || c == '_'

/-- The length of a name that continues with bytes of the given class. -/
def nameLength (continues : UInt8 → Bool) : Text → Nat
  | [] => 0
  | c :: rest => if isNameStart c then 1 + (rest.takeWhile continues).length else 0

/-- Adds the length of what goes before, unless nothing follows. -/
def plusIfAny (n m : Nat) : Nat := if m == 0 then 0 else n + m

/-- `$Path`, `$"Path"` or `$'Path'`. -/
def nodePath : Recogniser := fun _ s =>
  match s with
  | [] => 0
  | c :: rest =>
    if c != '$' then 0
    else if rest.head? == some '"' then plusIfAny 1 (quotedLength '"' rest)
    else if rest.head? == some '\'' then plusIfAny 1 (quotedLength '\'' rest)
    else plusIfAny 1 (nameLength (fun c => isIdent c || c == '/') rest)

/-- `%Name`. -/
def uniqueName : Recogniser := fun _ s =>
  match s with
  | [] => 0
  | c :: rest => if c == '%' then plusIfAny 1 (nameLength isIdent rest) else 0

/-- The length of a quoted node path, also with a caret before double quotes. -/
def quotedPathLength (s : Text) : Nat :=
  match s with
  | [] => 0
  | c :: rest =>
    if c == '^' then plusIfAny 1 (quotedLength '"' rest)
    else if isQuote c then quotedLength c s
    else 0

/-- `get_node("Path")` or `get_node_or_null("Path")`. -/
def getNode : Recogniser := fun _ s =>
  let name : Text := if startsWith s "get_node_or_null(" then "get_node_or_null(" else "get_node("
  match dropStart? s name with
  | none => 0
  | some rest =>
    let open_ := gapLength rest
    match quotedPathLength (rest.drop open_) with
    | 0 => 0
    | n =>
      let after := rest.drop (open_ + n)
      let close := gapLength after
      if (after.drop close).head? == some ')' then name.length + open_ + n + close + 1 else 0

/-- The methods that change the tree. -/
def treeMethods : List Text :=
  ["add_child", "remove_child", "queue_free", "reparent", "add_sibling", "move_child",
    "replace_by", "change_scene_to_file", "change_scene_to_packed", "reload_current_scene"]

/-- The tree-changing method whose call begins the text. -/
def treeMethod? (s : Text) : Option Text :=
  treeMethods.find? fun name =>
    match dropStart? s name with
    | none => false
    | some rest => (rest.drop (gapLength rest)).head? == some '('

/-- A call of a tree-changing method, at a word boundary. -/
def treeCall : Recogniser := fun before s =>
  if before.any isIdent then 0
  else match treeMethod? s with
    | none => 0
    | some name => name.length + gapLength (s.drop name.length) + 1

/-- `.instantiate()`. -/
def instantiateCall : Recogniser := fun _ s =>
  match dropStart? s ".instantiate" with
  | none => 0
  | some rest =>
    let before := gapLength rest
    match rest.drop before with
    | [] => 0
    | c :: args =>
      let inside := gapLength args
      if c == '(' && (args.drop inside).head? == some ')' then 12 + before + 1 + inside + 1 else 0

/-! ## Expressions -/

/-- Walks a token backwards to where its last expression begins: behind an opening bracket that is
not closed, or behind `=` or a comma outside brackets. `kept` is what was passed. -/
def trailingFrom (depth : Nat) (kept : Text) : Text → Text
  | [] => kept
  | c :: rest =>
    if c == ')' || c == ']' then trailingFrom (depth + 1) (c :: kept) rest
    else if c == '(' || c == '[' then
      if depth == 0 then kept else trailingFrom (depth - 1) (c :: kept) rest
    else if (c == '=' || c == ',') && depth == 0 then kept
    else trailingFrom depth (c :: kept) rest

/-- The last expression of a token. -/
def trailingExpr (token : Text) : Text := trailingFrom 0 [] token.reverse

/-- A method name with the receiver written right before it. -/
def withReceiver (before name : Text) : Text :=
  let token := trailingExpr (lastWord before)
  if endsWith token "." then token ++ name else name

/-- The receiver is exactly one node lookup. -/
def isNodeQuery (receiver : Text) : Bool :=
  !receiver.isEmpty &&
    [nodePath, uniqueName, getNode].any fun r => r none receiver == receiver.length

/-- Splits at the commas outside brackets and literals: pairs hold a masked byte and the byte
itself, and `piece` what was read since the last comma, last byte first. -/
def splitArgsFrom (depth : Int) (piece : Text) : List (UInt8 × UInt8) → List Text
  | [] => [trim piece.reverse]
  | (m, c) :: rest =>
    if m == ',' && depth == 0 then trim piece.reverse :: splitArgsFrom depth [] rest
    else
      let depth := if m == '(' || m == '[' || m == '{' then depth + 1
        else if m == ')' || m == ']' || m == '}' then depth - 1 else depth
      splitArgsFrom depth (c :: piece) rest

/-- The arguments of an argument list, split at its top-level commas. -/
def splitArgs (args : Text) : List Text :=
  if isSpace args then [] else splitArgsFrom 0 [] ((mask args).zip args)

/-- The text is a quoted name, possibly with `&` before it. -/
def isQuotedName (s : Text) : Bool :=
  match stripStart (trim s) "&" with
  | c :: d :: rest => isQuote c && (d :: rest).getLast? == some c
  | _ => false

/-- A quoted name without its quotes. -/
def unquoteName (s : Text) : Text := unquote (stripStart (trim s) "&")

/-- The handler name of an anonymous function. -/
def lambdaHandler : Text := "<lambda>"

/-- The part of a text before `marker`. -/
def before (s marker : Text) : Text :=
  match find? s marker with
  | some i => s.take i
  | none => s

/-- The method that a callable expression names. -/
def handlerName (expr : Text) : Text :=
  let e := trim expr
  if startsWith e "func" then lambdaHandler
  else
    let callable := match callForm? e with
      | some call => if call.callee == "Callable" then splitArgs call.args else []
      | none => []
    match callable with
    | [_, name] => unquoteName name
    | _ => before (before (stripStart e "self.") ".bind(") ".call_deferred"

/-! ## Connections -/

/-- The name under which an object appears as the source of a signal. -/
def sourceName (receiver : Text) : Text := if receiver.isEmpty then selfObject else receiver

/-- `source.connect("signal", target, "method")` or `source.connect("signal", callable)`. -/
def namedConnection? (receiver signal : Text) (more : List Text) (method : Text) (line : Nat) :
    Option SignalConnection :=
  let handler := match more with
    | [] => []
    | [h] => handlerName h
    | h :: name :: _ => if isQuotedName name then unquoteName name else handlerName h
  if signal.isEmpty then none
  else some { source := sourceName receiver, signal, handler, method, line }

/-- `source.signal.connect(callable)`. -/
def memberConnection? (receiver : Text) (args : List Text) (method : Text) (line : Nat) :
    Option SignalConnection :=
  let handler := (args.head?.map handlerName).getD []
  if receiver.isEmpty || receiver == "self" then none
  else match findLastByte? receiver '.' with
    | some i =>
      some { source := receiver.take i, signal := receiver.drop (i + 1), handler, method, line }
    | none => some { source := selfObject, signal := receiver, handler, method, line }

/-- The connection made by a call of `connect`. -/
def connection? (method : Text) (c : Call.Shape) : Option SignalConnection :=
  let args := splitArgs c.args
  let receiver := stripStart c.receiver "self."
  match args with
  | [] => memberConnection? receiver [] method c.line
  | a :: more =>
    if isQuotedName a then namedConnection? receiver (unquoteName a) more method c.line
    else memberConnection? receiver args method c.line

/-! ## Lines -/

/-- The node lookups outside string literals. -/
def nodeQueries (code masked : Text) : List Text :=
  let cut := fun ((i, n) : Nat × Nat) => slice code i (i + n)
  let paths := (occurrences nodePath code).filter fun (i, _) => masked[i]? == some '$'
  let unique := (occurrences uniqueName masked).filter fun (i, _) =>
    i == 0 || !(masked[i - 1]?).any fun p => isIdent p || p == ')' || p == ']'
  let calls := (occurrences getNode code).filter fun (i, _) =>
    masked[i]? == some 'g' && (i == 0 || !(code[i - 1]?).any isIdent)
  (paths ++ unique ++ calls).map cut

/-- The calls that change the tree, with their receivers. -/
def treeCalls (code masked : Text) : List Text :=
  (occurrences treeCall masked).filterMap fun (i, _) =>
    (treeMethod? (masked.drop i)).map (withReceiver (code.take i))

/-- The calls whose argument may name a scene, and whether a dot may stand before them. -/
def sceneLoaders : List (Text × Bool) :=
  [("preload", false), ("load", false), ("ResourceLoader.load", true),
    ("change_scene_to_file", true)]

/-- The path ends like a scene file. -/
def isScenePath (p : Text) : Bool :=
  [Text.ofString ".tscn", ".scn", ".escn"].contains (lower (Path.extension p))

/-- The scenes loaded or instantiated. -/
def loadedScenes (code masked : Text) : List Text :=
  let loaded := sceneLoaders.flatMap fun (name, allowDot) =>
    (quotedArgs code name allowDot).filter isScenePath
  let made := (occurrences instantiateCall masked).map fun (i, _) =>
    trailingExpr (lastWord (code.take i)) ++ ".instantiate()"
  loaded ++ made

/-- Adds what one line of a method does. -/
def addLine (method : Text) (x : Interactions) (l : Script.Line) : Interactions :=
  let code := stripComment l.text
  if isSpace code then x
  else
    let masked := mask code
    let calls := Call.shapes l.text l.number
    { x with
      nodeQueries := appendNew x.nodeQueries (nodeQueries code masked)
      treeManipulation := appendNew x.treeManipulation (treeCalls code masked)
      sceneLoading := appendNew x.sceneLoading (loadedScenes code masked)
      downward := appendNew x.downward
        ((calls.filter (isNodeQuery ·.receiver)).map fun c => c.receiver ++ "." ++ c.method)
      connections := x.connections
        ++ (calls.filter fun c => c.method == ("connect" : Text)).filterMap (connection? method) }

/-- What a script does with the scene tree. -/
def ofScript (p : Script.Parsed) : Interactions :=
  let x := (Scope.methodsWithBodies p).foldl
    (fun x (m, b) => b.lines.foldl (addLine m.name) x) ({} : Interactions)
  { x with upward := dedup p.decl.emittedNames }

end Interaction

/-! ## Documents -/

open Document

def SignalConnection.document (c : SignalConnection) : Document :=
  ofFields [field "source" (.text c.source), field "signal" (.text c.signal),
    textField "handler" c.handler, field "method" (.text c.method), field "line" (nat c.line)]

def Interactions.document (x : Interactions) : Document :=
  ofFields [field "node_queries" (texts x.nodeQueries),
    field "tree_manipulation" (texts x.treeManipulation),
    field "scene_loading" (texts x.sceneLoading), field "downward_communication" (texts x.downward),
    field "upward_communication" (texts x.upward),
    field "signal_connections" (.list (x.connections.map SignalConnection.document))]

/-- The behaviour section of a script report. -/
structure BehaviorAnalysis where
  patternCount : Nat
  signalCount : Nat
  variableCount : Nat
  summaries : List MethodSummary
  interactions : Interactions
  deriving DecidableEq, Repr

namespace BehaviorAnalysis

/-- Puts the parts of the section together. -/
def ofParts (d : ScriptDecl) (i : Insights) (summaries : List MethodSummary) (x : Interactions) :
    BehaviorAnalysis :=
  ⟨i.patterns.length, d.signals.length, d.allVariables.length, summaries, x⟩

def document (b : BehaviorAnalysis) : Document :=
  ofFields [field "pattern_count" (nat b.patternCount), field "signal_count" (nat b.signalCount),
    field "variable_count" (nat b.variableCount),
    field "method_summaries" (.list (b.summaries.map MethodSummary.document)),
    field "scene_interactions" b.interactions.document]

end BehaviorAnalysis

end GodotSurvey
