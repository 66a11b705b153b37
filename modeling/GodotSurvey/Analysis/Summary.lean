import GodotSurvey.Analysis.Call

/-!
# Method summaries

For each method of a script: what it calls, by kind and each name once, and the signals it emits.
-/

namespace GodotSurvey

/-- What the body of one method does. `calls` is empty unless records are kept. -/
structure MethodSummary where
  name : Text
  line : Nat
  parameters : List Parameter
  returnType : Text
  internalCalls : List Text := []
  externalCalls : List Text := []
  builtinCalls : List Text := []
  signalsEmitted : List Text := []
  calls : List CallRecord := []
  deriving DecidableEq, Repr

namespace MethodSummary

/-- The names of the calls of one kind, each once. -/
def namesOf (kind : CallKind) (records : List CallRecord) : List Text :=
  Text.dedup ((records.filter (·.kind == kind)).map (·.qualifiedName))

/-- The records of all calls in a body. -/
def bodyRecords (ctx : Call.Context) (b : Script.Body) : List CallRecord :=
  b.lines.flatMap fun l => Call.records ctx l.text l.number

/-- The signals emitted in a body, each once. -/
def bodySignals (b : Script.Body) : List Text :=
  Text.dedup (b.lines.flatMap fun l => Script.emittedSignals l.text)

/-- The summary of one method. -/
def ofMethod (ctx : Call.Context) (keepRecords : Bool) (m : MethodDecl) (b : Script.Body) :
    MethodSummary :=
  let records := bodyRecords ctx b
  { name := m.name, line := m.line, parameters := m.parameters, returnType := m.returnType
    internalCalls := namesOf .internal records
    externalCalls := namesOf .external records
    builtinCalls := namesOf .builtin records
    signalsEmitted := bodySignals b
    calls := if keepRecords then records else [] }

/-- The summaries of a script's methods in declaration order. -/
def ofScript (p : Script.Parsed) (r : Registry) (keepRecords : Bool) : List MethodSummary :=
  let declared := p.decl.methods.map (·.name)
  let cls := Scope.ofClass p.decl
  (Scope.methodsWithBodies p).map fun (m, b) =>
    ofMethod { scope := Scope.ofMethod cls m b, registry := r, declared } keepRecords m b

open Document in
def document (s : MethodSummary) : Document :=
  ofFields [field "name" (.text s.name), field "line_number" (nat s.line),
    field "parameters" (.list (s.parameters.map Parameter.document)),
    textField "return_type" s.returnType, field "internal_calls" (texts s.internalCalls),
    field "external_calls" (texts s.externalCalls), field "builtin_calls" (texts s.builtinCalls),
    field "signals_emitted" (texts s.signalsEmitted),
    listField "calls" (s.calls.map CallRecord.document)]

end MethodSummary

end GodotSurvey
