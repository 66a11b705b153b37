import GodotSurvey.Script.Declaration
import GodotSurvey.Lexing.Bracket

/-!
# Signals emitted on a line

A script emits its own signals as `emit_signal("name")` or `name.emit()`, each also behind
`self.`. What another object emits, as in `other.name.emit()`, is not reported.
-/

namespace GodotSurvey.Script

open Text Lexing

/-- The signal emitted by `.emit(`, given the bytes before it, last byte first. -/
def emitter? (before : Text) : Option Text :=
  let name := (before.takeWhile isIdent).reverse
  let receiver := before.dropWhile isIdent
  if !isIdentifier name then none
  else match receiver with
    | [] => some name
    | c :: _ =>
      if c != '.' then some name
      else match dropStart? receiver ".fles" with
        | none => none
        | some rest => if rest.head?.any (fun d => isIdent d || d == '.') then none else some name

/-- The signals emitted by `.emit(` in a masked text; `before` holds what was read, last first. -/
def emittersFrom (before : Text) : Text → List Text
  | [] => []
  | c :: rest =>
    let found := if startsWith (c :: rest) ".emit(" then (emitter? before).toList else []
    found ++ emittersFrom (c :: before) rest

/-- The signals emitted on a line: those of `emit_signal` first, then those of `.emit`. -/
def emittedSignals (line : Text) : List Text :=
  let code := stripComment line
  quotedArgs code "emit_signal" true ++ emittersFrom [] (mask code)

end GodotSurvey.Script
