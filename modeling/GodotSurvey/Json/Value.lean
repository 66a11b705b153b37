import GodotSurvey.Text.Number

/-!
# JSON values

A JSON value as written: objects keep the order of their members, and a number keeps its text.
-/

namespace GodotSurvey.Json

inductive Value where
  | null
  | bool (b : Bool)
  | number (literal : Text)
  | string (t : Text)
  | array (items : List Value)
  | object (members : List (Text × Value))
  deriving Inhabited, Repr

namespace Value

/-- The number that a literal denotes, as a double. An exponent far below that of the smallest double
makes zero of the number, whatever its digits. -/
def floatOf (literal : Text) : Float :=
  match Text.parseScientific? literal with
  | none => 0
  | some x =>
    let m := match x.exponent with
      | .ofNat e => Float.ofScientific x.mantissa false (if x.mantissa == 0 then 0 else e)
      | .negSucc e => if e > 2000 + x.mantissa.log2 then 0 else Float.ofScientific x.mantissa true (e + 1)
    if x.negative then -m else m

end Value

end GodotSurvey.Json
