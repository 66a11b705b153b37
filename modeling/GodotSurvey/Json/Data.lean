import GodotSurvey.Decimal.Shortest
import GodotSurvey.Json.Value

/-!
# JSON values as data

A value means less than its text says: a number is the nearest double, and of several members with
one name only the last counts. Here a value is brought to a form that shows what it means, in which
a number is written as a plain decimal.
-/

namespace GodotSurvey.Json.Value

/-- A double, by the shortest plain decimal that denotes it. -/
def ofFloat (x : Float) : Value := .number (Decimal.plainOfFloat x)

def ofInt (n : Int) : Value := .number (Text.ofInt n)

/-- A date or time. No setting is one, so its text is kept as it is under a name that no setting
has. -/
def ofMoment (t : Text) : Value := .object [("moment", .string t)]

/-- The members without those that another of the same name follows. -/
def lastOfEach : List (Text × Value) → List (Text × Value)
  | [] => []
  | m :: ms => if ms.any (·.1 == m.1) then lastOfEach ms else m :: lastOfEach ms

mutual

/-- What the value means; a number that is too large for a double means nothing. -/
def data? : Value → Option Value
  | .number n => if Text.isFiniteDouble n then some (ofFloat (floatOf n)) else none
  | .array vs => (dataItems? vs).map .array
  | .object ms => (dataMembers? ms).map fun ms => .object (lastOfEach ms)
  | .null => some .null
  | .bool b => some (.bool b)
  | .string t => some (.string t)

def dataItems? : List Value → Option (List Value)
  | [] => some []
  | v :: vs =>
    match data? v, dataItems? vs with
    | some v, some vs => some (v :: vs)
    | _, _ => none

def dataMembers? : List (Text × Value) → Option (List (Text × Value))
  | [] => some []
  | (k, v) :: ms =>
    match data? v, dataMembers? ms with
    | some v, some ms => some ((k, v) :: ms)
    | _, _ => none

end

end GodotSurvey.Json.Value
