import GodotSurvey.Json.Value
import GodotSurvey.Text.Case

/-!
# Reading data out of JSON values

Readers for plain values, lists and members. Null and a missing member stand for the blank value;
names of members may differ in letter case, and of several members the last one counts.
-/

namespace GodotSurvey.Json

namespace Value

/-- The text without distinctions of letter case. -/
def foldName (s : Text) : Text := Text.lower (Text.upper s)

def text? : Value → Option Text
  | .string t => some t
  | .null => some []
  | _ => none

def bool? : Value → Option Bool
  | .bool b => some b
  | .null => some false
  | _ => none

def int? : Value → Option Int
  | .number n => Text.parseInt64? n
  | .null => some 0
  | _ => none

def nat? (v : Value) : Option Nat := v.int?.map Int.toNat

/-- A list of values that are read one by one. -/
def list? {α : Type} (read : Value → Option α) : Value → Option (List α)
  | .array vs => vs.mapM read
  | .null => some []
  | _ => none

def texts? : Value → Option (List Text) := list? text?

/-- The members of an object. -/
def members? : Value → Option (List (Text × Value))
  | .object ms => some ms
  | .null => some []
  | _ => none

/-- A value that may be missing. -/
def optional? {α : Type} (read : Value → Option α) : Value → Option (Option α)
  | .null => some none
  | v => (read v).map some

end Value

/-- The members of an object. -/
abbrev Members := List (Text × Value)

namespace Members

/-- The member of that name, null if there is none. -/
def get (ms : Members) (name : Text) : Value :=
  ((ms.reverse.find? fun m => Value.foldName m.1 == Value.foldName name).map (·.2)).getD .null

end Members

/-- Reads a record by its members. -/
def Value.record? {α : Type} (read : Members → Option α) (v : Value) : Option α :=
  v.members?.bind read

end GodotSurvey.Json
