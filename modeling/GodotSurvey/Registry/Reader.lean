import GodotSurvey.Json.Decode
import GodotSurvey.Registry.Basic

/-!
# Reading classes from JSON
-/

namespace GodotSurvey

open Json (Value)

def GlobalClass.ofValue? : Value → Option GlobalClass :=
  Value.record? fun ms => do
    return { name := ← (ms.get "name").text?, path := ← (ms.get "path").text?
             base := ← (ms.get "base").text?, language := ← (ms.get "language").text?
             autoload := ← (ms.get "autoload").bool? }

/-- The registry of a list of classes. -/
def Registry.ofValue? (v : Value) : Option Registry :=
  (v.list? GlobalClass.ofValue?).map Registry.ofClasses

end GodotSurvey
