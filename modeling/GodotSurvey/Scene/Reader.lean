import GodotSurvey.Json.Decode
import GodotSurvey.Scene.Declaration

/-!
# Reading scene nodes from JSON
-/

namespace GodotSurvey

open Json (Value Members)

def Property.ofValue? : Value → Option Property :=
  Value.record? fun ms => do
    return { value := ← (ms.get "value").text?, raw := ← (ms.get "raw_line").text? }

def NodeDecl.ofValue? : Value → Option NodeDecl :=
  Value.record? fun ms => do
    let properties : Members ← (ms.get "properties").members?
    return { name := ← (ms.get "name").text?, type := ← (ms.get "type").text?
             path := ← (ms.get "path").text?, parentPath := ← (ms.get "parent_path").text?
             instanced := ← (ms.get "instance").text?, groups := ← (ms.get "groups").texts?
             properties := ← properties.mapM fun (k, v) => do return (k, ← Property.ofValue? v)
             line := ← (ms.get "line_number").nat? }

end GodotSurvey
