import GodotSurvey.Graph.Mermaid
import GodotSurvey.Json.Decode

/-!
# Reading graphs from JSON
-/

namespace GodotSurvey

open Json (Value)

def Graph.Node.ofValue? : Value → Option Graph.Node :=
  Value.record? fun ms => do
    return { id := ← (ms.get "id").text?, name := ← (ms.get "name").text?
             kind := NodeKind.ofName (← (ms.get "type").text?) }

def Graph.Edge.ofValue? : Value → Option Graph.Edge :=
  Value.record? fun ms => do
    return { source := ← (ms.get "from").text?, target := ← (ms.get "to").text?
             kind := EdgeKind.ofName (← (ms.get "type").text?), weight := ← (ms.get "weight").nat? }

def Graph.ofValue? : Value → Option Graph :=
  Value.record? fun ms => do
    return { nodes := ← (ms.get "nodes").list? Graph.Node.ofValue?
             edges := ← (ms.get "edges").list? Graph.Edge.ofValue? }

/-- The options of a diagram; a missing limit is none. -/
def Mermaid.Options.ofValue? : Value → Option Mermaid.Options :=
  Value.record? fun ms => do
    return { maxNodes := ← (ms.get "max_nodes").int?, maxEdges := ← (ms.get "max_edges").int?
             direction := ← (ms.get "direction").text? }

end GodotSurvey
