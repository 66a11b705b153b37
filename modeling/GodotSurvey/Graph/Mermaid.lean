import GodotSurvey.Graph.Basic

/-!
# Mermaid diagrams

A dependency graph as the source of a Mermaid diagram: a header, one line for each node and one for
each edge.
-/

namespace GodotSurvey.Mermaid

open Text GodotSurvey.Graph

/-- Limits of a diagram, where 0 or less means none, and its direction; an empty one is top-down. -/
structure Options where
  maxNodes : Int := 50
  maxEdges : Int := 150
  direction : Text := "LR"
  deriving DecidableEq, Repr

/-- An identifier for a node id: bytes other than letters and digits become underscores. -/
def identifier (id : Text) : Text :=
  match id.map fun c => if isLetter c || isDigit c then c else '_' with
  | [] => "empty"
  | c :: rest => if isDigit c then 'n' :: c :: rest else c :: rest

/-- The characters that may not stand in a label, and what is written instead. -/
def labelEscapes : List (Text × Text) :=
  [("&", "&amp;"), ("\"", "&quot;"), ("<", "&lt;"), (">", "&gt;"), ("|", "&#124;"),
    ("[", "&#91;"), ("]", "&#93;"), ("\x7b", "&#123;"), ("\x7d", "&#125;"), ("\n", "<br/>")]

/-- The text of a label. -/
def escapeLabel (s : Text) : Text := replace labelEscapes s

/-- The label in the shape of its kind of node. -/
def shape (kind : NodeKind) (label : Text) : Text :=
  match kind with
  | .scene => "[[\"" ++ label ++ "\"]]"
  | .resource => "[(\"" ++ label ++ "\")]"
  | .engineClass => "\x7b\x7b\"" ++ label ++ "\"\x7d\x7d"
  | _ => "[\"" ++ label ++ "\"]"

/-- The arrow of a kind of edge. -/
def arrow : EdgeKind → Text
  | .dependency .inheritance => "-->|extends|"
  | .dependency .preload => "-.->|preload|"
  | .dependency .load => "-.->|load|"
  | .attaches => "==>|script|"
  | .instances => "==>|instance|"
  | .dependency .typeHint => "---"
  | .dependency _ => "-->"

/-- At most `n` items, or all of them if `n` is not positive. -/
def limited {α : Type} (n : Int) (items : List α) : List α := if 0 < n then items.take n.toNat else items

/-- The nodes that are drawn. -/
def keptNodes (opts : Options) (g : Graph) : List Node := limited opts.maxNodes g.nodes

/-- The edges that are drawn: where nodes are left out, those between drawn nodes. -/
def keptEdges (opts : Options) (g : Graph) : List Edge :=
  let nodes := keptNodes opts g
  let edges := if nodes.length < g.nodes.length then
      g.edges.filter fun e => nodes.any (·.id == e.source) && nodes.any (·.id == e.target)
    else g.edges
  limited opts.maxEdges edges

/-- The line of a node; one without a name shows its id. -/
def nodeLine (n : Node) : Text :=
  let label := escapeLabel (if n.name.isEmpty then n.id else n.name)
  "    " ++ identifier n.id ++ shape n.kind label ++ "\n"

/-- The line of an edge. -/
def edgeLine (e : Edge) : Text :=
  "    " ++ identifier e.source ++ " " ++ arrow e.kind ++ " " ++ identifier e.target ++ "\n"

/-- The source of the diagram. -/
def render (opts : Options) (g : Graph) : Text :=
  let direction : Text := if opts.direction.isEmpty then "TD" else opts.direction
  "graph " ++ direction ++ "\n" ++ (keptNodes opts g).flatMap nodeLine
    ++ (keptEdges opts g).flatMap edgeLine

end GodotSurvey.Mermaid
