import GodotSurvey.Graph.Basic

/-!
# Metrics of a dependency graph

The rank of each node by PageRank, degrees, connected components, and cycles. A cycle here is a set
of at least two nodes each of which can be reached from every other.
-/

namespace GodotSurvey.Graph

/-! ## Positions

The algorithms below run on the positions of the nodes in the node list. An id that occurs twice
means its last position. -/

/-- The position that an id means. -/
def position? (g : Graph) (id : Text) : Option Nat :=
  (g.nodes.reverse.findIdx? (·.id == id)).map (g.nodes.length - 1 - ·)

/-- An edge between the positions of two different nodes. -/
def positionEdge? (g : Graph) (e : Edge) : Option (Nat × Nat) :=
  match g.position? e.source, g.position? e.target with
  | some i, some j => if i == j then none else some (i, j)
  | _, _ => none

/-- The edges between positions, each once. -/
def positionEdges (g : Graph) : List (Nat × Nat) := (g.edges.filterMap g.positionEdge?).eraseDups

/-- For each position its successors. -/
def successors (n : Nat) (edges : List (Nat × Nat)) : Array (List Nat) :=
  ((List.range n).map fun i => (edges.filter (·.1 == i)).map (·.2)).toArray

/-! ## Reachability -/

/-- Everything that can be reached from `queue`, where `found` is known already: each round takes
one position from the queue and adds its new successors. -/
def reachFrom (next : Array (List Nat)) : (fuel : Nat) → (found queue : List Nat) → List Nat
  | 0, found, _ => found
  | _ + 1, found, [] => found
  | fuel + 1, found, i :: queue =>
    let new := ((next.getD i []).filter (!found.contains ·)).eraseDups
    reachFrom next fuel (found ++ new) (queue ++ new)

/-- The positions that can be reached from `i`, itself among them. -/
def reach (next : Array (List Nat)) (i : Nat) : List Nat := reachFrom next (next.size + 1) [i] [i]

/-- Splits positions into classes: each class holds the positions related to its first one. -/
def classes (related : Nat → Nat → Bool) : (fuel : Nat) → List Nat → List (List Nat)
  | 0, _ => []
  | _ + 1, [] => []
  | fuel + 1, i :: rest =>
    let (mine, others) := rest.partition (related i)
    (i :: mine) :: classes related fuel others

/-- The sets of nodes that are connected when the direction of edges is ignored. -/
def components (g : Graph) : List (List Nat) :=
  let n := g.nodes.length
  let edges := g.positionEdges
  let next := successors n (edges ++ edges.map Prod.swap).eraseDups
  let reached := ((List.range n).map (reach next)).toArray
  classes (fun i j => (reached.getD i []).contains j) n (List.range n)

/-- The cycles, each as its sorted ids, in the order of their first ids. -/
def cycles (g : Graph) : List (List Text) :=
  let n := g.nodes.length
  let next := successors n g.positionEdges
  let reached := ((List.range n).map (reach next)).toArray
  let eachOther := fun i j => (reached.getD i []).contains j && (reached.getD j []).contains i
  let cyclic := (classes eachOther n (List.range n)).filter (2 ≤ ·.length)
  let ids := cyclic.map fun c => Text.sort (c.filterMap fun i => (g.nodes[i]?).map (·.id))
  ids.mergeSort fun a b => Text.le (a.headD []) (b.headD [])

/-! ## Ranks -/

/-- The probability of following an edge. -/
def damping : Float := 0.85

/-- One step of the random walk. A node without successors leads everywhere. -/
def rankStep (next : Array (List Nat)) (ranks : Array Float) : Array Float :=
  let n := next.size
  let share := fun i => ranks.getD i 0 / Float.ofNat (next.getD i []).length
  let lost := (List.range n).foldl
    (fun s i => if (next.getD i []).isEmpty then s + ranks.getD i 0 else s) 0
  let start := (1 - damping + damping * lost) / Float.ofNat n
  let init := Array.replicate n start
  (List.range n).foldl (fun acc i =>
    (next.getD i []).foldl (fun acc j => acc.modify j (· + damping * share i)) acc) init

def iterate {α : Type} (f : α → α) : Nat → α → α
  | 0, x => x
  | n + 1, x => iterate f n (f x)

/-- The PageRank of each position. The walk shrinks every error by the damping factor, so two
hundred steps leave less than a double can show. -/
def ranks (g : Graph) : Array Float :=
  let n := g.nodes.length
  iterate (rankStep (successors n g.positionEdges)) 200 (Array.replicate n (1 / Float.ofNat n))

/-- The rank of an id. -/
def rankOf (g : Graph) (ranks : Array Float) (id : Text) : Float :=
  match g.position? id with
  | some i => ranks.getD i 0
  | none => 0

/-! ## Metrics -/

structure NodeMetric where
  id : Text
  name : Text
  rank : Float
  inDegree : Nat
  outDegree : Nat

structure MetricsSummary where
  totalNodes : Nat := 0
  totalEdges : Nat := 0
  averageDegree : Float := 0
  density : Float := 0
  components : Nat := 0
  largestComponent : Nat := 0
  cycles : List (List Text) := []

/-- The number of cycles. -/
def MetricsSummary.cycleCount (s : MetricsSummary) : Nat := s.cycles.length

/-- There is a cycle. -/
def MetricsSummary.isCyclic (s : MetricsSummary) : Bool := !s.cycles.isEmpty

/-- Metrics of the nodes, the highest rank first, and of the graph. -/
structure Metrics where
  nodes : List NodeMetric := []
  summary : MetricsSummary := {}

/-- The metrics of one node. -/
def nodeMetric (g : Graph) (ranks : Array Float) (n : Node) : NodeMetric where
  id := n.id
  name := n.name
  rank := g.rankOf ranks n.id
  inDegree := (g.edges.filter (·.target == n.id)).length
  outDegree := (g.edges.filter (·.source == n.id)).length

/-- The metrics of a graph. -/
def metrics (g : Graph) : Metrics :=
  let n := g.nodes.length
  let e := g.edges.length
  if n == 0 then { summary := { totalEdges := e } }
  else
    let ranks := g.ranks
    let nodes := g.nodes.map (g.nodeMetric ranks)
    let degrees := nodes.foldl (fun s m => s + m.inDegree + m.outDegree) 0
    let comps := g.components
    { nodes := nodes.mergeSort fun a b => a.rank ≥ b.rank
      summary :=
        { totalNodes := n
          totalEdges := e
          averageDegree := Float.ofNat degrees / Float.ofNat n
          density := if 1 < n then Float.ofNat e / Float.ofNat (n * (n - 1)) else 0
          components := comps.length
          largestComponent := comps.foldl (fun m c => max m c.length) 0
          cycles := g.cycles } }

/-- The metrics with ranks to three places, a half away from zero, and nodes of equal rank sorted
by id. -/
def Metrics.rounded (m : Metrics) : Metrics :=
  let nodes := m.nodes.map fun n => { n with rank := (n.rank * 1000).round / 1000 }
  { m with nodes := nodes.mergeSort fun a b =>
      if a.rank == b.rank then Text.le a.id b.id else a.rank > b.rank }

/-! ## Pruning -/

/--
The first `maxNodes` nodes in an order, where `before a b` says that `a` may stand before `b`, and
the first `maxEdges` edges between them. A graph within both limits is kept as it is. There is no
such graph for a negative number of nodes, and none where there are no nodes to choose from.
-/
def pruneBy? (g : Graph) (before : Node → Node → Bool) (maxNodes maxEdges : Int) : Option Graph :=
  if (g.nodes.length : Int) ≤ maxNodes && (g.edges.length : Int) ≤ maxEdges then some g
  else if g.nodes.isEmpty || maxNodes < 0 then none
  else
    let nodes := (g.nodes.mergeSort before).take maxNodes.toNat
    let kept := fun id => nodes.any fun n => n.id == id
    let edges := (g.edges.filter fun e => kept e.source && kept e.target).take maxEdges.toNat
    some (Graph.sorted ⟨nodes, edges⟩)

/-- The graph with its nodes of highest rank. -/
def prune? (g : Graph) (maxNodes maxEdges : Int) : Option Graph :=
  let ranks := g.ranks
  g.pruneBy? (fun a b => g.rankOf ranks a.id ≥ g.rankOf ranks b.id) maxNodes maxEdges

/-- The limit, or the size itself where there is none. -/
def limitOr (limit : Int) (size : Nat) : Int := if limit ≤ 0 then size else limit

/-- The graph pruned to limits, of which those that are not positive are none. -/
def within (g : Graph) (maxNodes maxEdges : Int) : Graph :=
  (g.prune? (limitOr maxNodes g.nodes.length) (limitOr maxEdges g.edges.length)).getD g

/-! ## Documents -/

open Document

def NodeMetric.document (m : NodeMetric) : Document :=
  ofFields [field "node_id" (.text m.id), field "name" (.text m.name),
    field "pagerank" (.float m.rank), field "in_degree" (nat m.inDegree),
    field "out_degree" (nat m.outDegree)]

def MetricsSummary.document (s : MetricsSummary) : Document :=
  ofFields [field "total_nodes" (nat s.totalNodes), field "total_edges" (nat s.totalEdges),
    field "avg_degree" (.float s.averageDegree), field "density" (.float s.density),
    field "components" (nat s.components), field "largest_component" (nat s.largestComponent),
    field "cycle_count" (nat s.cycleCount), listField "cycles" (s.cycles.map texts),
    field "is_cyclic" (.bool s.isCyclic)]

def Metrics.document (m : Metrics) : Document :=
  ofFields [field "node_metrics" (.list (m.nodes.map NodeMetric.document)),
    field "summary" m.summary.document]

end GodotSurvey.Graph
