import GodotSurvey.Graph.Basic
import Mathlib.Data.List.Infix

/-!
# Parts of a graph

Nodes of a graph and edges between them are a part of it. Every edge of a part joins two nodes of
the part, so that no edge dangles; what keeps only some of the nodes of a graph has to give up the
edges of the others.

* `Edge.joins_iff` — what it is for an edge to join nodes.
* `filter_joins_eq_self` — all edges of a closed graph join its nodes.
-/

namespace GodotSurvey.Graph

variable {g : Graph} {nodes : List Node} {e : Edge}

/-- Both ends of the edge are among the nodes. -/
def Edge.joins (nodes : List Node) (e : Edge) : Bool :=
  nodes.any (·.id == e.source) && nodes.any (·.id == e.target)

theorem Edge.joins_iff : e.joins nodes = true ↔
    e.source ∈ nodes.map (·.id) ∧ e.target ∈ nodes.map (·.id) := by
  simp [joins]

/-- Only the ids of the nodes count. -/
theorem Edge.joins_congr {others : List Node}
    (h : ∀ id, id ∈ nodes.map (·.id) ↔ id ∈ others.map (·.id)) (e : Edge) :
    e.joins nodes = e.joins others := by
  rw [Bool.eq_iff_iff, joins_iff, joins_iff, h, h]

/-- Every edge joins two nodes of the graph. -/
def IsClosed (g : Graph) : Prop := ∀ e ∈ g.edges, e.joins g.nodes = true

instance (g : Graph) : Decidable (IsClosed g) :=
  inferInstanceAs (Decidable (∀ e ∈ g.edges, e.joins g.nodes = true))

theorem IsClosed.source_mem (h : g.IsClosed) (he : e ∈ g.edges) : e.source ∈ g.nodes.map (·.id) :=
  (Edge.joins_iff.1 (h e he)).1

theorem IsClosed.target_mem (h : g.IsClosed) (he : e ∈ g.edges) : e.target ∈ g.nodes.map (·.id) :=
  (Edge.joins_iff.1 (h e he)).2

theorem filter_joins_eq_self (h : g.IsClosed) : g.edges.filter (·.joins g.nodes) = g.edges :=
  List.filter_eq_self.2 h

/-- A closed graph without nodes has no edges. -/
theorem IsClosed.edges_eq_nil (h : g.IsClosed) (hnodes : g.nodes = []) : g.edges = [] := by
  rw [← filter_joins_eq_self h, hnodes]
  exact List.filter_eq_nil_iff.2 fun e _ => by simp [Edge.joins]

end GodotSurvey.Graph
