import GodotSurvey.Graph.Metrics
import GodotSurvey.Proofs.Graph.Building
import GodotSurvey.Proofs.Graph.Parts
import Mathlib.Data.List.Perm.Subperm
import Mathlib.Order.Lattice

/-!
# Pruning

A graph that is too large is pruned: the nodes of highest rank are kept, as many as there may be, and
of the edges between them the first ones. Whatever the ranks are, the result is a part of the graph
within the limits, so it is not pruned again.

* `rank_le_of_dropped` — a node that is kept is not ranked lower than one that is dropped.
* `pruneBy?_of_fits`, `pruneBy?_of_not_fits` — the two cases.
* `isPruned_pruned` — what the second case gives.
* `pruneBy?_keeps` — **pruning keeps what it may of a closed graph, and pruning again changes
  nothing.**
-/

namespace GodotSurvey.Graph

variable {g : Graph} {maxNodes maxEdges : Int}

/-! ## Ranks -/

section Ranks

variable {ρ : Type} [LinearOrder ρ] (rank : Node → ρ)

/-- The first node may stand before the second: it is not ranked lower. -/
def outranks (a b : Node) : Bool := decide (rank b ≤ rank a)

theorem pairwise_ranked (nodes : List Node) :
    (nodes.mergeSort (outranks rank)).Pairwise fun a b => rank b ≤ rank a := by
  have htrans : ∀ a b c, outranks rank a b → outranks rank b c → outranks rank a c := by
    intro a b c hab hbc
    exact decide_eq_true (le_trans (of_decide_eq_true hbc) (of_decide_eq_true hab))
  have htotal : ∀ a b, (outranks rank a b || outranks rank b a) = true := by
    intro a b
    simpa [outranks] using le_total (rank b) (rank a)
  exact (List.pairwise_mergeSort htrans htotal nodes).imp of_decide_eq_true

variable {rank}

/-- A node that is kept is not ranked lower than one that is dropped. -/
theorem rank_le_of_dropped {nodes : List Node} {k : Nat} {a b : Node}
    (ha : a ∈ (nodes.mergeSort (outranks rank)).take k) (hb : b ∈ nodes)
    (hdropped : b ∉ (nodes.mergeSort (outranks rank)).take k) : rank b ≤ rank a := by
  have hsorted := pairwise_ranked rank nodes
  rw [← List.take_append_drop k (nodes.mergeSort (outranks rank)), List.pairwise_append] at hsorted
  have hb' : b ∈ (nodes.mergeSort (outranks rank)).drop k := by
    have hmem : b ∈ nodes.mergeSort (outranks rank) := List.mem_mergeSort.2 hb
    rw [← List.take_append_drop k (nodes.mergeSort (outranks rank)), List.mem_append] at hmem
    exact hmem.resolve_left hdropped
  exact hsorted.2.2 a ha b hb'

end Ranks

/-! ## The two cases -/

/-- The graph is within both limits. -/
def Fits (g : Graph) (maxNodes maxEdges : Int) : Prop :=
  (g.nodes.length : Int) ≤ maxNodes ∧ (g.edges.length : Int) ≤ maxEdges

instance (g : Graph) (maxNodes maxEdges : Int) : Decidable (Fits g maxNodes maxEdges) :=
  inferInstanceAs (Decidable (_ ∧ _))

/-- The first nodes in an order. -/
def firstNodes (before : Node → Node → Bool) (maxNodes : Int) (g : Graph) : List Node :=
  (g.nodes.mergeSort before).take maxNodes.toNat

/-- The first of the edges that join nodes. -/
def firstEdges (nodes : List Node) (maxEdges : Int) (g : Graph) : List Edge :=
  (g.edges.filter (·.joins nodes)).take maxEdges.toNat

/-- The first nodes and the first edges between them, both sorted. -/
def pruned (before : Node → Node → Bool) (maxNodes maxEdges : Int) (g : Graph) : Graph :=
  sorted ⟨firstNodes before maxNodes g, firstEdges (firstNodes before maxNodes g) maxEdges g⟩

theorem pruneBy?_of_fits (h : g.Fits maxNodes maxEdges) (before : Node → Node → Bool) :
    g.pruneBy? before maxNodes maxEdges = some g := by
  simp [pruneBy?, h.1, h.2]

theorem pruneBy?_of_not_fits (hclosed : g.IsClosed) (hnodes : 0 ≤ maxNodes) (hedges : 0 ≤ maxEdges)
    (h : ¬ g.Fits maxNodes maxEdges) (before : Node → Node → Bool) :
    g.pruneBy? before maxNodes maxEdges = some (pruned before maxNodes maxEdges g) := by
  -- Without nodes there would be no edges, and the graph would be within the limits.
  have hne : g.nodes ≠ [] := by
    intro hnil
    apply h
    simp [Fits, hnil, hclosed.edges_eq_nil hnil, hnodes, hedges]
  have hlimits : ¬ ((g.nodes.length : Int) ≤ maxNodes && (g.edges.length : Int) ≤ maxEdges) := by
    simpa [Fits] using h
  have hchoose : ¬ (g.nodes.isEmpty || decide (maxNodes < 0)) := by
    simp [hne, hnodes]
  rw [pruneBy?, if_neg hlimits, if_neg hchoose]
  rfl

/-! ## What pruning gives -/

/-- The second graph has the nodes of highest rank of the first, as many as there may be, and the
first of the edges between them, all in order. -/
structure IsPruned {ρ : Type} [LinearOrder ρ] (rank : Node → ρ) (maxNodes maxEdges : Int)
    (g p : Graph) : Prop where
  length_nodes : (p.nodes.length : Int) = min maxNodes g.nodes.length
  nodes_subset : p.nodes ⊆ g.nodes
  ranked : ∀ n ∈ p.nodes, ∀ m ∈ g.nodes, m ∉ p.nodes → rank m ≤ rank n
  edges_perm : p.edges.Perm ((g.edges.filter (·.joins p.nodes)).take maxEdges.toNat)
  length_edges : (p.edges.length : Int) = min maxEdges (g.edges.filter (·.joins p.nodes)).length
  nodes_sorted : p.nodes.Pairwise fun a b => Text.lt a.id b.id
  edges_sorted : p.edges.Pairwise fun a b => Edge.le a b

/-- No edge of a pruned graph dangles. -/
theorem IsPruned.isClosed {ρ : Type} [LinearOrder ρ] {rank : Node → ρ} {p : Graph}
    (h : IsPruned rank maxNodes maxEdges g p) : p.IsClosed := by
  intro e he
  have hfirst := List.mem_of_mem_take (h.edges_perm.mem_iff.1 he)
  exact (List.mem_filter.1 hfirst).2

theorem IsPruned.fits {ρ : Type} [LinearOrder ρ] {rank : Node → ρ} {p : Graph}
    (h : IsPruned rank maxNodes maxEdges g p) : p.Fits maxNodes maxEdges := by
  constructor
  · rw [h.length_nodes]
    exact Int.min_le_left _ _
  · rw [h.length_edges]
    exact Int.min_le_left _ _

theorem firstNodes_sublist (before : Node → Node → Bool) (maxNodes : Int) (g : Graph) :
    (firstNodes before maxNodes g).Sublist (g.nodes.mergeSort before) :=
  List.take_sublist _ _

theorem perm_nodes_pruned (before : Node → Node → Bool) :
    (pruned before maxNodes maxEdges g).nodes.Perm (firstNodes before maxNodes g) :=
  List.mergeSort_perm _ _

/-- Sorting the nodes does not change which edges join them. -/
theorem filter_joins_pruned (before : Node → Node → Bool) :
    g.edges.filter (·.joins (pruned before maxNodes maxEdges g).nodes) =
      g.edges.filter (·.joins (firstNodes before maxNodes g)) := by
  have hperm : (pruned before maxNodes maxEdges g).nodes.Perm (firstNodes before maxNodes g) :=
    perm_nodes_pruned before
  exact List.filter_congr fun e _ => Edge.joins_congr (fun id => (hperm.map (·.id)).mem_iff) e

theorem isPruned_pruned {ρ : Type} [LinearOrder ρ] (rank : Node → ρ)
    (hids : (g.nodes.map (·.id)).Nodup) (hnodes : 0 ≤ maxNodes) (hedges : 0 ≤ maxEdges) :
    IsPruned rank maxNodes maxEdges g (pruned (outranks rank) maxNodes maxEdges g) := by
  have hperm : (pruned (outranks rank) maxNodes maxEdges g).nodes.Perm
      (firstNodes (outranks rank) maxNodes g) := perm_nodes_pruned _
  have hperm' : (pruned (outranks rank) maxNodes maxEdges g).edges.Perm
      (firstEdges (firstNodes (outranks rank) maxNodes g) maxEdges g) := List.mergeSort_perm _ _
  have hsub := firstNodes_sublist (outranks rank) maxNodes g
  have hsorted := List.mergeSort_perm g.nodes (outranks rank)
  refine ⟨?_, ?_, ?_, ?_, ?_, ?_, ?_⟩
  · rw [hperm.length_eq, firstNodes, List.length_take, hsorted.length_eq]
    omega
  · intro n hn
    exact hsorted.subset (hsub.subset (hperm.subset hn))
  · intro n hn m hm hdropped
    refine rank_le_of_dropped (hperm.subset hn) hm ?_
    intro hkept
    exact hdropped (hperm.symm.subset hkept)
  · rw [filter_joins_pruned]
    exact hperm'
  · rw [filter_joins_pruned, hperm'.length_eq, firstEdges, List.length_take]
    omega
  · have hdistinct : ((firstNodes (outranks rank) maxNodes g).map (·.id)).Nodup :=
      (hsub.map _).nodup ((hsorted.map _).nodup_iff.2 hids)
    exact Text.ascending_mergeSort hdistinct
  · exact @List.pairwise_mergeSort _ Edge.le (fun _ _ _ => Edge.le_trans) Edge.le_total _

/-- **Pruning keeps what it may.** Let the ids of a graph be distinct and its edges join its nodes,
and let limits be given that are not negative. Whatever the ranks of nodes are, a graph within the
limits is kept as it is. Of any other, as many nodes are kept as there may be, none ranked lower
than one that is dropped, and of the edges that join them the first ones, as many as there may be;
both come out in order. The result has no edge that dangles, and pruning it again, by whatever
order of its nodes, does not change it. -/
theorem pruneBy?_keeps {ρ : Type} [LinearOrder ρ] (rank : Node → ρ)
    (hids : (g.nodes.map (·.id)).Nodup) (hclosed : g.IsClosed) (hnodes : 0 ≤ maxNodes)
    (hedges : 0 ≤ maxEdges) :
    ∃ p, g.pruneBy? (outranks rank) maxNodes maxEdges = some p ∧
      (g.Fits maxNodes maxEdges → p = g) ∧
      (¬ g.Fits maxNodes maxEdges → IsPruned rank maxNodes maxEdges g p) ∧
      p.IsClosed ∧
      ∀ before, p.pruneBy? before maxNodes maxEdges = some p := by
  by_cases hfits : g.Fits maxNodes maxEdges
  · exact ⟨g, pruneBy?_of_fits hfits _, fun _ => rfl, fun h => absurd hfits h, hclosed,
      pruneBy?_of_fits hfits⟩
  · have hpruned := isPruned_pruned rank hids hnodes hedges
    exact ⟨_, pruneBy?_of_not_fits hclosed hnodes hedges hfits _, fun h => absurd h hfits,
      fun _ => hpruned, hpruned.isClosed, pruneBy?_of_fits hpruned.fits⟩

/-- Two scripts that load each other, and a scene with both. -/
def crossroads : Graph where
  nodes := [fileNode "res://a.gd", fileNode "res://b.gd", fileNode "res://main.tscn"]
  edges := [⟨"res://main.tscn", "res://a.gd", .attaches, 1⟩,
    ⟨"res://main.tscn", "res://b.gd", .attaches, 1⟩,
    ⟨"res://b.gd", "res://a.gd", .dependency .preload, 1⟩,
    ⟨"res://a.gd", "res://b.gd", .dependency .load, 2⟩]

/-- How many edges lead to a node. -/
def edgesTo (g : Graph) (n : Node) : Nat := (g.edges.filter (·.target == n.id)).length

/-- With two nodes to keep, the scene is dropped, to which no edge leads. -/
theorem pruneBy?_keeps_crossroads :
    let scene := fileNode "res://main.tscn"
    (crossroads.nodes.map (·.id)).Nodup ∧ crossroads.IsClosed ∧ (0 : Int) ≤ 2 ∧ (0 : Int) ≤ 1 ∧
      ∃ p, crossroads.pruneBy? (outranks crossroads.edgesTo) 2 1 = some p ∧
        p.nodes.length = 2 ∧ scene ∉ p.nodes ∧ p.IsClosed ∧ p.prune? 2 1 = some p := by
  intro scene
  have hids : (crossroads.nodes.map (·.id)).Nodup := by decide
  have hclosed : crossroads.IsClosed := by decide
  have hfits : ¬ crossroads.Fits 2 1 := by decide
  have hnodes : (0 : Int) ≤ 2 := by decide
  have hedges : (0 : Int) ≤ 1 := by decide
  obtain ⟨p, hp, -, hpruned, hpart, hagain⟩ :=
    pruneBy?_keeps crossroads.edgesTo hids hclosed hnodes hedges
  have hpruned := hpruned hfits
  have hlength : p.nodes.length = 2 := by
    have htwo : (p.nodes.length : Int) = 2 := hpruned.length_nodes.trans (by decide)
    omega
  refine ⟨hids, hclosed, hnodes, hedges, p, hp, hlength, ?_, hpart, hagain _⟩
  -- If the scene were kept, so were the scripts, which are ranked higher: three nodes of two.
  intro hscene
  have hlowest : ∀ n ∈ crossroads.nodes,
      crossroads.edgesTo n ≤ crossroads.edgesTo scene → n = scene := by decide
  have hall : crossroads.nodes ⊆ p.nodes := by
    intro n hn
    by_contra hdropped
    have hrank := hpruned.ranked scene hscene n hn hdropped
    exact hdropped (hlowest n hn hrank ▸ hscene)
  have hthree := (List.subperm_of_subset (by decide) hall).length_le
  rw [hlength] at hthree
  exact absurd hthree (by decide)

end GodotSurvey.Graph
