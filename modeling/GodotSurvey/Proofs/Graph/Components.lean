import GodotSurvey.Proofs.Graph.Cycles
import GodotSurvey.Proofs.Graph.Parts
import Mathlib.Algebra.BigOperators.Group.Finset.Basic

/-!
# The numbers of a graph

The metrics of a graph list its nodes with their degrees, and sum the graph up. Every edge of a
closed graph enters one node and leaves one, parallel edges and edges from a node to itself included,
so both kinds of degrees sum to the number of edges. Components collapse parallel edges and ignore
edges from a node to itself: they are the classes of nodes that are connected when the direction of
edges is left out.

Each edge merges at most two components. So the nodes can be given labels, equal ones at the two ends
of every edge, and each edge costs at most one label (`exists_labels`). Connected nodes have the same
label, so there are as many components as labels, or more.

* `sum_degrees` — the degrees sum to the number of edges.
* `length_components` — the components are counted.
* `ncard_le_largest`, `exists_ncard_eq_largest` — the largest one is measured.
* `nodes_le_components_add_edges` — every edge saves at most one component.
* `metrics_account` — **what the metrics of a closed graph say.**
-/

namespace GodotSurvey.Graph

variable {g : Graph}

/-! ## Connected nodes -/

/-- An edge joins the two nodes, in one direction or the other. -/
def Adjacent (g : Graph) (a b : Text) : Prop := g.Refers a b ∨ g.Refers b a

/-- Edges lead from one node to the other when their direction is left out. -/
def Connected (g : Graph) (a b : Text) : Prop := Relation.ReflTransGen g.Adjacent a b

instance (g : Graph) : Std.Symm g.Adjacent := ⟨fun _ _ => Or.symm⟩

theorem connected_equivalence (g : Graph) : Equivalence g.Connected where
  refl _ := .refl
  symm h := @Std.Symm.symm _ (Relation.ReflTransGen g.Adjacent) _ _ _ h
  trans := Relation.ReflTransGen.trans

theorem Reaches.connected {a b : Text} (h : g.Reaches a b) : g.Connected a b :=
  Relation.ReflTransGen.mono (fun _ _ => Or.inl) a b h

/-! ## Components by positions -/

/-- The successors of each position, with edges taken in both directions. -/
abbrev neighbours (g : Graph) : Array (List Nat) :=
  successors g.nodes.length (g.positionEdges ++ g.positionEdges.map Prod.swap).eraseDups

/-- The second position is found in the search from the first. -/
def finds (g : Graph) (i j : Nat) : Bool :=
  (((List.range g.nodes.length).map (reach g.neighbours)).toArray.getD i []).contains j

theorem components_eq (g : Graph) : g.components = g.classesOf g.finds := rfl

theorem represents_neighbours (h : g.ids.Nodup) : g.Represents g.neighbours g.Adjacent := by
  apply represents_successors
  · intro i j
    have hswap : (i, j) ∈ g.positionEdges.map Prod.swap ↔ (j, i) ∈ g.positionEdges := by
      simp
    rw [List.mem_eraseDups, List.mem_append, hswap, mem_positionEdges h, mem_positionEdges h,
      Adjacent]
    tauto
  · rintro a b (hab | hba)
    · exact hab.1
    · exact hba.2.1

/-- A position finds another exactly if their ids are connected. -/
theorem mirrors_finds (h : g.ids.Nodup) : g.Mirrors g.finds g.Connected := by
  intro i hi j hj
  rw [finds, getD_map_range, if_pos hi, List.contains_iff_mem,
    (represents_neighbours h).mem_reach h hi hj]
  exact Iff.rfl

/-- The components are the classes of connected nodes. -/
theorem length_components (h : g.ids.Nodup) :
    g.components.length = (g.idClasses g.Connected).ncard := by
  rw [components_eq]
  exact length_classesOf h (connected_equivalence g) (mirrors_finds h)

/-! ## The largest component -/

theorem le_foldl_max (ks : List (List Nat)) (m : Nat) :
    m ≤ ks.foldl (fun m k => max m k.length) m ∧
      ∀ k ∈ ks, k.length ≤ ks.foldl (fun m k => max m k.length) m := by
  induction ks generalizing m with
  | nil => simp
  | cons k ks ih =>
    obtain ⟨hm, hks⟩ := ih (max m k.length)
    rw [List.foldl_cons, List.forall_mem_cons]
    exact ⟨by omega, by omega, hks⟩

theorem foldl_max_mem (ks : List (List Nat)) (m : Nat) :
    ks.foldl (fun m k => max m k.length) m = m ∨
      ∃ k ∈ ks, k.length = ks.foldl (fun m k => max m k.length) m := by
  induction ks generalizing m with
  | nil => exact .inl rfl
  | cons k ks ih =>
    rw [List.foldl_cons]
    obtain hm | ⟨l, hl, hlength⟩ := ih (max m k.length)
    · obtain hmk | hmk := Nat.le_total m k.length
      · exact .inr ⟨k, List.mem_cons_self, by omega⟩
      · exact .inl (by omega)
    · exact .inr ⟨l, List.mem_cons_of_mem k hl, hlength⟩

/-- The size of the largest component. -/
def largest (g : Graph) : Nat := g.components.foldl (fun m c => max m c.length) 0

theorem ncard_le_largest (h : g.ids.Nodup) {C : Set Text} (hC : C ∈ g.idClasses g.Connected) :
    C.ncard ≤ g.largest := by
  obtain ⟨k, hk, rfl⟩ := exists_idsAt_eq (connected_equivalence g) (mirrors_finds h) hC
  rw [ncard_idsAt h hk]
  exact (le_foldl_max g.components 0).2 k hk

theorem largest_pos (hne : g.nodes ≠ []) : 0 < g.largest := by
  obtain ⟨k, hk, hmem⟩ := exists_classesOf g.finds (List.length_pos_iff.2 hne)
  have hle : k.length ≤ g.largest := (le_foldl_max g.components 0).2 k hk
  have hpos := List.length_pos_of_mem hmem
  omega

theorem exists_ncard_eq_largest (h : g.ids.Nodup) (hne : g.nodes ≠ []) :
    ∃ C ∈ g.idClasses g.Connected, C.ncard = g.largest := by
  obtain hzero | ⟨k, hk, hmax⟩ := foldl_max_mem g.components 0
  · exact absurd hzero (largest_pos hne).ne'
  · refine ⟨_, idsAt_mem_idClasses (connected_equivalence g) (mirrors_finds h) hk, ?_⟩
    rw [ncard_idsAt h hk, hmax, largest]

/-! ## Components, nodes and edges -/

/-- Labels that are equal at both ends of every edge, of which each edge costs at most one. -/
theorem exists_labels (es : List (Text × Text)) (S : Finset Text) :
    ∃ label : Text → Text, (∀ e ∈ es, label e.1 = label e.2) ∧
      S.card ≤ (S.image label).card + es.length := by
  induction es with
  | nil => exact ⟨id, by simp, by simp⟩
  | cons e es ih =>
    obtain ⟨label, hends, hcard⟩ := ih
    -- The label of one end gives way to that of the other.
    let relabel (a : Text) : Text := if label a = label e.1 then label e.2 else label a
    refine ⟨relabel, ?_, ?_⟩
    · have hrest : ∀ d ∈ es, relabel d.1 = relabel d.2 := by
        intro d hd
        simp only [relabel, hends d hd]
      refine List.forall_mem_cons.2 ⟨?_, hrest⟩
      by_cases hsame : label e.2 = label e.1 <;> simp [relabel, hsame]
    · have hsub : (S.image label).erase (label e.1) ⊆ S.image relabel := by
        intro l hl
        obtain ⟨hne, hl⟩ := Finset.mem_erase.1 hl
        obtain ⟨a, ha, rfl⟩ := Finset.mem_image.1 hl
        exact Finset.mem_image.2 ⟨a, ha, if_neg hne⟩
      have hle := Finset.card_le_card hsub
      have hlost := Finset.pred_card_le_card_erase (s := S.image label) (a := label e.1)
      rw [List.length_cons]
      omega

/-- What is the same for connected nodes takes no more values than there are components. -/
theorem card_image_le_components (h : g.ids.Nodup) {label : Text → Text}
    (hlabel : ∀ a b, g.Connected a b → label a = label b) :
    (g.ids.toFinset.image label).card ≤ g.components.length := by
  have hsub : g.ids.toFinset.image label ⊆
      (g.components.map fun k => label (g.idAt (k.headD 0))).toFinset := by
    intro l hl
    obtain ⟨a, ha, rfl⟩ := Finset.mem_image.1 hl
    obtain ⟨i, hi, rfl⟩ := exists_idAt (List.mem_toFinset.1 ha)
    obtain ⟨k, hk, hik⟩ := exists_classesOf g.finds hi
    refine List.mem_toFinset.2 (List.mem_map.2 ⟨k, hk, hlabel _ _ ?_⟩)
    have hhead : k.headD 0 ∈ k := by
      cases k with
      | nil => cases hik
      | cons j k => exact List.mem_cons_self
    exact (mem_classesOf_iff (connected_equivalence g) (mirrors_finds h) hk hhead hi).1 hik
  calc (g.ids.toFinset.image label).card
      ≤ (g.components.map fun k => label (g.idAt (k.headD 0))).toFinset.card :=
        Finset.card_le_card hsub
    _ ≤ (g.components.map fun k => label (g.idAt (k.headD 0))).length := List.toFinset_card_le _
    _ = g.components.length := List.length_map _

theorem nodes_le_components_add_edges (h : g.ids.Nodup) :
    g.nodes.length ≤ g.components.length + g.edges.length := by
  obtain ⟨label, hends, hcard⟩ :=
    exists_labels (g.edges.map fun e => (e.source, e.target)) g.ids.toFinset
  have hrefers : ∀ a b, g.Refers a b → label a = label b := by
    rintro a b ⟨-, -, e, he, rfl, rfl⟩
    exact hends (e.source, e.target) (List.mem_map.2 ⟨e, he, rfl⟩)
  have hlabel : ∀ a b, g.Connected a b → label a = label b := by
    intro a b hab
    induction hab with
    | refl => rfl
    | tail _ hstep ih =>
      obtain hstep | hstep := hstep
      · exact ih.trans (hrefers _ _ hstep)
      · exact ih.trans (hrefers _ _ hstep).symm
  have hvalues := card_image_le_components h hlabel
  have hnodes : g.ids.toFinset.card = g.nodes.length := by
    rw [List.toFinset_card_of_nodup h, ids, List.length_map]
  rw [hnodes, List.length_map] at hcard
  omega

/-! ## Degrees -/

/-- Where distinct ids hold all ends, counting the ends at each id counts all of them. -/
theorem sum_count_ids (h : g.ids.Nodup) {ends : List Text} (hends : ∀ a ∈ ends, a ∈ g.ids) :
    (g.ids.map fun a => ends.count a).sum = ends.length := by
  have hcount (a : Text) : Multiset.count a (ends : Multiset Text) = ends.count a :=
    List.countP_congr fun b _ => by simpa using eq_comm
  have hsum := Multiset.sum_count_eq_card (s := g.ids.toFinset) (m := (ends : Multiset Text))
    fun a ha => List.mem_toFinset.2 (hends a ha)
  rw [← List.sum_toFinset _ h, ← Multiset.coe_card, ← hsum]
  exact Finset.sum_congr rfl fun a _ => (hcount a).symm

theorem inDegree_eq (ranks : Array Float) (n : Node) :
    (g.nodeMetric ranks n).inDegree = (g.edges.map (·.target)).count n.id := by
  rw [nodeMetric, List.count_eq_countP, List.countP_map, List.countP_eq_length_filter]
  rfl

theorem outDegree_eq (ranks : Array Float) (n : Node) :
    (g.nodeMetric ranks n).outDegree = (g.edges.map (·.source)).count n.id := by
  rw [nodeMetric, List.count_eq_countP, List.countP_map, List.countP_eq_length_filter]
  rfl

/-- A node with how many edges lead to it and leave it. -/
def degrees (g : Graph) (n : Node) : Text × Text × Nat × Nat :=
  (n.id, n.name, (g.edges.map (·.target)).count n.id, (g.edges.map (·.source)).count n.id)

/-- The metrics of a node, but for its rank. -/
def NodeMetric.shown (m : NodeMetric) : Text × Text × Nat × Nat :=
  (m.id, m.name, m.inDegree, m.outDegree)

theorem shown_nodeMetric (ranks : Array Float) (n : Node) :
    (g.nodeMetric ranks n).shown = g.degrees n := by
  rw [NodeMetric.shown, inDegree_eq, outDegree_eq]
  rfl

/-- Each edge of a closed graph enters one node and leaves one. -/
theorem sum_degrees (h : g.ids.Nodup) (hclosed : g.IsClosed) :
    ((g.nodes.map g.degrees).map (·.2.2.1)).sum = g.edges.length ∧
      ((g.nodes.map g.degrees).map (·.2.2.2)).sum = g.edges.length := by
  have htargets : ∀ a ∈ g.edges.map (·.target), a ∈ g.ids := by
    intro a ha
    obtain ⟨e, he, rfl⟩ := List.mem_map.1 ha
    exact hclosed.target_mem he
  have hsources : ∀ a ∈ g.edges.map (·.source), a ∈ g.ids := by
    intro a ha
    obtain ⟨e, he, rfl⟩ := List.mem_map.1 ha
    exact hclosed.source_mem he
  have hin := sum_count_ids h htargets
  have hout := sum_count_ids h hsources
  rw [ids, List.map_map, List.length_map] at hin hout
  rw [List.map_map, List.map_map]
  exact ⟨hin, hout⟩

/-! ## The metrics -/

theorem foldl_degrees (ms : List NodeMetric) (s : Nat) :
    ms.foldl (fun s m => s + m.inDegree + m.outDegree) s =
      s + (ms.map (·.inDegree)).sum + (ms.map (·.outDegree)).sum := by
  induction ms generalizing s with
  | nil => rfl
  | cons m ms ih =>
    rw [List.foldl_cons, ih, List.map_cons, List.map_cons, List.sum_cons, List.sum_cons]
    omega

theorem metrics_of_nil (hclosed : g.IsClosed) (hnil : g.nodes = []) : g.metrics = {} := by
  simp [metrics, hnil, hclosed.edges_eq_nil hnil]

theorem metrics_of_ne_nil (hne : g.nodes ≠ []) :
    let nodes := g.nodes.map (g.nodeMetric g.ranks)
    let degrees := nodes.foldl (fun s m => s + m.inDegree + m.outDegree) 0
    let n := g.nodes.length
    let e := g.edges.length
    g.metrics =
      { nodes := nodes.mergeSort fun a b => a.rank ≥ b.rank
        summary :=
          { totalNodes := n
            totalEdges := e
            averageDegree := Float.ofNat degrees / Float.ofNat n
            density := if 1 < n then Float.ofNat e / Float.ofNat (n * (n - 1)) else 0
            components := g.components.length
            largestComponent := g.largest
            cycles := g.cycles } } := by
  have hlength : ¬ (g.nodes.length == 0) := by simpa using hne
  rw [metrics, if_neg hlength]
  rfl

/-- The metrics list each node once, in the order of ranks. -/
theorem shown_metrics_perm (hclosed : g.IsClosed) :
    (g.metrics.nodes.map NodeMetric.shown).Perm (g.nodes.map g.degrees) := by
  by_cases hnil : g.nodes = []
  · rw [metrics_of_nil hclosed hnil, hnil]
    exact .nil
  · have hunsorted : (g.nodes.map (g.nodeMetric g.ranks)).map NodeMetric.shown =
        g.nodes.map g.degrees := by
      rw [List.map_map]
      exact List.map_congr_left fun n _ => shown_nodeMetric g.ranks n
    rw [metrics_of_ne_nil hnil, ← hunsorted]
    exact (List.mergeSort_perm _ _).map _

/-- The summary counts nodes, edges and components. -/
theorem summary_counts (hclosed : g.IsClosed) :
    g.metrics.summary.totalNodes = g.nodes.length ∧
      g.metrics.summary.totalEdges = g.edges.length ∧
      g.metrics.summary.components = g.components.length ∧
      g.metrics.summary.largestComponent = g.largest := by
  by_cases hnil : g.nodes = []
  · rw [metrics_of_nil hclosed hnil]
    simp [largest, components, classes, hnil, hclosed.edges_eq_nil hnil]
  · rw [metrics_of_ne_nil hnil]
    exact ⟨rfl, rfl, rfl, rfl⟩

/-- The degrees in the metrics sum to the number of edges. -/
theorem sum_degrees_metrics (h : g.ids.Nodup) (hclosed : g.IsClosed) :
    (g.metrics.nodes.map (·.inDegree)).sum = g.edges.length ∧
      (g.metrics.nodes.map (·.outDegree)).sum = g.edges.length := by
  have hperm := shown_metrics_perm hclosed
  obtain ⟨hin, hout⟩ := sum_degrees h hclosed
  have hin' := (hperm.map (·.2.2.1)).sum_nat
  have hout' := (hperm.map (·.2.2.2)).sum_nat
  rw [List.map_map, hin] at hin'
  rw [List.map_map, hout] at hout'
  exact ⟨hin', hout'⟩

/-- Behind the average is a total degree of two for each edge. -/
theorem averageDegree_eq (h : g.ids.Nodup) (hclosed : g.IsClosed) (hne : g.nodes ≠ []) :
    g.metrics.summary.averageDegree =
      Float.ofNat (2 * g.edges.length) / Float.ofNat g.nodes.length := by
  obtain ⟨hin, hout⟩ := sum_degrees_metrics h hclosed
  have hperm := List.mergeSort_perm (g.nodes.map (g.nodeMetric g.ranks)) fun a b => a.rank ≥ b.rank
  rw [metrics_of_ne_nil hne] at hin hout ⊢
  rw [(hperm.map (·.inDegree)).sum_nat] at hin
  rw [(hperm.map (·.outDegree)).sum_nat] at hout
  simp only [foldl_degrees, hin, hout]
  congr 2
  omega

/-- The nodes of a cycle are connected. -/
theorem members_subset_class (h : g.ids.Nodup) {c : List Text} (hc : c ∈ g.cycles) :
    ∃ C ∈ g.idClasses g.Connected, members c ⊆ C := by
  obtain ⟨a, ha, hcomponent⟩ := ((exists_cycle_iff h).1 ⟨c, hc, rfl⟩).1
  refine ⟨_, ⟨a, ha, rfl⟩, ?_⟩
  rw [hcomponent]
  intro b hb
  exact ⟨hb.mem_ids ha, hb.1.connected⟩

/-- **What the metrics say.** If the ids of a graph are distinct and its edges join its nodes, then
the metrics list each node once, with the number of edges that lead to it and of those that leave
it. Both kinds of degrees sum to the number of edges, so that the average degree is that of twice as
many over all nodes. The components are the classes of nodes that are connected when the direction
of edges is left out, and the largest is one of the largest of these. Components and edges together
are at least as many as the nodes, and the nodes of a cycle lie in one component. -/
theorem metrics_account (hids : (g.nodes.map (·.id)).Nodup) (hclosed : g.IsClosed) :
    let nodes := g.metrics.nodes
    let summary := g.metrics.summary
    let classes := g.idClasses g.Connected
    (nodes.map NodeMetric.shown).Perm (g.nodes.map g.degrees) ∧
      summary.totalNodes = g.nodes.length ∧ summary.totalEdges = g.edges.length ∧
      (nodes.map (·.inDegree)).sum = summary.totalEdges ∧
      (nodes.map (·.outDegree)).sum = summary.totalEdges ∧
      (g.nodes ≠ [] → summary.averageDegree =
        Float.ofNat (2 * summary.totalEdges) / Float.ofNat summary.totalNodes) ∧
      summary.components = classes.ncard ∧
      (∀ C ∈ classes, C.ncard ≤ summary.largestComponent) ∧
      (g.nodes ≠ [] → ∃ C ∈ classes, C.ncard = summary.largestComponent) ∧
      summary.totalNodes ≤ summary.components + summary.totalEdges ∧
      ∀ c ∈ summary.cycles, ∃ C ∈ classes, members c ⊆ C := by
  intro nodes summary classes
  obtain ⟨hnodes, hedges, hcomponents, hlargest⟩ := summary_counts hclosed
  obtain ⟨hin, hout⟩ := sum_degrees_metrics hids hclosed
  have hcycles : summary.cycles = g.cycles := metrics_cycles g
  refine ⟨shown_metrics_perm hclosed, hnodes, hedges, hin.trans hedges.symm,
    hout.trans hedges.symm, ?_, hcomponents.trans (length_components hids), ?_, ?_, ?_, ?_⟩
  · intro hne
    rw [hedges, hnodes]
    exact averageDegree_eq hids hclosed hne
  · intro C hC
    rw [hlargest]
    exact ncard_le_largest hids hC
  · rw [hlargest]
    exact exists_ncard_eq_largest hids
  · rw [hnodes, hcomponents, hedges]
    exact nodes_le_components_add_edges hids
  · intro c hc
    rw [hcycles] at hc
    exact members_subset_class hids hc

/-- Two scripts with two edges one way and one back, a script that loads itself, and a scene that
nothing refers to. -/
def islands : Graph where
  nodes := [fileNode "res://a.gd", fileNode "res://b.gd", fileNode "res://c.gd",
    fileNode "res://d.tscn"]
  edges := [⟨"res://a.gd", "res://b.gd", .dependency .preload, 1⟩,
    ⟨"res://a.gd", "res://b.gd", .dependency .load, 1⟩,
    ⟨"res://b.gd", "res://a.gd", .dependency .inheritance, 1⟩,
    ⟨"res://c.gd", "res://c.gd", .dependency .load, 3⟩]

theorem metrics_account_islands :
    let classes := islands.idClasses islands.Connected
    (islands.nodes.map (·.id)).Nodup ∧ islands.IsClosed ∧
      (islands.metrics.nodes.map (·.inDegree)).sum = 4 ∧
      classes.ncard = 3 ∧ (∀ C ∈ classes, C.ncard ≤ 2) ∧ ∃ C ∈ classes, C.ncard = 2 := by
  intro classes
  have hids : (islands.nodes.map (·.id)).Nodup := by decide
  have hclosed : islands.IsClosed := by decide
  have hcomponents : islands.metrics.summary.components = 3 := by decide
  have hlargest : islands.metrics.summary.largestComponent = 2 := by decide
  obtain ⟨-, -, hedges, hin, -, -, hcount, hle, hlarge, -⟩ := metrics_account hids hclosed
  rw [hcomponents] at hcount
  rw [hlargest] at hle hlarge
  exact ⟨hids, hclosed, hin.trans hedges, hcount.symm, hle, hlarge (by decide)⟩

end GodotSurvey.Graph
