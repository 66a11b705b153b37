import GodotSurvey.Proofs.Graph.Positions
import GodotSurvey.Proofs.Text.Order
import Mathlib.Data.List.Chain

/-!
# Cycles

The nodes of a graph refer to each other by its edges, as far as both ends are nodes. Nodes that can
be reached from each other form a component; a cycle is a component of at least two nodes. If the
ids tell the nodes apart, the search of positions gives the cycles.

* `mirrors_eachOther` — positions find each other if their ids reach each other.
* `mem_cycles_iff` — the cycles are the components with two nodes, sorted.
* `exists_closedWalk_iff` — walks that return show the nodes that reach each other.
* `cycles_components` — **the cycles are the components of at least two nodes, each once and in
  order.**
-/

namespace GodotSurvey.Graph

variable {g : Graph}

/-! ## Reaching -/

/-- Edges lead from one node to the other. -/
def Reaches (g : Graph) (a b : Text) : Prop := Relation.ReflTransGen g.Refers a b

/-- Each of the two can be reached from the other. -/
def Mutual (g : Graph) (a b : Text) : Prop := g.Reaches a b ∧ g.Reaches b a

/-- The nodes that reach a node and are reached from it. -/
def component (g : Graph) (a : Text) : Set Text := {b | g.Mutual a b}

theorem Mutual.symm {a b : Text} (h : g.Mutual a b) : g.Mutual b a := ⟨h.2, h.1⟩

theorem Mutual.trans {a b c : Text} (hab : g.Mutual a b) (hbc : g.Mutual b c) : g.Mutual a c :=
  ⟨hab.1.trans hbc.1, hbc.2.trans hab.2⟩

theorem mutual_refl (g : Graph) (a : Text) : g.Mutual a a := ⟨.refl, .refl⟩

/-- A node is reached from nodes only. -/
theorem Reaches.mem_ids {a b : Text} (h : g.Reaches a b) (hb : b ∈ g.ids) : a ∈ g.ids := by
  obtain rfl | ⟨c, hac, -⟩ := h.cases_head
  · exact hb
  · exact hac.1

theorem Mutual.mem_ids {a b : Text} (h : g.Mutual a b) (ha : a ∈ g.ids) : b ∈ g.ids :=
  h.2.mem_ids ha

theorem mutual_equivalence (g : Graph) : Equivalence g.Mutual :=
  ⟨mutual_refl g, Mutual.symm, Mutual.trans⟩

/-- The successors of each position. -/
abbrev links (g : Graph) : Array (List Nat) := successors g.nodes.length g.positionEdges

theorem represents_links (h : g.ids.Nodup) : g.Represents g.links g.Refers :=
  represents_successors (fun _ _ => mem_positionEdges h) fun _ _ hab => hab.1

/-! ## Components by positions -/

/-- Each of two positions is found in the search from the other. -/
def eachOther (g : Graph) (i j : Nat) : Bool :=
  let reached := ((List.range g.nodes.length).map (reach g.links)).toArray
  (reached.getD i []).contains j && (reached.getD j []).contains i

/-- The classes of positions that find each other. -/
def positionClasses (g : Graph) : List (List Nat) :=
  classes g.eachOther g.nodes.length (List.range g.nodes.length)

/-- The sorted ids of positions. -/
def sortedIds (g : Graph) (c : List Nat) : List Text :=
  Text.sort (c.filterMap fun i => (g.nodes[i]?).map (·.id))

theorem cycles_eq (g : Graph) : g.cycles =
    ((g.positionClasses.filter (2 ≤ ·.length)).map g.sortedIds).mergeSort
      fun a b => Text.le (a.headD []) (b.headD []) := rfl

theorem filterMap_ids {c : List Nat} (hc : ∀ i ∈ c, i < g.nodes.length) :
    (c.filterMap fun i => (g.nodes[i]?).map (·.id)) = c.map g.idAt := by
  rw [← List.filterMap_eq_map]
  refine List.filterMap_congr fun i hi => ?_
  simp [idAt, hc i hi]

theorem sortedIds_eq {k : List Nat} (hk : k ∈ g.positionClasses) :
    g.sortedIds k = Text.sort (k.map g.idAt) := by
  rw [sortedIds, filterMap_ids fun i hi => lt_of_mem_classesOf hk hi]

theorem mem_sortedIds {k : List Nat} (hk : k ∈ g.positionClasses) {b : Text} :
    b ∈ g.sortedIds k ↔ ∃ i ∈ k, g.idAt i = b := by
  rw [sortedIds_eq hk, Text.mem_sort, List.mem_map]

theorem length_sortedIds {k : List Nat} (hk : k ∈ g.positionClasses) :
    (g.sortedIds k).length = k.length := by
  rw [sortedIds_eq hk, Text.sort, List.length_mergeSort, List.length_map]

theorem mem_cycles_iff {c : List Text} :
    c ∈ g.cycles ↔ ∃ k ∈ g.positionClasses, 2 ≤ k.length ∧ g.sortedIds k = c := by
  rw [cycles_eq, List.mem_mergeSort, List.mem_map]
  constructor
  · rintro ⟨k, hk, rfl⟩
    obtain ⟨hk, hlength⟩ := List.mem_filter.1 hk
    exact ⟨k, hk, of_decide_eq_true hlength, rfl⟩
  · rintro ⟨k, hk, hlength, rfl⟩
    exact ⟨k, List.mem_filter.2 ⟨hk, decide_eq_true hlength⟩, rfl⟩

section Unique

variable (h : g.ids.Nodup)

include h

/-- Two positions find each other exactly if their ids reach each other. -/
theorem mirrors_eachOther : g.Mirrors g.eachOther g.Mutual := by
  intro i hi j hj
  have hnext := represents_links h
  simp only [eachOther, getD_map_range, if_pos hi, if_pos hj, Bool.and_eq_true,
    List.contains_iff_mem, hnext.mem_reach h hi hj, hnext.mem_reach h hj hi]
  exact Iff.rfl

/-- The ids of a class are those of the component of any of its positions. -/
theorem mem_sortedIds_iff {k : List Nat} (hk : k ∈ g.positionClasses) {i : Nat} (hi : i ∈ k)
    {b : Text} : b ∈ g.sortedIds k ↔ g.Mutual (g.idAt i) b := by
  have hclass : b ∈ g.idsAt k ↔ b ∈ g.classOf g.Mutual (g.idAt i) := by
    rw [idsAt_eq (mutual_equivalence g) (mirrors_eachOther h) hk hi]
  have hmem : g.idAt i ∈ g.ids := idAt_mem (lt_of_mem_classesOf hk hi)
  rw [mem_sortedIds hk]
  exact hclass.trans ⟨And.right, fun hb => ⟨hb.mem_ids hmem, hb⟩⟩

theorem ascending_sortedIds {k : List Nat} (hk : k ∈ g.positionClasses) :
    Text.Ascending (g.sortedIds k) := by
  rw [sortedIds_eq hk]
  refine Text.ascending_sort (List.Nodup.map_on ?_ ?_)
  · intro i hi j hj hij
    exact idAt_inj h (lt_of_mem_classesOf hk hi) (lt_of_mem_classesOf hk hj) hij
  · exact (List.nodup_flatten.1 (nodup_flatten_classesOf g g.eachOther)).1 k hk

theorem disjoint_sortedIds :
    ((g.positionClasses.filter (2 ≤ ·.length)).map g.sortedIds).Pairwise List.Disjoint := by
  have hclasses := (List.nodup_flatten.1 (nodup_flatten_classesOf g g.eachOther)).2
  rw [List.pairwise_map]
  refine (hclasses.filter _).imp_of_mem fun {k l} hk hl hdisjoint b hbk hbl => ?_
  have hk := List.mem_of_mem_filter hk
  have hl := List.mem_of_mem_filter hl
  obtain ⟨i, hi, rfl⟩ := (mem_sortedIds hk).1 hbk
  obtain ⟨j, hj, hij⟩ := (mem_sortedIds hl).1 hbl
  have heq := idAt_inj h (lt_of_mem_classesOf hl hj) (lt_of_mem_classesOf hk hi) hij
  exact hdisjoint hi (heq ▸ hj)

end Unique

/-! ## Walks that return -/

/-- The walk follows references and ends where it starts. -/
structure IsClosedWalk (g : Graph) (w : List Text) : Prop where
  chain : w.IsChain g.Refers
  closed : w.head? = w.getLast?

/-- The nodes of a walk that returns reach each other. -/
theorem IsClosedWalk.mutual {w : List Text} (hw : g.IsClosedWalk w) {a b : Text} (ha : a ∈ w)
    (hb : b ∈ w) : g.Mutual a b := by
  have hne : w ≠ [] := List.ne_nil_of_mem ha
  have hends : w.head hne = w.getLast hne := by
    have hclosed := hw.closed
    rwa [List.head?_eq_some_head hne, List.getLast?_eq_some_getLast hne, Option.some.injEq]
      at hclosed
  have hfrom : ∀ c ∈ w, g.Reaches (w.head hne) c :=
    List.IsChain.induction (g.Reaches (w.head hne)) w hw.chain
      (fun _ _ hstep hreach => hreach.tail hstep) fun _ => .refl
  have hto : ∀ c ∈ w, g.Reaches c (w.getLast hne) :=
    List.IsChain.backwards_induction (g.Reaches · (w.getLast hne)) w hw.chain
      (fun _ _ hstep hreach => hreach.head hstep) fun _ => .refl
  rw [← hends] at hto
  exact ⟨(hto a ha).trans (hfrom b hb), (hto b hb).trans (hfrom a ha)⟩

theorem exists_closedWalk_iff {a b : Text} :
    (∃ w, g.IsClosedWalk w ∧ a ∈ w ∧ b ∈ w) ↔ g.Mutual a b := by
  constructor
  · rintro ⟨w, hw, ha, hb⟩
    exact hw.mutual ha hb
  · rintro ⟨hab, hba⟩
    obtain ⟨there, hthere, hb⟩ := List.exists_isChain_cons_of_relationReflTransGen hab
    obtain ⟨back, hback, ha⟩ := List.exists_isChain_cons_of_relationReflTransGen hba
    have hlast : (a :: there).getLast? = some b := by
      rw [List.getLast?_eq_some_getLast (List.cons_ne_nil _ _), hb]
    refine ⟨a :: there ++ back, ⟨?_, ?_⟩, List.mem_append_left _ List.mem_cons_self, ?_⟩
    · -- The way back starts where the way there ends.
      obtain ⟨hstep, hback⟩ := List.isChain_cons.1 hback
      refine hthere.append hback fun x hx y hy => ?_
      obtain rfl : b = x := Option.some.inj (hlast.symm.trans hx)
      exact hstep y hy
    · rw [List.cons_append, List.head?_cons, ← List.cons_append, List.getLast?_append, hlast]
      cases back with
      | nil => simpa using ha.symm
      | cons c back =>
        rw [List.getLast_cons_cons] at ha
        rw [List.getLast?_eq_some_getLast (List.cons_ne_nil _ _), ha]
        rfl
    · rw [← hb]
      exact List.mem_append_left _ (List.getLast_mem _)

/-! ## Cycles -/

/-- The members of a cycle. -/
def members (c : List Text) : Set Text := {b | b ∈ c}

/-- The components that have two different nodes. -/
def cyclicComponents (g : Graph) : Set (Set Text) :=
  {C | (∃ a ∈ g.ids, C = g.component a) ∧ C.Nontrivial}

theorem nontrivial_members {c : List Text} (hc : c.Nodup) : (members c).Nontrivial ↔ 2 ≤ c.length := by
  match c, hc with
  | [], _ => exact iff_of_false (fun ⟨a, ha, _⟩ => List.not_mem_nil ha) (by simp)
  | [a], _ =>
    refine iff_of_false ?_ (by simp)
    rintro ⟨b, hb, c, hc, hbc⟩
    exact hbc ((List.mem_singleton.1 hb).trans (List.mem_singleton.1 hc).symm)
  | a :: b :: c, hc =>
    refine iff_of_true ⟨a, List.mem_cons_self, b, by simp [members], ?_⟩ (by simp)
    rintro rfl
    exact (List.nodup_cons.1 hc).1 List.mem_cons_self

/-- An edge leaves a node from which another node is reached. -/
theorem Reaches.mem_ids_of_ne {a b : Text} (h : g.Reaches a b) (hab : a ≠ b) : a ∈ g.ids := by
  obtain rfl | ⟨c, hac, -⟩ := h.cases_head
  · exact absurd rfl hab
  · exact hac.1

theorem component_mem_cyclicComponents {a b : Text} (h : g.Mutual a b) (hab : a ≠ b) :
    g.component a ∈ g.cyclicComponents :=
  ⟨⟨a, h.1.mem_ids_of_ne hab, rfl⟩, a, mutual_refl g a, b, h, hab⟩

section Unique

variable (h : g.ids.Nodup)

include h

theorem ascending_of_mem_cycles {c : List Text} (hc : c ∈ g.cycles) : Text.Ascending c := by
  obtain ⟨k, hk, -, rfl⟩ := mem_cycles_iff.1 hc
  exact ascending_sortedIds h hk

/-- The cycles are the components with two nodes. -/
theorem exists_cycle_iff {C : Set Text} :
    (∃ c ∈ g.cycles, members c = C) ↔ C ∈ g.cyclicComponents := by
  have hmembers {k : List Nat} (hk : k ∈ g.positionClasses) {i : Nat} (hi : i ∈ k) :
      members (g.sortedIds k) = g.component (g.idAt i) :=
    Set.ext fun b => mem_sortedIds_iff h hk hi
  have hlength {k : List Nat} (hk : k ∈ g.positionClasses) :
      (members (g.sortedIds k)).Nontrivial ↔ 2 ≤ k.length := by
    rw [nontrivial_members (ascending_sortedIds h hk).nodup, length_sortedIds hk]
  constructor
  · rintro ⟨c, hc, rfl⟩
    obtain ⟨k, hk, htwo, rfl⟩ := mem_cycles_iff.1 hc
    obtain ⟨i, hi⟩ := List.exists_mem_of_ne_nil k (ne_nil_of_mem_classes hk)
    exact ⟨⟨_, idAt_mem (lt_of_mem_classesOf hk hi), hmembers hk hi⟩, (hlength hk).2 htwo⟩
  · rintro ⟨⟨a, ha, rfl⟩, hnontrivial⟩
    obtain ⟨i, hi, rfl⟩ := exists_idAt ha
    obtain ⟨k, hk, hik⟩ := exists_classesOf g.eachOther hi
    rw [← hmembers hk hik, hlength hk] at hnontrivial
    exact ⟨_, mem_cycles_iff.2 ⟨k, hk, hnontrivial, rfl⟩, hmembers hk hik⟩

theorem exists_common_cycle_iff {a b : Text} (hab : a ≠ b) :
    (∃ c ∈ g.cycles, a ∈ c ∧ b ∈ c) ↔ g.Mutual a b := by
  constructor
  · rintro ⟨c, hc, ha, hb⟩
    obtain ⟨⟨x, -, hcx⟩, -⟩ := (exists_cycle_iff h).1 ⟨c, hc, rfl⟩
    have hxa : a ∈ g.component x := hcx ▸ (ha : a ∈ members c)
    have hxb : b ∈ g.component x := hcx ▸ (hb : b ∈ members c)
    exact Mutual.trans (Mutual.symm hxa) hxb
  · intro hmutual
    obtain ⟨c, hc, hca⟩ := (exists_cycle_iff h).2 (component_mem_cyclicComponents hmutual hab)
    have ha : a ∈ members c := hca ▸ mutual_refl g a
    have hb : b ∈ members c := hca ▸ hmutual
    exact ⟨c, hc, ha, hb⟩

theorem cycles_disjoint : g.cycles.Pairwise List.Disjoint := by
  rw [cycles_eq]
  exact (List.mergeSort_perm _ _).symm.pairwise (disjoint_sortedIds h)
    fun hab => List.Disjoint.symm hab

theorem ascending_heads : Text.Ascending (g.cycles.map (·.headD [])) := by
  rw [cycles_eq, Text.Ascending, List.pairwise_map]
  refine Text.ascending_mergeSort (List.pairwise_map.2 ?_)
  refine (disjoint_sortedIds h).imp_of_mem fun {c d} hc hd hdisjoint hheads => ?_
  have hhead {c : List Text}
      (hc : c ∈ (g.positionClasses.filter (2 ≤ ·.length)).map g.sortedIds) : c.headD [] ∈ c := by
    obtain ⟨k, hk, htwo, rfl⟩ := mem_cycles_iff.1 (List.mem_mergeSort.2 hc)
    rw [← length_sortedIds hk] at htwo
    cases hids : g.sortedIds k with
    | nil => simp [hids] at htwo
    | cons b c => exact List.mem_cons_self
  exact hdisjoint (hhead hc) (hheads ▸ hhead hd)

theorem cycles_nodup : g.cycles.Nodup := (ascending_heads h).nodup.of_map

theorem length_cycles : g.cycles.length = g.cyclicComponents.ncard := by
  have himage : members '' {c | c ∈ g.cycles} = g.cyclicComponents :=
    Set.ext fun C => exists_cycle_iff h
  have hinj : Set.InjOn members {c | c ∈ g.cycles} := by
    intro c hc d hd hcd
    exact (ascending_of_mem_cycles h hc).ext (ascending_of_mem_cycles h hd) (Set.ext_iff.1 hcd)
  rw [← himage, hinj.ncard_image, ← List.coe_toFinset, Set.ncard_coe_finset,
    List.toFinset_card_of_nodup (cycles_nodup h)]

theorem isCyclic_iff {s : MetricsSummary} (hs : s.cycles = g.cycles) :
    s.isCyclic = true ↔ ∃ w, g.IsClosedWalk w ∧ ∃ a ∈ w, ∃ b ∈ w, a ≠ b := by
  rw [MetricsSummary.isCyclic, hs, Bool.not_eq_true', List.isEmpty_eq_false_iff]
  constructor
  · intro hne
    obtain ⟨c, hc⟩ := List.exists_mem_of_ne_nil _ hne
    obtain ⟨-, a, ha, b, hb, hab⟩ := (exists_cycle_iff h).1 ⟨c, hc, rfl⟩
    have hmutual := (exists_common_cycle_iff h hab).1 ⟨c, hc, ha, hb⟩
    obtain ⟨w, hw, haw, hbw⟩ := exists_closedWalk_iff.2 hmutual
    exact ⟨w, hw, a, haw, b, hbw, hab⟩
  · rintro ⟨w, hw, a, ha, b, hb, hab⟩
    obtain ⟨c, hc, -⟩ := (exists_common_cycle_iff h hab).2 (hw.mutual ha hb)
    exact List.ne_nil_of_mem hc

end Unique

theorem metrics_cycles (g : Graph) : g.metrics.summary.cycles = g.cycles := by
  unfold metrics
  by_cases hempty : (g.nodes.length == 0) = true
  · have hnodes : g.nodes = [] := List.length_eq_zero_iff.1 (beq_iff_eq.1 hempty)
    simp only [hempty, if_true]
    simp [cycles, hnodes, classes]
  · simp only [hempty]
    rfl

/-- **The cycles of a graph whose ids are distinct** are its components of at least two nodes: two
nodes are in a common cycle exactly if each reaches the other. The cycles are disjoint and ascend,
and so do their first ids. The metrics have these cycles; they call the graph cyclic exactly if some
walk returns and visits two nodes, and they count the components. -/
theorem cycles_components (h : (g.nodes.map (·.id)).Nodup) :
    (∀ C, (∃ c ∈ g.cycles, members c = C) ↔ C ∈ g.cyclicComponents) ∧
    (∀ a b, a ≠ b →
      ((∃ c ∈ g.cycles, a ∈ c ∧ b ∈ c) ↔ g.Reaches a b ∧ g.Reaches b a)) ∧
    g.cycles.Pairwise List.Disjoint ∧
    (∀ c ∈ g.cycles, Text.Ascending c) ∧
    Text.Ascending (g.cycles.map (·.headD [])) ∧
    g.metrics.summary.cycles = g.cycles ∧
    (g.metrics.summary.isCyclic = true ↔
      ∃ w, g.IsClosedWalk w ∧ ∃ a ∈ w, ∃ b ∈ w, a ≠ b) ∧
    g.metrics.summary.cycleCount = g.cyclicComponents.ncard := by
  have hmetrics := metrics_cycles g
  refine ⟨fun C => exists_cycle_iff h, fun a b hab => exists_common_cycle_iff h hab,
    cycles_disjoint h, fun c hc => ascending_of_mem_cycles h hc, ascending_heads h, hmetrics,
    isCyclic_iff h hmetrics, ?_⟩
  rw [MetricsSummary.cycleCount, hmetrics, length_cycles h]

/-- Two files that refer to each other, one of them also to itself, and a third one that refers to
both and to a file that is no node. -/
def sampleRing : Graph where
  nodes := [fileNode "res://a.gd", fileNode "res://b.gd", fileNode "res://main.tscn"]
  edges := [⟨"res://a.gd", "res://b.gd", .dependency .preload, 1⟩,
    ⟨"res://b.gd", "res://a.gd", .dependency .load, 2⟩,
    ⟨"res://b.gd", "res://b.gd", .dependency .load, 1⟩,
    ⟨"res://main.tscn", "res://a.gd", .attaches, 1⟩,
    ⟨"res://main.tscn", "res://gone.gd", .attaches, 1⟩]

theorem cycles_components_sampleRing :
    (sampleRing.nodes.map (·.id)).Nodup ∧
      (∃ c ∈ sampleRing.cycles, Text.ofString "res://a.gd" ∈ c ∧ Text.ofString "res://b.gd" ∈ c) ∧
      (¬ ∃ c ∈ sampleRing.cycles,
        Text.ofString "res://a.gd" ∈ c ∧ Text.ofString "res://main.tscn" ∈ c) ∧
      sampleRing.metrics.summary.isCyclic = true := by
  have hdistinct : (sampleRing.nodes.map (·.id)).Nodup := by decide
  have hab : sampleRing.Refers "res://a.gd" "res://b.gd" := ⟨by decide, by decide, by decide⟩
  have hba : sampleRing.Refers "res://b.gd" "res://a.gd" := ⟨by decide, by decide, by decide⟩
  -- No edge leads to the scene.
  have hscene : ¬ sampleRing.Reaches "res://a.gd" "res://main.tscn" := by
    intro hreach
    obtain heq | ⟨c, -, -, -, e, he, -, htarget⟩ := hreach.cases_tail
    · exact absurd heq (by decide)
    · have hnone : ∀ e ∈ sampleRing.edges, e.target ≠ Text.ofString "res://main.tscn" := by decide
      exact hnone e he htarget
  obtain ⟨-, hcommon, -, -, -, -, hcyclic, -⟩ := cycles_components hdistinct
  refine ⟨hdistinct, (hcommon _ _ (by decide)).2 ⟨.single hab, .single hba⟩,
    fun hc => hscene ((hcommon _ _ (by decide)).1 hc).1, hcyclic.2 ?_⟩
  have hwalk : sampleRing.IsClosedWalk ["res://a.gd", "res://b.gd", "res://a.gd"] :=
    ⟨.cons_cons hab (.cons_cons hba (.singleton _)), rfl⟩
  exact ⟨_, hwalk, "res://a.gd", by decide, "res://b.gd", by decide, by decide⟩

end GodotSurvey.Graph
