import GodotSurvey.Proofs.Graph.Reachability
import Mathlib.Data.Set.Card

/-!
# Positions and ids

The searches and the splitting into classes run on the positions of nodes. If the ids tell the nodes
apart, positions and ids can be exchanged: what is found from a position is what the relation of ids
leads to, and classes of positions are classes of ids.

* `Represents.mem_reach` — the search from a position finds what the ids lead to.
* `mem_classesOf_iff` — the class of a position holds the positions with related ids.
* `length_classesOf` — **there are as many classes of positions as classes of ids.**
-/

namespace GodotSurvey.Graph

variable {g : Graph}

/-! ## Ids -/

/-- The ids of the nodes. -/
def ids (g : Graph) : List Text := g.nodes.map (·.id)

/-- An edge joins the two nodes. -/
def Refers (g : Graph) (a b : Text) : Prop :=
  a ∈ g.ids ∧ b ∈ g.ids ∧ ∃ e ∈ g.edges, e.source = a ∧ e.target = b

/-- The id at a position. -/
def idAt (g : Graph) (i : Nat) : Text := ((g.nodes[i]?).map (·.id)).getD []

theorem idAt_eq {i : Nat} (hi : i < g.nodes.length) : g.idAt i = g.nodes[i].id := by
  simp [idAt, hi]

theorem idAt_mem {i : Nat} (hi : i < g.nodes.length) : g.idAt i ∈ g.ids := by
  rw [idAt_eq hi]
  exact List.mem_map_of_mem (List.getElem_mem hi)

theorem exists_idAt {a : Text} (ha : a ∈ g.ids) : ∃ i < g.nodes.length, g.idAt i = a := by
  obtain ⟨n, hn, rfl⟩ := List.mem_map.1 ha
  obtain ⟨i, hi, rfl⟩ := List.getElem_of_mem hn
  exact ⟨i, hi, idAt_eq hi⟩

theorem idAt_of_position? {a : Text} {i : Nat} (h : g.position? a = some i) :
    i < g.nodes.length ∧ g.idAt i = a := by
  obtain ⟨j, hj, rfl⟩ := Option.map_eq_some_iff.1 h
  obtain ⟨hlt, hid, -⟩ := List.findIdx?_eq_some_iff_getElem.1 hj
  rw [List.length_reverse] at hlt
  have hi : g.nodes.length - 1 - j < g.nodes.length := by omega
  refine ⟨hi, ?_⟩
  rw [idAt_eq hi, ← beq_iff_eq.1 hid, List.getElem_reverse]

/-! ## Searches -/

variable {next : Array (List Nat)} {R : Text → Text → Prop}

/-- Successors of positions stand for a relation of ids, but for what is related to itself. -/
structure Represents (g : Graph) (next : Array (List Nat)) (R : Text → Text → Prop) : Prop where
  size_eq : next.size = g.nodes.length
  leads_iff : ∀ i j, Leads next i j ↔
    i < g.nodes.length ∧ j < g.nodes.length ∧ i ≠ j ∧ R (g.idAt i) (g.idAt j)
  source_mem : ∀ a b, R a b → a ∈ g.ids

theorem represents_successors {edges : List (Nat × Nat)}
    (hedges : ∀ i j, (i, j) ∈ edges ↔
      i < g.nodes.length ∧ j < g.nodes.length ∧ i ≠ j ∧ R (g.idAt i) (g.idAt j))
    (hsource : ∀ a b, R a b → a ∈ g.ids) :
    g.Represents (successors g.nodes.length edges) R where
  size_eq := size_successors _ _
  leads_iff := by
    intro i j
    rw [leads_successors, hedges]
    exact ⟨And.right, fun hl => ⟨hl.1, hl⟩⟩
  source_mem := hsource

theorem Represents.isBounded (hnext : g.Represents next R) : IsBounded next := by
  intro i j hij
  rw [hnext.size_eq]
  exact ((hnext.leads_iff i j).1 hij).2.1

section Unique

variable (h : g.ids.Nodup)

include h

theorem idAt_inj {i j : Nat} (hi : i < g.nodes.length) (hj : j < g.nodes.length)
    (hij : g.idAt i = g.idAt j) : i = j := by
  rw [idAt_eq hi, idAt_eq hj] at hij
  have hids : g.ids.length = g.nodes.length := List.length_map _
  exact (@List.Nodup.getElem_inj_iff _ _ h i (hids ▸ hi) j (hids ▸ hj)).1 (by simpa [ids] using hij)

theorem position?_idAt {i : Nat} (hi : i < g.nodes.length) : g.position? (g.idAt i) = some i := by
  cases hposition : g.position? (g.idAt i) with
  | some j =>
    obtain ⟨hj, hid⟩ := idAt_of_position? hposition
    rw [idAt_inj h hj hi hid]
  | none =>
    rw [position?, Option.map_eq_none_iff, List.findIdx?_eq_none_iff] at hposition
    have hmem : g.nodes[i] ∈ g.nodes.reverse := List.mem_reverse.2 (List.getElem_mem hi)
    have hne := hposition _ hmem
    rw [idAt_eq hi, beq_self_eq_true] at hne
    cases hne

theorem mem_positionEdges {i j : Nat} : (i, j) ∈ g.positionEdges ↔
    i < g.nodes.length ∧ j < g.nodes.length ∧ i ≠ j ∧ g.Refers (g.idAt i) (g.idAt j) := by
  rw [positionEdges, List.mem_eraseDups, List.mem_filterMap]
  constructor
  · rintro ⟨e, he, hedge⟩
    unfold positionEdge? at hedge
    split at hedge
    case h_1 k l hk hl =>
      obtain ⟨hklt, hkid⟩ := idAt_of_position? hk
      obtain ⟨hllt, hlid⟩ := idAt_of_position? hl
      split_ifs at hedge with hkl
      obtain ⟨rfl, rfl⟩ := Prod.mk.inj (Option.some.inj hedge)
      exact ⟨hklt, hllt, by simpa using hkl, idAt_mem hklt, idAt_mem hllt, e, he, hkid.symm,
        hlid.symm⟩
    case h_2 => cases hedge
  · rintro ⟨hi, hj, hij, -, -, e, he, hsource, htarget⟩
    refine ⟨e, he, ?_⟩
    have hsource' : g.position? e.source = some i := hsource ▸ position?_idAt h hi
    have htarget' : g.position? e.target = some j := htarget ▸ position?_idAt h hj
    simp [positionEdge?, hsource', htarget', hij]

/-- Reaching between positions is reaching between ids. -/
theorem Represents.reaches_iff (hnext : g.Represents next R) {i j : Nat} (hi : i < g.nodes.length)
    (hj : j < g.nodes.length) :
    Relation.ReflTransGen (Leads next) i j ↔
      Relation.ReflTransGen R (g.idAt i) (g.idAt j) := by
  constructor
  · exact fun hij => hij.lift g.idAt fun k l hkl => ((hnext.leads_iff k l).1 hkl).2.2.2
  · intro hij
    -- Every id on the way has a position, which the way between positions passes too.
    suffices hall : ∀ b, Relation.ReflTransGen R (g.idAt i) b →
        ∀ k < g.nodes.length, g.idAt k = b → Relation.ReflTransGen (Leads next) i k from
      hall _ hij j hj rfl
    intro b hb
    induction hb with
    | refl =>
      intro k hk hki
      rw [idAt_inj h hk hi hki]
    | tail _ hstep ih =>
      intro k hk hkb
      obtain ⟨l, hl, hlid⟩ := exists_idAt (hnext.source_mem _ _ hstep)
      have hreach := ih l hl hlid
      by_cases hlk : l = k
      · exact hlk ▸ hreach
      · refine hreach.tail ((hnext.leads_iff l k).2 ⟨hl, hk, hlk, ?_⟩)
        rw [hlid, hkb]
        exact hstep

/-- The search from a position finds what the ids lead to. -/
theorem Represents.mem_reach (hnext : g.Represents next R) {i j : Nat} (hi : i < g.nodes.length)
    (hj : j < g.nodes.length) :
    j ∈ reach next i ↔ Relation.ReflTransGen R (g.idAt i) (g.idAt j) := by
  rw [Graph.mem_reach hnext.isBounded (by rwa [hnext.size_eq]), hnext.reaches_iff h hi hj]

end Unique

/-! ## Classes -/

variable {related : Nat → Nat → Bool} {k : List Nat} {i j : Nat}

/-- The classes of the positions of all nodes. -/
def classesOf (g : Graph) (related : Nat → Nat → Bool) : List (List Nat) :=
  classes related g.nodes.length (List.range g.nodes.length)

theorem lt_of_mem_classesOf (hk : k ∈ g.classesOf related) (hi : i ∈ k) : i < g.nodes.length :=
  List.mem_range.1 (mem_of_mem_class (by simp) hk hi)

theorem exists_classesOf (related : Nat → Nat → Bool) (hi : i < g.nodes.length) :
    ∃ k ∈ g.classesOf related, i ∈ k := by
  have hperm : (g.classesOf related).flatten.Perm (List.range g.nodes.length) :=
    classes_perm (by simp)
  exact List.mem_flatten.1 (hperm.mem_iff.2 (List.mem_range.2 hi))

theorem nodup_flatten_classesOf (g : Graph) (related : Nat → Nat → Bool) :
    (g.classesOf related).flatten.Nodup :=
  (classes_perm (by simp)).nodup_iff.2 List.nodup_range

/-- Positions are related exactly if their ids are. -/
def Mirrors (g : Graph) (related : Nat → Nat → Bool) (R : Text → Text → Prop) : Prop :=
  ∀ i < g.nodes.length, ∀ j < g.nodes.length, related i j = true ↔ R (g.idAt i) (g.idAt j)

theorem mem_classesOf_iff (hR : Equivalence R) (hmirrors : g.Mirrors related R)
    (hk : k ∈ g.classesOf related) (hi : i ∈ k) (hj : j < g.nodes.length) :
    j ∈ k ↔ R (g.idAt i) (g.idAt j) := by
  have hpositions : Equivalence fun i j => R (g.idAt i) (g.idAt j) :=
    ⟨fun i => hR.refl (g.idAt i), hR.symm, hR.trans⟩
  refine mem_class_iff hpositions (fun i hi j hj => ?_) (by simp) hk hi (List.mem_range.2 hj)
  exact hmirrors i (List.mem_range.1 hi) j (List.mem_range.1 hj)

/-- The ids of the nodes that are related to an id. -/
def classOf (g : Graph) (R : Text → Text → Prop) (a : Text) : Set Text := {b | b ∈ g.ids ∧ R a b}

/-- The classes into which a relation splits the ids of the nodes. -/
def idClasses (g : Graph) (R : Text → Text → Prop) : Set (Set Text) :=
  {C | ∃ a ∈ g.ids, C = g.classOf R a}

/-- The ids at some positions. -/
def idsAt (g : Graph) (k : List Nat) : Set Text := {b | ∃ i ∈ k, g.idAt i = b}

/-- The ids of a class are those related to the id of any of its positions. -/
theorem idsAt_eq (hR : Equivalence R) (hmirrors : g.Mirrors related R)
    (hk : k ∈ g.classesOf related) (hi : i ∈ k) : g.idsAt k = g.classOf R (g.idAt i) := by
  apply Set.ext
  intro b
  constructor
  · rintro ⟨j, hj, rfl⟩
    have hlt := lt_of_mem_classesOf hk hj
    exact ⟨idAt_mem hlt, (mem_classesOf_iff hR hmirrors hk hi hlt).1 hj⟩
  · rintro ⟨hb, hrelated⟩
    obtain ⟨j, hj, rfl⟩ := exists_idAt hb
    exact ⟨j, (mem_classesOf_iff hR hmirrors hk hi hj).2 hrelated, rfl⟩

/-- The classes of positions give the classes of ids. -/
theorem idsAt_mem_idClasses (hR : Equivalence R) (hmirrors : g.Mirrors related R)
    (hk : k ∈ g.classesOf related) : g.idsAt k ∈ g.idClasses R := by
  obtain ⟨i, hi⟩ := List.exists_mem_of_ne_nil k (ne_nil_of_mem_classes hk)
  exact ⟨_, idAt_mem (lt_of_mem_classesOf hk hi), idsAt_eq hR hmirrors hk hi⟩

theorem exists_idsAt_eq (hR : Equivalence R) (hmirrors : g.Mirrors related R) {C : Set Text}
    (hC : C ∈ g.idClasses R) : ∃ k ∈ g.classesOf related, g.idsAt k = C := by
  obtain ⟨a, ha, rfl⟩ := hC
  obtain ⟨i, hi, rfl⟩ := exists_idAt ha
  obtain ⟨k, hk, hik⟩ := exists_classesOf related hi
  exact ⟨k, hk, idsAt_eq hR hmirrors hk hik⟩

section Unique

variable (h : g.ids.Nodup)

include h

/-- Different positions have different ids, so a class has as many of the one as of the other. -/
theorem ncard_idsAt (hk : k ∈ g.classesOf related) : (g.idsAt k).ncard = k.length := by
  have himage : g.idsAt k = g.idAt '' {i | i ∈ k} := rfl
  have hinj : Set.InjOn g.idAt {i | i ∈ k} := by
    intro i hi j hj hij
    exact idAt_inj h (lt_of_mem_classesOf hk hi) (lt_of_mem_classesOf hk hj) hij
  have hnodup : k.Nodup := (List.nodup_flatten.1 (nodup_flatten_classesOf g related)).1 k hk
  rw [himage, hinj.ncard_image, ← List.coe_toFinset, Set.ncard_coe_finset,
    List.toFinset_card_of_nodup hnodup]

/-- Different classes of positions have different ids. -/
theorem nodup_map_idsAt (related : Nat → Nat → Bool) :
    ((g.classesOf related).map g.idsAt).Nodup := by
  have hdisjoint := (List.nodup_flatten.1 (nodup_flatten_classesOf g related)).2
  rw [List.Nodup, List.pairwise_map]
  refine hdisjoint.imp_of_mem fun {k l} hk hl hkl heq => ?_
  obtain ⟨i, hi⟩ := List.exists_mem_of_ne_nil k (ne_nil_of_mem_classes hk)
  have hid : g.idAt i ∈ g.idsAt l := heq ▸ ⟨i, hi, rfl⟩
  obtain ⟨j, hj, hij⟩ := hid
  have hsame := idAt_inj h (lt_of_mem_classesOf hl hj) (lt_of_mem_classesOf hk hi) hij
  exact hkl hi (hsame ▸ hj)

/-- **There are as many classes of positions as classes of ids.** -/
theorem length_classesOf (hR : Equivalence R) (hmirrors : g.Mirrors related R) :
    (g.classesOf related).length = (g.idClasses R).ncard := by
  classical
  have hset : g.idClasses R = {C | C ∈ (g.classesOf related).map g.idsAt} := by
    apply Set.ext
    intro C
    show C ∈ g.idClasses R ↔ C ∈ (g.classesOf related).map g.idsAt
    rw [List.mem_map]
    constructor
    · exact exists_idsAt_eq hR hmirrors
    · rintro ⟨k, hk, rfl⟩
      exact idsAt_mem_idClasses hR hmirrors hk
  rw [hset, ← List.coe_toFinset, Set.ncard_coe_finset,
    List.toFinset_card_of_nodup (nodup_map_idsAt h related), List.length_map]

end Unique

end GodotSurvey.Graph
