import GodotSurvey.Proofs.Text.Distinct
import GodotSurvey.Survey.Project
import Mathlib.Algebra.GroupWithZero.Nat

/-!
# The graph that is built

A graph is built by additions of scripts and scenes. Each addition makes references: what its
dependencies, scripts and instances resolve to. The graph accounts for them: its nodes are the
added files and what they refer to, and its edges count the references, those of a node to itself
left out. This is an invariant of the additions, kept by every link; sorting keeps it too.

* `Accounts` — the invariant.
* `Accounts.link`, `Accounts.add`, `Accounts.foldl_add` — a link, an addition and a run keep it.
* `Accounts.mem_edges` — it fixes the edges.
* `graphOf_eq_built` — the graph of a project is built in this way.
* `built_accounts` — **the graph has the nodes in order, the edges in order and between its nodes,
  and the weights that the references ask for.**
-/

namespace GodotSurvey

/-! ## Kinds -/

theorem DependencyKind.name_ofName (n : Text) : (ofName n).name = n := by
  rw [ofName]
  cases hk : known.find? (·.name == n) with
  | none => rfl
  | some k => simpa using List.find?_some hk

theorem EdgeKind.name_ofName (n : Text) : (ofName n).name = n := by
  unfold ofName
  split_ifs with ha hi
  · exact (beq_iff_eq.1 ha).symm
  · exact (beq_iff_eq.1 hi).symm
  · exact DependencyKind.name_ofName n

namespace Graph

/-! ## References -/

/-- One node refers to another in some way. -/
structure Reference where
  source : Text
  target : Text
  kind : EdgeKind
  deriving DecidableEq, Repr

/-- The reference is not one of a node to itself. -/
def Reference.isProper (ρ : Reference) : Bool := ρ.source != ρ.target

/-- The references that an edge counts. -/
def Edge.reference (e : Edge) : Reference := ⟨e.source, e.target, e.kind⟩

theorem Edge.ext_reference {a b : Edge} (href : a.reference = b.reference)
    (hweight : a.weight = b.weight) : a = b := by
  obtain ⟨hs, ht, hk⟩ := Reference.mk.inj href
  cases a
  cases b
  simp_all only

theorem Edge.isProper_reference {e : Edge} : e.reference.isProper ↔ e.source ≠ e.target := by
  simp [Reference.isProper, Edge.reference]

/-- A script or a scene that is added to a graph. -/
inductive Addition where
  | script (path className : Text) (dependencies : List Dependency)
  | scene (path : Text) (scripts instances : List Text)
  deriving DecidableEq, Repr

namespace Addition

def path : Addition → Text
  | script path _ _ => path
  | scene path _ _ => path

/-- The node of the file itself. -/
def node : Addition → Node
  | script path className _ =>
    if className.isEmpty then fileNode path else { fileNode path with name := className }
  | scene path _ _ => fileNode path

/-- What the file refers to, and in which way: what dependencies resolve to, attached scripts, and
instanced scenes that are given by a resource path. -/
def targets (r : Resolution) : Addition → List (Node × EdgeKind)
  | script path _ dependencies =>
    dependencies.filterMap fun d => (r.target? path d).map (·, EdgeKind.ofName d.kind.name)
  | scene _ scripts instances =>
    scripts.map (fileNode ·, .attaches) ++
      (instances.filter ResourcePath.isResource).map (fileNode ·, .instances)

/-- The references that the file makes. -/
def references (r : Resolution) (a : Addition) : List Reference :=
  (a.targets r).map fun t => ⟨a.path, t.1.id, t.2⟩

end Addition

/-- Adds a script or a scene. -/
def add (r : Resolution) (g : Graph) : Addition → Graph
  | .script path className dependencies => g.addScript r path className dependencies
  | .scene path scripts instances => g.addScene path scripts instances

/-- The graph of all additions, one after the other. -/
def built (r : Resolution) (as : List Addition) : Graph := (as.foldl (add r) {}).sorted

/-! ## What single functions do -/

/-- A node is put in under its id, in place of the one that has it. -/
theorem map_id_putNode (n : Node) (ns : List Node) :
    (putNode n ns).map (·.id) = Text.insertNew (ns.map (·.id)) n.id := by
  induction ns with
  | nil => rfl
  | cons m ns ih =>
    by_cases h : m.id = n.id
    · rw [Text.insertNew_of_mem (by simp [h])]
      simp [putNode, h]
    · simp only [putNode, beq_iff_eq, h, if_false, List.map_cons, ih]
      by_cases hn : n.id ∈ ns.map (·.id)
      · rw [Text.insertNew_of_mem hn, Text.insertNew_of_mem (List.mem_cons_of_mem _ hn)]
      · rw [Text.insertNew_of_not_mem hn, Text.insertNew_of_not_mem, List.cons_append]
        rw [List.mem_cons, not_or]
        exact ⟨Ne.symm h, hn⟩

theorem map_id_ensureNode (ns : List Node) (n : Node) :
    (ensureNode ns n).map (·.id) = Text.insertNew (ns.map (·.id)) n.id := by
  by_cases hn : n.id ∈ ns.map (·.id)
  · rw [Text.insertNew_of_mem hn, ensureNode, if_pos (by simpa using hn)]
  · rw [Text.insertNew_of_not_mem hn, ensureNode, if_neg (by simpa using hn), List.map_append]
    rfl

section CountEdge

variable (ρ σ : Reference) (es : List Edge)

/-- Counts one more reference. -/
def Reference.countIn (ρ : Reference) (es : List Edge) : List Edge :=
  countEdge ρ.source ρ.target ρ.kind es

/-- How many references like this are counted. -/
def weightOf (ρ : Reference) : List Edge → Nat
  | [] => 0
  | e :: rest => if e.reference = ρ then e.weight else weightOf ρ rest

theorem countIn_cons (e : Edge) :
    ρ.countIn (e :: es) =
      if e.reference = ρ then { e with weight := e.weight + 1 } :: es else e :: ρ.countIn es := by
  simp only [Reference.countIn, countEdge, Edge.reference, Bool.and_eq_true, beq_iff_eq]
  grind [Reference]

theorem mem_reference_countIn :
    σ ∈ (ρ.countIn es).map Edge.reference ↔ σ ∈ es.map Edge.reference ∨ σ = ρ := by
  induction es with
  | nil => simp [Reference.countIn, countEdge, Edge.reference]
  | cons e es ih =>
    rw [countIn_cons]
    split_ifs with h
    · subst h
      simp [Edge.reference]
      tauto
    · simp only [List.map_cons, List.mem_cons, ih, or_assoc]

variable {es}

theorem nodup_reference_countIn (h : (es.map Edge.reference).Nodup) :
    ((ρ.countIn es).map Edge.reference).Nodup := by
  induction es with
  | nil => exact List.nodup_singleton _
  | cons e es ih =>
    obtain ⟨he, hes⟩ := List.nodup_cons.1 h
    rw [countIn_cons]
    split_ifs with hρ
    · exact h
    · refine List.nodup_cons.2 ⟨?_, ih hes⟩
      rw [mem_reference_countIn, not_or]
      exact ⟨he, hρ⟩

theorem weight_pos_countIn (h : ∀ e ∈ es, 0 < e.weight) : ∀ e ∈ ρ.countIn es, 0 < e.weight := by
  induction es with
  | nil => simp [Reference.countIn, countEdge]
  | cons e es ih =>
    obtain ⟨he, hes⟩ := List.forall_mem_cons.1 h
    rw [countIn_cons]
    split_ifs
    · exact List.forall_mem_cons.2 ⟨Nat.succ_pos _, hes⟩
    · exact List.forall_mem_cons.2 ⟨he, ih hes⟩

theorem weightOf_countIn :
    weightOf σ (ρ.countIn es) = weightOf σ es + if ρ = σ then 1 else 0 := by
  induction es with
  | nil => exact (Nat.zero_add _).symm
  | cons e es ih =>
    rw [countIn_cons]
    grind [weightOf, Edge.reference]

theorem sum_weight_countIn :
    ((ρ.countIn es).map (·.weight)).sum = (es.map (·.weight)).sum + 1 := by
  induction es with
  | nil => rfl
  | cons e es ih =>
    rw [countIn_cons]
    split_ifs <;> simp only [List.map_cons, List.sum_cons, ih] <;> omega

variable {ρ}

theorem weightOf_of_mem (h : (es.map Edge.reference).Nodup) {e : Edge} (he : e ∈ es) :
    weightOf e.reference es = e.weight := by
  induction es with
  | nil => cases he
  | cons d es ih =>
    obtain ⟨hd, hes⟩ := List.nodup_cons.1 h
    rw [weightOf]
    obtain rfl | he := List.mem_cons.1 he
    · rw [if_pos rfl]
    · have hne : d.reference ≠ e.reference := fun hde => hd (hde ▸ List.mem_map_of_mem he)
      rw [if_neg hne, ih hes he]

theorem exists_of_weightOf_pos (h : 0 < weightOf ρ es) :
    ∃ e ∈ es, e.reference = ρ ∧ e.weight = weightOf ρ es := by
  induction es with
  | nil => exact absurd h (Nat.lt_irrefl 0)
  | cons d es ih =>
    rw [weightOf] at h ⊢
    split_ifs at h ⊢ with hd
    · exact ⟨d, List.mem_cons_self, hd, rfl⟩
    · obtain ⟨e, he, hρ⟩ := ih h
      exact ⟨e, List.mem_cons_of_mem d he, hρ⟩

end CountEdge

/-! ## The invariant -/

/-- The graph holds the added files and what the references lead to, and its edges count the
references. -/
structure Accounts (g : Graph) (paths : List Text) (refs : List Reference) : Prop where
  distinct_nodes : (g.nodes.map (·.id)).Nodup
  mem_nodes : ∀ id, id ∈ g.nodes.map (·.id) ↔ id ∈ paths ∨ id ∈ refs.map (·.target)
  distinct_edges : (g.edges.map Edge.reference).Nodup
  counted : ∀ e ∈ g.edges, 0 < e.weight
  weights : ∀ ρ, weightOf ρ g.edges = refs.count ρ
  total : (g.edges.map (·.weight)).sum = refs.length

theorem accounts_empty : Accounts {} [] [] where
  distinct_nodes := .nil
  mem_nodes := by simp
  distinct_edges := .nil
  counted := by simp
  weights := fun _ => rfl
  total := rfl

namespace Accounts

variable {g : Graph} {paths : List Text} {refs : List Reference}

/-- The node of an added file replaces one that a reference made. -/
theorem putNode (h : Accounts g paths refs) (n : Node) :
    Accounts { g with nodes := Graph.putNode n g.nodes } (paths ++ [n.id]) refs :=
  { h with
    distinct_nodes := map_id_putNode n g.nodes ▸ Text.nodup_insertNew h.distinct_nodes
    mem_nodes := fun id => by
      rw [map_id_putNode, Text.mem_insertNew, h.mem_nodes, List.mem_append, List.mem_singleton]
      tauto }

/-- A reference is counted, unless it is one of a node to itself. -/
theorem link (h : Accounts g paths refs) (source : Text) (t : Node) (k : EdgeKind) :
    Accounts (g.link source t k) paths
      (refs ++ [⟨source, t.id, k⟩].filter Reference.isProper) := by
  by_cases hself : source = t.id
  · simpa [Graph.link, Reference.isProper, hself] using h
  · have hlink : g.link source t k =
        ⟨ensureNode g.nodes t, Reference.countIn ⟨source, t.id, k⟩ g.edges⟩ := by
      simp [Graph.link, hself, Reference.countIn]
    have hproper : [(⟨source, t.id, k⟩ : Reference)].filter Reference.isProper =
        [⟨source, t.id, k⟩] := by
      simp [Reference.isProper, hself]
    rw [hlink, hproper]
    exact {
      distinct_nodes := map_id_ensureNode g.nodes t ▸ Text.nodup_insertNew h.distinct_nodes
      mem_nodes := fun id => by
        rw [map_id_ensureNode, Text.mem_insertNew, h.mem_nodes, List.map_append, List.mem_append]
        simp only [List.map_cons, List.map_nil, List.mem_singleton, or_assoc]
      distinct_edges := nodup_reference_countIn _ h.distinct_edges
      counted := weight_pos_countIn _ h.counted
      weights := fun ρ => by
        rw [weightOf_countIn, h.weights, List.count_append, List.count_singleton]
        simp only [beq_iff_eq]
      total := by rw [sum_weight_countIn, h.total, List.length_append, List.length_singleton] }

theorem foldl_link (h : Accounts g paths refs) (source : Text) (ts : List (Node × EdgeKind)) :
    Accounts (ts.foldl (fun g t => g.link source t.1 t.2) g) paths
      (refs ++ (ts.map fun t => (⟨source, t.1.id, t.2⟩ : Reference)).filter Reference.isProper) := by
  induction ts generalizing g refs with
  | nil => simpa using h
  | cons t ts ih =>
    have hrest := ih (h.link source t.1 t.2)
    rw [List.append_assoc, ← List.filter_append] at hrest
    exact hrest

end Accounts

/-! ## Additions -/

namespace Addition

theorem id_node (a : Addition) : a.node.id = a.path := by
  cases a with
  | script path className _ => simp only [node]; split <;> rfl
  | scene => rfl

theorem source_of_mem_references {r : Resolution} {a : Addition} {ρ : Reference}
    (h : ρ ∈ a.references r) : ρ.source = a.path := by
  obtain ⟨t, -, rfl⟩ := List.mem_map.1 h
  rfl

/-- The kinds of references are told apart by their names. -/
theorem kind_of_mem_references {r : Resolution} {a : Addition} {ρ : Reference}
    (h : ρ ∈ a.references r) : EdgeKind.ofName ρ.kind.name = ρ.kind := by
  obtain ⟨t, ht, rfl⟩ := List.mem_map.1 h
  cases a with
  | script path className dependencies =>
    obtain ⟨d, -, hd⟩ := List.mem_filterMap.1 ht
    obtain ⟨n, -, rfl⟩ := Option.map_eq_some_iff.1 hd
    exact congrArg EdgeKind.ofName (EdgeKind.name_ofName _)
  | scene path scripts instances =>
    obtain ht | ht := List.mem_append.1 ht
    · obtain ⟨n, -, rfl⟩ := List.mem_map.1 ht
      rfl
    · obtain ⟨n, -, rfl⟩ := List.mem_map.1 ht
      rfl

end Addition

/-- An addition puts in a node and links it to each of its targets. -/
theorem add_eq (r : Resolution) (g : Graph) (a : Addition) :
    add r g a = (a.targets r).foldl (fun g t => g.link a.path t.1 t.2)
      { g with nodes := putNode a.node g.nodes } := by
  cases a with
  | script path className dependencies =>
    rw [Addition.targets, List.foldl_filterMap]
    simp only [add, addScript, Addition.node, Addition.path]
    congr 1
    funext g d
    cases r.target? path d <;> rfl
  | scene path scripts instances =>
    rw [Addition.targets, List.foldl_append, List.foldl_map, List.foldl_map]
    rfl

theorem Accounts.add {g : Graph} {paths : List Text} {refs : List Reference}
    (h : Accounts g paths refs) (r : Resolution) (a : Addition) :
    Accounts (add r g a) (paths ++ [a.path]) (refs ++ (a.references r).filter Reference.isProper) := by
  have hput := h.putNode a.node
  rw [a.id_node] at hput
  rw [add_eq]
  exact hput.foldl_link a.path (a.targets r)

theorem Accounts.foldl_add {g : Graph} {paths : List Text} {refs : List Reference}
    (h : Accounts g paths refs) (r : Resolution) (as : List Addition) :
    Accounts (as.foldl (Graph.add r) g) (paths ++ as.map Addition.path)
      (refs ++ (as.flatMap (Addition.references r)).filter Reference.isProper) := by
  induction as generalizing g paths refs with
  | nil => simpa using h
  | cons a as ih =>
    have hrest := ih (h.add r a)
    rw [List.append_assoc, List.append_assoc, ← List.filter_append] at hrest
    exact hrest

/-! ## What the invariant says of edges -/

namespace Accounts

variable {g : Graph} {paths : List Text} {refs : List Reference}

/-- The edges are fixed by the references: one for each that there is. -/
theorem mem_edges (h : Accounts g paths refs) (e : Edge) :
    e ∈ g.edges ↔ 0 < e.weight ∧ e.weight = refs.count e.reference := by
  constructor
  · intro he
    rw [← h.weights, weightOf_of_mem h.distinct_edges he]
    exact ⟨h.counted e he, rfl⟩
  · rintro ⟨hpos, hcount⟩
    rw [hcount, ← h.weights] at hpos
    obtain ⟨d, hd, href, hweight⟩ := exists_of_weightOf_pos hpos
    have hde : d = e := Edge.ext_reference href (by rw [hweight, h.weights, hcount])
    exact hde ▸ hd

theorem reference_mem (h : Accounts g paths refs) {e : Edge} (he : e ∈ g.edges) :
    e.reference ∈ refs := by
  obtain ⟨hpos, hcount⟩ := (h.mem_edges e).1 he
  exact List.count_pos_iff.1 (hcount ▸ hpos)

/-- Where the references of nodes to themselves are left out, no edge is one of those. -/
theorem mem_edges_of_filter (h : Accounts g paths (refs.filter Reference.isProper)) (e : Edge) :
    e ∈ g.edges ↔
      e.source ≠ e.target ∧ 0 < e.weight ∧ e.weight = refs.count e.reference := by
  rw [h.mem_edges, ← Edge.isProper_reference]
  constructor
  · rintro ⟨hpos, hcount⟩
    have hproper := (List.mem_filter.1 (List.count_pos_iff.1 (hcount ▸ hpos))).2
    exact ⟨hproper, hpos, by rw [hcount, List.count_filter hproper]⟩
  · rintro ⟨hproper, hpos, hcount⟩
    exact ⟨hpos, by rw [hcount, List.count_filter hproper]⟩

end Accounts

/-! ## Order -/

/-- The edge comes before the other by source, target and kind. -/
def Edge.Before (a b : Edge) : Prop :=
  Text.lt a.source b.source ∨ a.source = b.source ∧
    (Text.lt a.target b.target ∨ a.target = b.target ∧ Text.lt a.kind.name b.kind.name)

/-- Edges are compared by source, then by target, then by the name of their kind. -/
def Edge.compare : Edge → Edge → Ordering :=
  compareLex (compareOn Edge.source) (compareLex (compareOn Edge.target) (compareOn (·.kind.name)))

theorem Edge.le_iff {a b : Edge} : Edge.le a b ↔ (Edge.compare a b).isLE := by
  simp only [Edge.le, Edge.compare, compareLex, compareOn, Text.compare_eq]
  cases Ord.compare a.source b.source with
  | lt => exact iff_of_true rfl rfl
  | gt => exact iff_of_false nofun nofun
  | eq =>
    cases Ord.compare a.target b.target with
    | lt => exact iff_of_true rfl rfl
    | gt => exact iff_of_false nofun nofun
    | eq => exact Text.le_iff

instance : Std.TransCmp Edge.compare :=
  inferInstanceAs (Std.TransCmp (compareLex (compareOn Edge.source)
    (compareLex (compareOn Edge.target) (compareOn (·.kind.name)))))

theorem Edge.le_trans {a b c : Edge} (hab : Edge.le a b) (hbc : Edge.le b c) : Edge.le a c :=
  Edge.le_iff.2 (Std.TransCmp.isLE_trans (Edge.le_iff.1 hab) (Edge.le_iff.1 hbc))

theorem Edge.le_total (a b : Edge) : (Edge.le a b || Edge.le b a) = true := by
  have hswap : Edge.compare b a = (Edge.compare a b).swap := Std.OrientedCmp.eq_swap
  rw [Bool.or_eq_true, Edge.le_iff, Edge.le_iff, hswap]
  cases Edge.compare a b <;> decide

/-- Of two edges in order that differ in source, target or kind, one comes before the other. -/
theorem Edge.before_of_le {a b : Edge} (h : Edge.le a b)
    (hne : ¬ (a.source = b.source ∧ a.target = b.target ∧ a.kind.name = b.kind.name)) :
    a.Before b := by
  unfold Edge.le at h
  unfold Edge.Before
  rw [Text.compare_eq, Text.compare_eq] at h
  cases hs : Ord.compare a.source b.source with
  | lt => exact .inl (Text.lt_iff.2 hs)
  | gt => simp [hs] at h
  | eq =>
    have hs' := Std.LawfulEqCmp.eq_of_compare hs
    cases ht : Ord.compare a.target b.target with
    | lt => exact .inr ⟨hs', .inl (Text.lt_iff.2 ht)⟩
    | gt => simp [hs, ht] at h
    | eq =>
      have ht' := Std.LawfulEqCmp.eq_of_compare ht
      have hk : Text.le a.kind.name b.kind.name := by simpa [hs, ht] using h
      exact .inr ⟨hs', .inr ⟨ht', Text.lt_of_le_of_ne hk fun hn => hne ⟨hs', ht', hn⟩⟩⟩

/-- Edges of different references, with kinds that their names tell apart, ascend strictly when
they are sorted. -/
theorem before_mergeSort {es : List Edge} (hdistinct : (es.map Edge.reference).Nodup)
    (hkinds : ∀ e ∈ es, EdgeKind.ofName e.kind.name = e.kind) :
    (es.mergeSort Edge.le).Pairwise Edge.Before := by
  have hperm := List.mergeSort_perm es Edge.le
  have hsorted := @List.pairwise_mergeSort _ Edge.le (fun _ _ _ => Edge.le_trans) Edge.le_total es
  have hrefs := List.pairwise_map.1 ((hperm.map Edge.reference).nodup_iff.2 hdistinct)
  refine (hsorted.and hrefs).imp_of_mem fun {a b} ha hb h => Edge.before_of_le h.1 ?_
  rintro ⟨hs, ht, hname⟩
  have hkind : a.kind = b.kind := by
    rw [← hkinds a (hperm.mem_iff.1 ha), hname, hkinds b (hperm.mem_iff.1 hb)]
  exact h.2 (by rw [Edge.reference, hs, ht, hkind, Edge.reference])

/-! ## The graph that is built -/

/-- The graph of a project is built by adding its scripts and then its scenes. -/
theorem graphOf_eq_built (r : Resolution) (scripts : List ScriptResult)
    (scenes : List SceneSummary) :
    ProjectResult.graphOf r scripts scenes = built r
      (scripts.map (fun s =>
          .script s.path (s.decl.getD {}).className (s.decl.getD {}).dependencies) ++
        scenes.map fun s => .scene s.path (s.attached.map (·.scriptPath)) s.instances) := by
  rw [built, List.foldl_append, List.foldl_map, List.foldl_map]
  rfl

/-- **The graph of all additions.** Its nodes ascend by id: they are the added files and what
references to another node lead to. Its edges ascend by source, target and kind, join two different
nodes of the graph, and count the references of their source, target and kind; so together they
count all references but those of a node to itself. -/
theorem built_accounts (r : Resolution) (as : List Addition) :
    (built r as).nodes.Pairwise (fun m n => Text.lt m.id n.id) ∧
    (∀ id, id ∈ (built r as).nodes.map (·.id) ↔
      id ∈ as.map Addition.path ∨
        ∃ ρ ∈ as.flatMap (Addition.references r), ρ.source ≠ ρ.target ∧ ρ.target = id) ∧
    (built r as).edges.Pairwise Edge.Before ∧
    (∀ e ∈ (built r as).edges,
      e.source ∈ (built r as).nodes.map (·.id) ∧ e.target ∈ (built r as).nodes.map (·.id) ∧
        e.source ≠ e.target) ∧
    (∀ e, e ∈ (built r as).edges ↔
      e.source ≠ e.target ∧ 0 < e.weight ∧
        e.weight = (as.flatMap (Addition.references r)).count e.reference) ∧
    ((built r as).edges.map (·.weight)).sum =
      (as.flatMap (Addition.references r)).countP Reference.isProper := by
  have h := accounts_empty.foldl_add r as
  rw [List.nil_append, List.nil_append] at h
  set g := as.foldl (add r) {}
  set refs := as.flatMap (Addition.references r)
  have hnodes : (built r as).nodes.Perm g.nodes := List.mergeSort_perm _ _
  have hedges : (built r as).edges.Perm g.edges := List.mergeSort_perm _ _
  have hids (id : Text) : id ∈ (built r as).nodes.map (·.id) ↔
      id ∈ as.map Addition.path ∨ ∃ ρ ∈ refs, ρ.source ≠ ρ.target ∧ ρ.target = id := by
    rw [(hnodes.map _).mem_iff, h.mem_nodes]
    simp [Reference.isProper, and_assoc]
  have hmem (e : Edge) : e ∈ g.edges ↔
      e.source ≠ e.target ∧ 0 < e.weight ∧ e.weight = refs.count e.reference :=
    h.mem_edges_of_filter e
  have hmade {e : Edge} (he : e ∈ g.edges) : ∃ a ∈ as, e.reference ∈ a.references r :=
    List.mem_flatMap.1 (List.mem_of_mem_filter (h.reference_mem he))
  have hkinds : ∀ e ∈ g.edges, EdgeKind.ofName e.kind.name = e.kind := fun e he => by
    obtain ⟨a, -, hρ⟩ := hmade he
    exact a.kind_of_mem_references hρ
  refine ⟨Text.ascending_mergeSort h.distinct_nodes, hids,
    before_mergeSort h.distinct_edges hkinds, fun e he => ?_, fun e => ?_, ?_⟩
  · have he := hedges.mem_iff.1 he
    have hne := ((hmem e).1 he).1
    obtain ⟨a, ha, hρ⟩ := hmade he
    refine ⟨(hids _).2 (.inl ?_), (hids _).2 (.inr ?_), hne⟩
    · exact List.mem_map.2 ⟨a, ha, (a.source_of_mem_references hρ).symm⟩
    · exact ⟨e.reference, List.mem_flatMap.2 ⟨a, ha, hρ⟩, hne, rfl⟩
  · rw [hedges.mem_iff, hmem]
  · rw [(hedges.map _).sum_nat, h.total, List.countP_eq_length_filter]

end Graph

end GodotSurvey
