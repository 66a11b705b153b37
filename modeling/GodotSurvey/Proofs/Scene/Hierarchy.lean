import GodotSurvey.Proofs.Scene.Assembly
import Mathlib.Data.List.Induction
import Mathlib.Data.List.Sort

/-!
# The tree of a node list

Nodes are placed one after the other, each below a node that is already there. The state of the
placement carries an invariant, `Follows`: positions ascend, every entry is the node of the list
at its position, and it hangs from an earlier entry that its parent path names.

* `next_cases` — what placing one node can do.
* `Placement.Follows.next` — one node keeps the invariant; `follows_placement` — so does a list.
* `hierarchy_arranges` — **the tree and the orphans hold every node once, and each node of the
  tree hangs where its parent path says.**
-/

namespace GodotSurvey.Scene

open NodeTree

/-! ## Looking up a parent -/

/-- The parent path names the placed node: `.` names the root, any other path the nodes below it
of that path or that name. -/
def Names (path : Text) (u : Placed) : Prop :=
  path ≠ [] ∧ path ≠ strayParent ∧
    (path = rootPath ∧ u.parent = none ∨
      path ≠ rootPath ∧ u.parent ≠ none ∧ (u.decl.path = path ∨ u.decl.name = path))

/-- The placed nodes below the root. -/
def Placement.attached (p : Placement) : List Placed := p.placed.filter (·.parent.isSome)

theorem Placement.mem_attached {p : Placement} {u : Placed} :
    u ∈ p.attached ↔ u ∈ p.placed ∧ u.parent ≠ none := by
  simp [attached, Option.isSome_iff_ne_none]

theorem Placement.parentOf?_eq (p : Placement) (path : Text) :
    p.parentOf? path =
      if path = [] ∨ path = strayParent then none
      else if path = rootPath then p.root?
      else ((p.attached.find? (·.decl.path == path)).or
        (p.attached.find? (·.decl.name == path))).map (·.id) := by
  simp only [parentOf?, Bool.or_eq_true, List.isEmpty_iff, beq_iff_eq]
  congr 2
  cases hpath : p.attached.find? (·.decl.path == path) with
  | none => rw [attached] at hpath; simp [hpath, attached]
  | some u => rw [attached] at hpath; simp [hpath]

variable {p : Placement} {path : Text}

theorem Placement.root?_eq_none_iff : p.root? = none ↔ ∀ u ∈ p.placed, u.parent ≠ none := by
  simp [root?]

/-- The parent that is found is one that the path names. -/
theorem Placement.names_of_parentOf? {i : Nat} (h : p.parentOf? path = some i) :
    ∃ u ∈ p.placed, u.id = i ∧ Names path u := by
  rw [parentOf?_eq] at h
  split at h
  · cases h
  · rename_i hopen
    rw [not_or] at hopen
    split at h
    · rename_i hroot
      obtain ⟨u, hu, rfl⟩ := Option.map_eq_some_iff.1 h
      have hnone : u.parent = none := by simpa using List.find?_some hu
      exact ⟨u, List.mem_of_find?_eq_some hu, rfl, hopen.1, hopen.2, .inl ⟨hroot, hnone⟩⟩
    · rename_i hroot
      obtain ⟨u, hu, rfl⟩ := Option.map_eq_some_iff.1 h
      rcases Option.or_eq_some_iff.1 hu with hu | ⟨-, hu⟩
      · have hmem := mem_attached.1 (List.mem_of_find?_eq_some hu)
        have hname : u.decl.path = path := by simpa using List.find?_some hu
        exact ⟨u, hmem.1, rfl, hopen.1, hopen.2, .inr ⟨hroot, hmem.2, .inl hname⟩⟩
      · have hmem := mem_attached.1 (List.mem_of_find?_eq_some hu)
        have hname : u.decl.name = path := by simpa using List.find?_some hu
        exact ⟨u, hmem.1, rfl, hopen.1, hopen.2, .inr ⟨hroot, hmem.2, .inr hname⟩⟩

/-- If no parent is found, the path names none of the placed nodes. -/
theorem Placement.not_names_of_parentOf? (h : p.parentOf? path = none) :
    ∀ u ∈ p.placed, ¬ Names path u := by
  rintro u hu ⟨hne, hstray, hnames⟩
  rw [parentOf?_eq, if_neg (by simp [hne, hstray])] at h
  rcases hnames with ⟨hroot, hnone⟩ | ⟨hroot, hsome, hnames⟩
  · rw [if_pos hroot, root?_eq_none_iff] at h
    exact h u hu hnone
  · rw [if_neg hroot, Option.map_eq_none_iff, Option.or_eq_none_iff] at h
    have hmem := mem_attached.2 ⟨hu, hsome⟩
    rcases hnames with hnames | hnames
    · simpa [hnames] using List.find?_eq_none.1 h.1 u hmem
    · simpa [hnames] using List.find?_eq_none.1 h.2 u hmem

/-! ## Placing one node -/

/-- The placement with one more entry. -/
def Placement.add (p : Placement) (e : Placed) : Placement := { p with placed := p.placed ++ [e] }

/-- The placement with one more node left out. -/
def Placement.leave (p : Placement) (n : NodeDecl) : Placement :=
  { p with orphans := p.orphans ++ [n] }

@[simp] theorem Placement.add_orphans (p : Placement) (e : Placed) :
    (p.add e).orphans = p.orphans := rfl

@[simp] theorem Placement.leave_orphans (p : Placement) (n : NodeDecl) :
    (p.leave n).orphans = p.orphans ++ [n] := rfl

theorem Placement.mem_add {e q : Placed} : q ∈ (p.add e).placed ↔ q ∈ p.placed ∨ q = e := by
  simp [add]

theorem Placement.root?_add (p : Placement) (e : Placed) :
    (p.add e).root? = p.root?.or (if e.parent = none then some e.id else none) := by
  simp only [add, root?, List.find?_append, Option.map_or]
  congr 1
  by_cases he : e.parent = none <;> simp [he]

/-- The node becomes the root, hangs from a node that its parent path names, or is left out. -/
theorem next_cases (p : Placement) (id : Nat) (n : NodeDecl) :
    (p.root? = none ∧ n.isRoot ∧ p.next (id, n) = p.add ⟨id, n, none⟩) ∨
    (∃ u ∈ p.placed, Names n.parentPath u ∧ p.parentOf? n.parentPath = some u.id ∧
      p.next (id, n) = p.add ⟨id, n, some u.id⟩) ∨
    ((n.isRoot → p.root? ≠ none) ∧ (∀ u ∈ p.placed, ¬ Names n.parentPath u) ∧
      p.next (id, n) = p.leave n) := by
  by_cases hroot : p.root? = none ∧ n.isRoot
  · exact .inl ⟨hroot.1, hroot.2, by simp [Placement.next, hroot.1, hroot.2, Placement.add]⟩
  · have hnext : (p.root?.isNone && n.isRoot) = false := by
      simpa [Bool.and_eq_false_imp, ← Bool.not_eq_true] using hroot
    right
    cases hparent : p.parentOf? n.parentPath with
    | none =>
      refine .inr ⟨fun hn hp => hroot ⟨hp, hn⟩, Placement.not_names_of_parentOf? hparent, ?_⟩
      simp [Placement.next, hnext, hparent, Placement.leave]
    | some i =>
      obtain ⟨u, hu, rfl, hnames⟩ := Placement.names_of_parentOf? hparent
      exact .inl ⟨u, hu, hnames, rfl, by simp [Placement.next, hnext, hparent, Placement.add]⟩

/-! ## The invariant -/

/-- The node at that position has been placed. -/
def Placement.has (p : Placement) (j : Nat) : Bool := p.placed.any (·.id == j)

theorem Placement.has_iff {j : Nat} : p.has j ↔ ∃ q ∈ p.placed, q.id = j := by
  simp [has]

/-- What placing the nodes of a list keeps true. -/
structure Placement.Follows (nodes : List NodeDecl) (p : Placement) : Prop where
  ordered : Ordered p.placed
  reads : ∀ q ∈ p.placed, nodes[q.id]? = some q.decl
  root : p.root? = nodes.findIdx? NodeDecl.isRoot
  root_unique : ∀ q ∈ p.placed, q.parent = none → p.root? = some q.id
  rootless : p.root? = none → p.placed = []
  adopted : ∀ q ∈ p.placed, ∀ i, q.parent = some i →
    ∃ u ∈ p.placed, u.id = i ∧ Names q.decl.parentPath u
  refused : ∀ j v, nodes[j]? = some v → ¬ p.has j →
    ∀ u ∈ p.placed, u.id < j → ¬ Names v.parentPath u
  complete : (p.placed.map (·.decl) ++ p.orphans).Perm nodes
  orphans : p.orphans = (nodes.zipIdx.filter (!p.has ·.2)).map (·.1)

variable {nodes : List NodeDecl}

theorem Placement.Follows.id_lt (h : p.Follows nodes) {q : Placed} (hq : q ∈ p.placed) :
    q.id < nodes.length :=
  (List.getElem?_eq_some_iff.1 (h.reads q hq)).1

/-- The next position is not placed yet. -/
theorem Placement.Follows.has_length (h : p.Follows nodes) : p.has nodes.length = false := by
  rw [← Bool.not_eq_true, has_iff]
  rintro ⟨q, hq, hid⟩
  exact Nat.ne_of_lt (h.id_lt hq) hid

/-- What stands in a list with one more item stood there before, or is that item. -/
theorem getElem?_concat_cases {α : Type} {xs : List α} {x y : α} {j : Nat}
    (h : (xs ++ [x])[j]? = some y) :
    j < xs.length ∧ xs[j]? = some y ∨ j = xs.length ∧ x = y := by
  by_cases hj : j < xs.length
  · rw [List.getElem?_append_left hj] at h
    exact .inl ⟨hj, h⟩
  · have hlast := (List.getElem?_eq_some_iff.1 h).1
    rw [List.length_append, List.length_singleton] at hlast
    obtain rfl : j = xs.length := by omega
    exact .inr ⟨rfl, by simpa using h⟩

/-- An entry may follow if its id is the greatest. -/
theorem Ordered.concat {ps : List Placed} (h : Ordered ps) {e : Placed}
    (hid : ∀ q ∈ ps, q.id < e.id) (hparent : ∀ i, e.parent = some i → i < e.id) :
    Ordered (ps ++ [e]) := by
  refine ⟨List.pairwise_append.2 ⟨h.ascending, List.pairwise_singleton _ _, ?_⟩, ?_⟩
  · intro q hq d hd
    rw [List.mem_singleton.1 hd]
    exact hid q hq
  · intro q hq
    rcases List.mem_append.1 hq with hq | hq
    · exact h.parent_lt q hq
    · rw [List.mem_singleton.1 hq]
      exact hparent

/-- A node may be placed as the first root, or below a node that its parent path names. -/
theorem Placement.Follows.add (h : p.Follows nodes) {n : NodeDecl} {parent : Option Nat}
    (hroot : parent = none → p.root? = none ∧ n.isRoot)
    (hparent : ∀ i, parent = some i → ∃ u ∈ p.placed, u.id = i ∧ Names n.parentPath u) :
    (p.add ⟨nodes.length, n, parent⟩).Follows (nodes ++ [n]) := by
  have hrooted : parent ≠ none → ∃ r, p.root? = some r := by
    intro hne
    obtain ⟨i, hi⟩ := Option.ne_none_iff_exists'.1 hne
    obtain ⟨u, hu, -⟩ := hparent i hi
    apply Option.ne_none_iff_exists'.1
    intro hnone
    rw [h.rootless hnone] at hu
    cases hu
  have hhas {j : Nat} (hj : j < nodes.length) : (p.add ⟨nodes.length, n, parent⟩).has j = p.has j := by
    simp [has, Placement.add, Nat.ne_of_gt hj]
  have hnew : (p.add ⟨nodes.length, n, parent⟩).has nodes.length :=
    has_iff.2 ⟨_, mem_add.2 (.inr rfl), rfl⟩
  exact {
    ordered := by
      refine h.ordered.concat (fun q hq => h.id_lt hq) fun i hi => ?_
      obtain ⟨u, hu, rfl, -⟩ := hparent i hi
      exact h.id_lt hu
    reads := by
      intro q hq
      rcases mem_add.1 hq with hq | rfl
      · rw [List.getElem?_append_left (h.id_lt hq), h.reads q hq]
      · simp
    root := by
      rw [root?_add, List.findIdx?_append, ← h.root]
      cases hp : parent with
      | none => simp [hroot hp, List.findIdx?_cons]
      | some i =>
        obtain ⟨r, hr⟩ := hrooted (by simp [hp])
        simp [hr]
    root_unique := by
      intro q hq hnone
      rw [root?_add]
      rcases mem_add.1 hq with hq | rfl
      · rw [h.root_unique q hq hnone, Option.some_or]
      · have hnone : parent = none := hnone
        simp [hroot hnone, hnone]
    rootless := by
      intro hnone
      rw [root?_add, Option.or_eq_none_iff] at hnone
      cases hp : parent with
      | none => simp [hp] at hnone
      | some i =>
        obtain ⟨r, hr⟩ := hrooted (by simp [hp])
        simp [hr] at hnone
    adopted := by
      intro q hq i hi
      rcases mem_add.1 hq with hq | rfl
      · obtain ⟨u, hu, hid⟩ := h.adopted q hq i hi
        exact ⟨u, mem_add.2 (.inl hu), hid⟩
      · obtain ⟨u, hu, hid⟩ := hparent i hi
        exact ⟨u, mem_add.2 (.inl hu), hid⟩
    refused := by
      intro j v hj hleft u hu hlt
      rcases getElem?_concat_cases hj with ⟨hj', hj⟩ | ⟨rfl, -⟩
      · rw [hhas hj'] at hleft
        rcases mem_add.1 hu with hu | rfl
        · exact h.refused j v hj hleft u hu hlt
        · exact absurd hlt (Nat.lt_asymm hj')
      · exact absurd hnew hleft
    complete := by
      have hswap : (p.placed.map (·.decl) ++ ([n] ++ p.orphans)).Perm
          (p.placed.map (·.decl) ++ p.orphans ++ [n]) := by
        rw [List.append_assoc]
        exact List.perm_append_comm.append_left _
      simpa [Placement.add] using hswap.trans (h.complete.append_right [n])
    orphans := by
      have hold : nodes.zipIdx.filter (!(p.add ⟨nodes.length, n, parent⟩).has ·.2) =
          nodes.zipIdx.filter (!p.has ·.2) :=
        List.filter_congr fun m hm => by rw [hhas (List.snd_lt_of_mem_zipIdx hm)]
      rw [List.zipIdx_append, List.filter_append, hold, List.map_append, ← h.orphans]
      simp [hnew] }

/-- A node may be left out if its parent path names none of the placed nodes. -/
theorem Placement.Follows.leave (h : p.Follows nodes) {n : NodeDecl}
    (hroot : n.isRoot → p.root? ≠ none) (hnames : ∀ u ∈ p.placed, ¬ Names n.parentPath u) :
    (p.leave n).Follows (nodes ++ [n]) where
  ordered := h.ordered
  reads q hq := by rw [List.getElem?_append_left (h.id_lt hq), h.reads q hq]
  root := by
    rw [List.findIdx?_append, ← h.root]
    by_cases hn : n.isRoot
    · obtain ⟨r, hr⟩ := Option.ne_none_iff_exists'.1 (hroot hn)
      rw [hr, Option.some_or]
      exact hr
    · have hlast : [n].findIdx? NodeDecl.isRoot = none := by simp [List.findIdx?_cons, hn]
      rw [hlast, Option.map_none, Option.or_none]
      rfl
  root_unique := h.root_unique
  rootless := h.rootless
  adopted := h.adopted
  refused j v hj hleft u hu hlt := by
    rcases getElem?_concat_cases hj with ⟨-, hj⟩ | ⟨-, rfl⟩
    · exact h.refused j v hj hleft u hu hlt
    · exact hnames u hu
  complete := by
    have happend := h.complete.append_right [n]
    rwa [List.append_assoc] at happend
  orphans := by
    have hsame : (p.leave n).has = p.has := rfl
    rw [hsame, List.zipIdx_append, List.filter_append, List.map_append, ← h.orphans]
    simp [h.has_length]

/-- **Placing the next node keeps the invariant.** -/
theorem Placement.Follows.next (h : p.Follows nodes) (n : NodeDecl) :
    (p.next (nodes.length, n)).Follows (nodes ++ [n]) := by
  rcases next_cases p nodes.length n with ⟨hnone, hroot, hnext⟩ | ⟨u, hu, hnames, -, hnext⟩ |
    ⟨hroot, hnames, hnext⟩
  · rw [hnext]
    exact h.add (fun _ => ⟨hnone, hroot⟩) (by simp)
  · rw [hnext]
    refine h.add (by simp) fun i hi => ?_
    exact ⟨u, hu, Option.some_inj.1 hi, hnames⟩
  · rw [hnext]
    exact h.leave hroot hnames

theorem placement_concat (nodes : List NodeDecl) (n : NodeDecl) :
    placement (nodes ++ [n]) = (placement nodes).next (nodes.length, n) := by
  simp [placement, List.mapIdx_append]

theorem follows_placement (nodes : List NodeDecl) : (placement nodes).Follows nodes := by
  induction nodes using List.reverseRecOn with
  | nil =>
    exact ⟨⟨.nil, by simp [placement]⟩, by simp [placement], rfl, by simp [placement],
      fun _ => rfl, by simp [placement], by simp, .refl _, rfl⟩
  | append_singleton nodes n ih =>
    rw [placement_concat]
    exact ih.next n

/-! ## Layouts -/

/-- Where the nodes of a list hang: the position of the root, and of the parent of each node that
hangs below it. -/
structure Layout where
  root : Option Nat
  parent : Nat → Option Nat

namespace Layout

/-- The node at that position is in the tree. -/
def attached (l : Layout) (j : Nat) : Bool := l.root == some j || (l.parent j).isSome

/-- The positions among the first `n` that hang from position `i`, in order. -/
def children (l : Layout) (n i : Nat) : List Nat :=
  (List.range n).filter (l.parent · == some i)

/-- The parent path of `v` names the node `u` at position `i`. -/
def Names (l : Layout) (i : Nat) (u v : NodeDecl) : Prop :=
  v.parentPath = rootPath ∧ l.root = some i ∨
    v.parentPath ≠ rootPath ∧ l.root ≠ some i ∧
      (u.path = v.parentPath ∨ u.name = v.parentPath)

/-- The layout arranges the nodes as the tree `t`. -/
structure Arranges (l : Layout) (nodes : List NodeDecl) (t : SceneTree) : Prop where
  /-- The root is the first node without a parent path. -/
  root_first : l.root = nodes.findIdx? NodeDecl.isRoot
  /-- A parent is a node of the tree and comes before its children, whose parent paths name it. -/
  parent_named : ∀ i j, l.parent j = some i → i < j ∧ l.attached i ∧
    ∃ u v, nodes[i]? = some u ∧ nodes[j]? = some v ∧ l.Names i u v
  /-- Below each node hang its children in the order of the list. -/
  grown : ∃ subtree : Nat → NodeTree, t.root = l.root.map subtree ∧
    ∀ i n, nodes[i]? = some n → l.attached i →
      subtree i = .node n ((l.children nodes.length i).map subtree)
  /-- The orphans are the other nodes in the order of the list. -/
  orphans : t.orphans = (nodes.zipIdx.filter (!l.attached ·.2)).map (·.1)
  /-- No node of the tree that comes before an orphan could be its parent. -/
  refused : ∀ i j u v, nodes[i]? = some u → nodes[j]? = some v → i < j → l.attached i →
    ¬ l.attached j → v.parentPath = [] ∨ v.parentPath = strayParent ∨ ¬ l.Names i u v

end Layout

/-- The layout of a placement. -/
def Placement.layout (p : Placement) : Layout where
  root := p.root?
  parent j := (p.placed.find? (·.id == j)).bind (·.parent)

namespace Placement.Follows

theorem parent_eq_some_iff (h : p.Follows nodes) {i j : Nat} :
    p.layout.parent j = some i ↔ ∃ q ∈ p.placed, q.id = j ∧ q.parent = some i := by
  constructor
  · intro hparent
    obtain ⟨q, hq, hi⟩ := Option.bind_eq_some_iff.1 hparent
    exact ⟨q, List.mem_of_find?_eq_some hq, by simpa using List.find?_some hq, hi⟩
  · rintro ⟨q, hq, rfl, hi⟩
    cases hfind : p.placed.find? (·.id == q.id) with
    | none => simpa using List.find?_eq_none.1 hfind q hq
    | some r =>
      have hr : r = q := h.ordered.eq_of_id (List.mem_of_find?_eq_some hfind) hq
        (by simpa using List.find?_some hfind)
      simp [layout, hfind, hr, hi]

theorem attached_eq (h : p.Follows nodes) (j : Nat) : p.layout.attached j = p.has j := by
  rw [Bool.eq_iff_iff, has_iff]
  simp only [Layout.attached, Bool.or_eq_true, beq_iff_eq, Option.isSome_iff_exists,
    h.parent_eq_some_iff]
  constructor
  · rintro (hroot | ⟨i, q, hq, hid, -⟩)
    · obtain ⟨q, hq, hid⟩ := Option.map_eq_some_iff.1 hroot
      exact ⟨q, List.mem_of_find?_eq_some hq, hid⟩
    · exact ⟨q, hq, hid⟩
  · rintro ⟨q, hq, rfl⟩
    cases hparent : q.parent with
    | none => exact .inl (h.root_unique q hq hparent)
    | some i => exact .inr ⟨i, q, hq, rfl, hparent⟩

theorem children_eq (h : p.Follows nodes) (i : Nat) :
    p.layout.children nodes.length i = (p.placed.filter (·.parent == some i)).map (·.id) := by
  have hleft : (p.layout.children nodes.length i).Pairwise (· < ·) :=
    List.pairwise_lt_range.filter _
  have hright : ((p.placed.filter (·.parent == some i)).map (·.id)).Pairwise (· < ·) :=
    List.pairwise_map.2 (h.ordered.ascending.filter _)
  refine hleft.eq_of_mem_iff hright fun j => ?_
  simp only [Layout.children, List.mem_filter, List.mem_range, beq_iff_eq, List.mem_map,
    h.parent_eq_some_iff]
  constructor
  · rintro ⟨-, q, hq, hid, hi⟩
    exact ⟨q, ⟨hq, hi⟩, hid⟩
  · rintro ⟨q, ⟨hq, hi⟩, rfl⟩
    exact ⟨h.id_lt hq, q, hq, rfl, hi⟩

theorem root?_eq_some_iff (h : p.Follows nodes) {u : Placed} (hu : u ∈ p.placed) :
    p.root? = some u.id ↔ u.parent = none := by
  refine ⟨fun hroot => ?_, h.root_unique u hu⟩
  obtain ⟨r, hr, hid⟩ := Option.map_eq_some_iff.1 hroot
  rw [← h.ordered.eq_of_id (List.mem_of_find?_eq_some hr) hu hid]
  simpa using List.find?_some hr

theorem names_iff (h : p.Follows nodes) {u : Placed} (hu : u ∈ p.placed) {v : NodeDecl} :
    Scene.Names v.parentPath u ↔
      v.parentPath ≠ [] ∧ v.parentPath ≠ strayParent ∧ p.layout.Names u.id u.decl v := by
  have hroot : p.layout.root = some u.id ↔ u.parent = none := h.root?_eq_some_iff hu
  rw [Scene.Names, Layout.Names, ne_eq p.layout.root, hroot]

/-- Only the root has no parent among the placed nodes. -/
theorem filter_isLoose (h : p.Follows nodes) {r : Placed}
    (hr : p.placed.find? (·.parent.isNone) = some r) :
    p.placed.filter (·.IsLoose p.placed) = [r] := by
  have hnodup : p.placed.Nodup := h.ordered.ascending.imp fun hlt heq => by
    rw [heq] at hlt
    exact Nat.lt_irrefl _ hlt
  have hrmem := List.mem_of_find?_eq_some hr
  have hrnone : r.parent = none := by simpa using List.find?_some hr
  apply List.perm_singleton.1
  rw [List.perm_ext_iff_of_nodup (hnodup.filter _) (List.nodup_singleton r)]
  intro q
  rw [List.mem_filter, List.mem_singleton, decide_eq_true_eq]
  constructor
  · rintro ⟨hq, hloose⟩
    cases hparent : q.parent with
    | none =>
      have hid := (h.root_unique q hq hparent).symm.trans (h.root_unique r hrmem hrnone)
      exact h.ordered.eq_of_id hq hrmem (Option.some_inj.1 hid)
    | some i =>
      obtain ⟨u, hu, rfl, -⟩ := h.adopted q hq i hparent
      exact absurd hparent (hloose u hu)
  · rintro rfl
    exact ⟨hrmem, fun u _ => by simp [hrnone]⟩

/-- The placed nodes make up one tree, if there is a root. -/
theorem assemble_eq_root (h : p.Follows nodes) : ∃ subtree : Nat → NodeTree,
    (∀ q ∈ p.placed, subtree q.id =
      .node q.decl ((p.layout.children nodes.length q.id).map subtree)) ∧
    assemble p.placed = (p.root?.map fun r => (⟨none, subtree r⟩ : Pending)).toList := by
  obtain ⟨subtree, hsub, hasm⟩ := assemble_eq h.ordered
  refine ⟨subtree, fun q hq => ?_, ?_⟩
  · rw [hsub q hq, h.children_eq, List.map_map]
    rfl
  · cases hr : p.placed.find? (·.parent.isNone) with
    | none =>
      have hroot : p.root? = none := by simp [root?, hr]
      rw [hroot, h.rootless hroot]
      rfl
    | some r =>
      have hroot : p.root? = some r.id := by simp [root?, hr]
      have hnone : r.parent = none := by simpa using List.find?_some hr
      rw [hasm, h.filter_isLoose hr, hroot]
      simp [hnone]

end Placement.Follows

/-! ## The hierarchy -/

/-- The tree of a scene is what its placed nodes are assembled to. -/
theorem assemble_placement (nodes : List NodeDecl) :
    assemble (placement nodes).placed =
      ((hierarchy nodes).root.map fun t => (⟨none, t⟩ : Pending)).toList := by
  obtain ⟨subtree, -, hasm⟩ := (follows_placement nodes).assemble_eq_root
  rw [hierarchy, hasm]
  cases (placement nodes).root? <;> rfl

theorem hierarchy_perm (nodes : List NodeDecl) :
    ((hierarchy nodes).root.toList.flatMap flatten ++ (hierarchy nodes).orphans).Perm nodes := by
  have hplaced := assemble_perm (placement nodes).placed
  rw [assemble_placement] at hplaced
  have htree : ((hierarchy nodes).root.map fun t => (⟨none, t⟩ : Pending)).toList.flatMap
      (·.tree.flatten) = (hierarchy nodes).root.toList.flatMap flatten := by
    cases (hierarchy nodes).root <;> simp
  rw [htree] at hplaced
  exact (hplaced.append_right _).trans (follows_placement nodes).complete

theorem layout_arranges (nodes : List NodeDecl) :
    (placement nodes).layout.Arranges nodes (hierarchy nodes) := by
  have h := follows_placement nodes
  exact {
    root_first := h.root
    parent_named := by
      intro i j hparent
      obtain ⟨q, hq, rfl, hi⟩ := h.parent_eq_some_iff.1 hparent
      obtain ⟨u, hu, rfl, hnames⟩ := h.adopted q hq i hi
      refine ⟨h.ordered.parent_lt q hq u.id hi, ?_, u.decl, q.decl, h.reads u hu, h.reads q hq, ?_⟩
      · rw [h.attached_eq, Placement.has_iff]
        exact ⟨u, hu, rfl⟩
      · exact ((h.names_iff hu).1 hnames).2.2
    grown := by
      obtain ⟨subtree, hsub, hasm⟩ := h.assemble_eq_root
      refine ⟨subtree, ?_, fun i n hn hi => ?_⟩
      · rw [hierarchy, hasm, Placement.layout]
        cases (placement nodes).root? <;> rfl
      · rw [h.attached_eq] at hi
        obtain ⟨q, hq, rfl⟩ := Placement.has_iff.1 hi
        rw [hsub q hq, Option.some_inj.1 ((h.reads q hq).symm.trans hn)]
    orphans := by
      simp only [h.attached_eq]
      exact h.orphans
    refused := by
      intro i j u v hu hv hlt hi hj
      rw [h.attached_eq] at hi hj
      obtain ⟨q, hq, rfl⟩ := Placement.has_iff.1 hi
      have hnames := h.refused j v hv hj q hq hlt
      rw [h.names_iff hq, Option.some_inj.1 ((h.reads q hq).symm.trans hu)] at hnames
      tauto }

/-- **Nothing is lost and nothing doubled.** For every node list, the nodes of the tree and the
orphans are the nodes of the list; the tree is that of a layout in which every node hangs from an
earlier one that its parent path names. -/
theorem hierarchy_arranges (nodes : List NodeDecl) :
    ((hierarchy nodes).root.toList.flatMap flatten ++ (hierarchy nodes).orphans).Perm nodes ∧
    (∃ l : Layout, l.Arranges nodes (hierarchy nodes)) ∧
    ((hierarchy nodes).root = none → (hierarchy nodes).orphans = nodes) ∧
    ∀ t, (hierarchy nodes).root = some t →
      nodes.length = t.count + (hierarchy nodes).orphans.length := by
  have hperm := hierarchy_perm nodes
  have harranges := layout_arranges nodes
  refine ⟨hperm, ⟨_, harranges⟩, fun hnone => ?_, fun t ht => ?_⟩
  · -- without a root no position is attached
    obtain ⟨subtree, hroot, -⟩ := harranges.grown
    rw [hnone, eq_comm, Option.map_eq_none_iff] at hroot
    have hplaced := (follows_placement nodes).rootless hroot
    have hleft (j : Nat) : (placement nodes).layout.attached j = false := by
      rw [(follows_placement nodes).attached_eq, Placement.has, hplaced]
      rfl
    rw [harranges.orphans]
    simp [hleft]
  · rw [ht] at hperm
    simpa [count_eq_length] using hperm.length_eq.symm

end GodotSurvey.Scene
