import GodotSurvey.Proofs.Scene.Hierarchy
import GodotSurvey.Proofs.Script.Bodies

/-!
# Building a tree from its own nodes

The nodes of a tree, taken depth first, can be built into a tree again. That gives the same tree
only as far as every node finds its parent again: the first node of a path, and without one the
first node of a name, is a parent, and depth first another node may come first.

* `Placement.parentOf?_eq_some_iff` — which of the nodes that a path names is found.
* `hierarchy_flatten_of_keepsParents`, `keepsParents_of_hierarchy_flatten` — a tree is built again
  from its nodes exactly if no parent is overtaken.
* `nodup_nodes_parse` — the nodes of a scene file are told apart by their lines.
* `hierarchy_flatten_iff` — **so the tree of a scene file is built again exactly if no parent is
  overtaken**, and in particular if paths are distinct and name all parents.
-/

namespace GodotSurvey

namespace NodeTree

/-- The position of a node in depth-first order. -/
def position (t : NodeTree) (n : NodeDecl) : Nat := t.flatten.idxOf n

end NodeTree

namespace Scene

open NodeTree

/-! ## Which parent is found -/

theorem Ordered.filter {ps : List Placed} (h : Ordered ps) (f : Placed → Bool) :
    Ordered (ps.filter f) :=
  ⟨h.ascending.filter f, fun q hq => h.parent_lt q (List.mem_of_mem_filter hq)⟩

/-- What does not stand before an entry does not come before it. -/
theorem Ordered.mem_or_le {ps qs : List Placed} {e w : Placed} (h : Ordered (ps ++ e :: qs))
    (hw : w ∈ ps ++ e :: qs) : w ∈ ps ∨ e.id ≤ w.id := by
  have hlater := (List.pairwise_append.1 h.ascending).2.1
  rcases List.mem_append.1 hw with hw | hw
  · exact .inl hw
  · rcases List.mem_cons.1 hw with rfl | hw
    · exact .inr (Nat.le_refl _)
    · exact .inr (Nat.le_of_lt ((List.pairwise_cons.1 hlater).1 w hw))

theorem Ordered.le_of_find? {ps : List Placed} (h : Ordered ps) {f : Placed → Bool} {u w : Placed}
    (hu : ps.find? f = some u) (hw : w ∈ ps) (hfw : f w) : u.id ≤ w.id := by
  obtain ⟨-, before, after, hps, hbefore⟩ := List.find?_eq_some_iff_append.1 hu
  rw [hps] at h hw
  refine (h.mem_or_le hw).resolve_left fun hw => ?_
  have hnot := hbefore w hw
  simp [hfw] at hnot

/-- The entry that is found is the one with the least position. -/
theorem Ordered.find?_eq_some_iff {ps : List Placed} (h : Ordered ps) {f : Placed → Bool}
    {u : Placed} :
    ps.find? f = some u ↔ u ∈ ps ∧ f u ∧ ∀ w ∈ ps, f w → u.id ≤ w.id := by
  constructor
  · intro hu
    exact ⟨List.mem_of_find?_eq_some hu, List.find?_some hu, fun w => h.le_of_find? hu⟩
  · rintro ⟨hu, hfu, hleast⟩
    cases hfind : ps.find? f with
    | none => exact absurd hfu (List.find?_eq_none.1 hfind u hu)
    | some w =>
      have hw := List.mem_of_find?_eq_some hfind
      have hid := Nat.le_antisymm (h.le_of_find? hfind hu hfu) (hleast w hw (List.find?_some hfind))
      rw [h.eq_of_id hw hu hid]

/-- Of two placed nodes that a parent path names, `w` is preferred to `u`: it has that path and
`u` only the name, or it comes first. -/
def Placed.Beats (path : Text) (w u : Placed) : Prop :=
  w.decl.path = path ∧ (u.decl.path ≠ path ∨ w.id < u.id) ∨
    w.decl.name = path ∧ u.decl.path ≠ path ∧ w.id < u.id

/-- A node that the path names is found exactly if no other one is preferred to it. -/
theorem Placement.parentOf?_eq_some_iff {p : Placement} (h : Ordered p.placed) {path : Text}
    {u : Placed} (hu : u ∈ p.placed) (hnames : Names path u) (hroot : path ≠ rootPath) :
    p.parentOf? path = some u.id ↔ ∀ w ∈ p.attached, ¬ w.Beats path u := by
  obtain ⟨hne, hstray, ⟨hpath, -⟩ | ⟨-, hsome, hnamed⟩⟩ := hnames
  · exact absurd hpath hroot
  have hattached : Ordered p.attached := h.filter _
  have hmem : u ∈ p.attached := mem_attached.2 ⟨hu, hsome⟩
  have hfound : p.parentOf? path = some u.id ↔
      p.attached.find? (·.decl.path == path) = some u ∨
        p.attached.find? (·.decl.path == path) = none ∧
          p.attached.find? (·.decl.name == path) = some u := by
    rw [parentOf?_eq, if_neg (by simp [hne, hstray]), if_neg hroot, ← Option.or_eq_some_iff,
      Option.map_eq_some_iff]
    refine ⟨?_, fun hor => ⟨u, hor, rfl⟩⟩
    rintro ⟨x, hx, hid⟩
    have hxmem : x ∈ p.attached := by
      rcases Option.or_eq_some_iff.1 hx with hx | ⟨-, hx⟩ <;> exact List.mem_of_find?_eq_some hx
    rw [← hattached.eq_of_id hxmem hmem hid, hx]
  rw [hfound, hattached.find?_eq_some_iff, hattached.find?_eq_some_iff, List.find?_eq_none]
  simp only [beq_iff_eq, Placed.Beats]
  by_cases hpath : u.decl.path = path
  · -- `u` has the path, so only an earlier node of that path is preferred
    refine ⟨?_, fun hbeats => .inl ⟨hmem, hpath, fun w hw hwpath => ?_⟩⟩
    · rintro (⟨-, -, hleast⟩ | ⟨hnone, -⟩) w hw
      · rintro (⟨hwpath, hne | hlt⟩ | ⟨-, hne, -⟩)
        · exact hne hpath
        · exact Nat.not_lt.2 (hleast w hw hwpath) hlt
        · exact hne hpath
      · exact absurd hpath (hnone u hmem)
    · exact Nat.not_lt.1 fun hlt => hbeats w hw (.inl ⟨hwpath, .inr hlt⟩)
  · -- `u` has the name, so every node of that path and an earlier one of that name is preferred
    have hname : u.decl.name = path := hnamed.resolve_left hpath
    refine ⟨?_, fun hbeats => .inr ⟨fun w hw hwpath => ?_, hmem, hname, fun w hw hwname => ?_⟩⟩
    · rintro (⟨-, hpath', -⟩ | ⟨hnone, -, -, hleast⟩) w hw
      · exact absurd hpath' hpath
      · rintro (⟨hwpath, -⟩ | ⟨hwname, -, hlt⟩)
        · exact hnone w hw hwpath
        · exact Nat.not_lt.2 (hleast w hw hwname) hlt
    · exact hbeats w hw (.inl ⟨hwpath, .inl hpath⟩)
    · exact Nat.not_lt.1 fun hlt => hbeats w hw (.inr ⟨hwname, hpath, hlt⟩)

/-! ## Earlier states of a placement -/

/-- Without orphans, every node of the list has been placed. -/
theorem Placement.Follows.has_of_orphans {p : Placement} {nodes : List NodeDecl}
    (h : p.Follows nodes) (horphans : p.orphans = []) {j : Nat} (hj : j < nodes.length) :
    p.has j := by
  have hleft := h.orphans
  rw [horphans, eq_comm, List.map_eq_nil_iff, List.filter_eq_nil_iff] at hleft
  have hmem : (nodes[j], j) ∈ nodes.zipIdx :=
    List.mk_mem_zipIdx_iff_getElem?.2 (List.getElem?_eq_getElem hj)
  simpa using hleft _ hmem

/-- The nodes placed first are those with the smaller positions. -/
theorem placement_take (nodes : List NodeDecl) (k : Nat) :
    (placement (nodes.take k)).placed = (placement nodes).placed.filter (·.id < k) := by
  induction nodes using List.reverseRecOn with
  | nil => simp [placement]
  | append_singleton nodes n ih =>
    have hids : ∀ q ∈ (placement (nodes ++ [n])).placed, q.id < (nodes ++ [n]).length :=
      fun q => (follows_placement (nodes ++ [n])).id_lt
    by_cases hk : k ≤ nodes.length
    · rw [List.take_append_of_le_length hk, ih, placement_concat]
      rcases next_cases (placement nodes) nodes.length n with ⟨-, -, hnext⟩ |
        ⟨u, -, -, -, hnext⟩ | ⟨-, -, hnext⟩
      · simp [hnext, Placement.add, Nat.not_lt.2 hk]
      · simp [hnext, Placement.add, Nat.not_lt.2 hk]
      · simp [hnext, Placement.leave]
    · have hlen : (nodes ++ [n]).length ≤ k := by
        rw [List.length_append, List.length_singleton]
        omega
      rw [List.take_of_length_le hlen, eq_comm, List.filter_eq_self]
      intro q hq
      simpa using Nat.lt_of_lt_of_le (hids q hq) hlen

/-- Each node hangs from the one that its parent path found when it was placed. -/
theorem parentOf?_of_placed {nodes : List NodeDecl} {q : Placed}
    (hq : q ∈ (placement nodes).placed) {i : Nat} (hi : q.parent = some i) :
    (placement (nodes.take q.id)).parentOf? q.decl.parentPath = some i := by
  induction nodes using List.reverseRecOn with
  | nil => cases hq
  | append_singleton nodes n ih =>
    have hold (hq : q ∈ (placement nodes).placed) :
        (placement ((nodes ++ [n]).take q.id)).parentOf? q.decl.parentPath = some i := by
      rw [List.take_append_of_le_length (Nat.le_of_lt ((follows_placement nodes).id_lt hq))]
      exact ih hq
    rw [placement_concat] at hq
    rcases next_cases (placement nodes) nodes.length n with ⟨-, -, hnext⟩ |
      ⟨u, -, -, hparent, hnext⟩ | ⟨-, -, hnext⟩
    · rw [hnext] at hq
      rcases Placement.mem_add.1 hq with hq | rfl
      · exact hold hq
      · cases hi
    · rw [hnext] at hq
      rcases Placement.mem_add.1 hq with hq | rfl
      · exact hold hq
      · rw [List.take_append_of_le_length (Nat.le_refl _), List.take_length, hparent]
        exact hi
    · rw [hnext] at hq
      exact hold hq

/-! ## The links of a tree that was built -/

section Built

variable {nodes : List NodeDecl} {t : NodeTree}

theorem mem_links_iff (ht : (hierarchy nodes).root = some t) {u v : NodeDecl} :
    (u, v) ∈ t.links ↔ ∃ p ∈ (placement nodes).placed, ∃ q ∈ (placement nodes).placed,
      q.parent = some p.id ∧ p.decl = u ∧ q.decl = v := by
  rw [← mem_links_assemble (follows_placement nodes).ordered, assemble_placement, ht]
  simp

/-- The entry of the root. -/
theorem exists_root (ht : (hierarchy nodes).root = some t) :
    ∃ r ∈ (placement nodes).placed, r.parent = none ∧ r.decl = t.decl ∧ t.decl.isRoot := by
  have h := follows_placement nodes
  obtain ⟨subtree, hsub, hasm⟩ := h.assemble_eq_root
  rw [assemble_placement, ht] at hasm
  cases hroot : (placement nodes).root? with
  | none => simp [hroot] at hasm
  | some i =>
    obtain ⟨r, hr, rfl⟩ := Option.map_eq_some_iff.1 hroot
    have hmem := List.mem_of_find?_eq_some hr
    have htree : t = subtree r.id := by simpa [hroot] using hasm
    have hdecl : t.decl = r.decl := by rw [htree, hsub r hmem]; rfl
    refine ⟨r, hmem, by simpa using List.find?_some hr, hdecl.symm, ?_⟩
    rw [h.root] at hroot
    obtain ⟨hlt, hisRoot, -⟩ := List.findIdx?_eq_some_iff_getElem.1 hroot
    have hread := h.reads r hmem
    rw [List.getElem?_eq_getElem hlt, Option.some_inj] at hread
    rw [hdecl, ← hread]
    exact hisRoot

theorem nodup_flatten (hnodup : nodes.Nodup) (ht : (hierarchy nodes).root = some t) :
    t.flatten.Nodup := by
  have hperm := hierarchy_perm nodes
  rw [ht] at hperm
  simpa using (List.nodup_append.1 (hperm.nodup_iff.2 hnodup)).1

/-- Every node below the root hangs from a node that its parent path names. -/
def IsNamed (t : NodeTree) : Prop := ∀ u v, (u, v) ∈ t.links →
  v.parentPath ≠ [] ∧ v.parentPath ≠ strayParent ∧
    (v.parentPath = rootPath ∧ u = t.decl ∨
      v.parentPath ≠ rootPath ∧ u ≠ t.decl ∧ (u.path = v.parentPath ∨ u.name = v.parentPath))

theorem isNamed_hierarchy (hnodup : nodes.Nodup) (ht : (hierarchy nodes).root = some t) :
    IsNamed t := by
  intro u v h
  have hf := follows_placement nodes
  obtain ⟨p, hp, q, hq, hparent, rfl, rfl⟩ := (mem_links_iff ht).1 h
  obtain ⟨r, hr, hrnone, hrdecl, -⟩ := exists_root ht
  obtain ⟨p', hp', hid, hne, hstray, hnames⟩ := hf.adopted q hq p.id hparent
  rw [hf.ordered.eq_of_id hp' hp hid] at hnames
  have hdecls : ((placement nodes).placed.map (·.decl)).Nodup :=
    (List.nodup_append.1 (hf.complete.nodup_iff.2 hnodup)).1
  have hisRoot : p.parent = none ↔ p.decl = t.decl := by
    rw [← hrdecl]
    constructor
    · intro hpnone
      have hid := (hf.root_unique p hp hpnone).symm.trans (hf.root_unique r hr hrnone)
      rw [hf.ordered.eq_of_id hp hr (Option.some_inj.1 hid)]
    · intro hdecl
      rw [List.inj_on_of_nodup_map hdecls hp hr hdecl, hrnone]
  rw [ne_eq p.decl, ← hisRoot]
  exact ⟨hne, hstray, hnames⟩

end Built

/-! ## Overtaking -/

/-- Depth first, the node `w` below the root is found in place of `u` by the parent path of `v`:
it has that path and `u` has only the name, or it comes before `u`. -/
def Overtakes (t : NodeTree) (w u v : NodeDecl) : Prop :=
  0 < t.position w ∧
    (w.path = v.parentPath ∧
        (u.path ≠ v.parentPath ∧ t.position w < t.position v ∨ t.position w < t.position u) ∨
      w.name = v.parentPath ∧ u.path ≠ v.parentPath ∧ t.position w < t.position u)

section Rebuild

variable {t : NodeTree}

theorem position_of_getElem? (hnodup : t.flatten.Nodup) {n : NodeDecl} {i : Nat}
    (h : t.flatten[i]? = some n) : t.position n = i := by
  obtain ⟨hi, rfl⟩ := List.getElem?_eq_some_iff.1 h
  exact hnodup.idxOf_getElem i hi

theorem position_decl (t : NodeTree) : t.position t.decl = 0 := by
  rw [position, flatten_eq_cons, List.idxOf_cons_self]

theorem assemble_placed (t : NodeTree) : assemble (t.placedFrom 0 none) = [⟨none, t⟩] := by
  have h := assemble_placedFrom 0 none [] t (by simp [assemble])
  simpa [assemble] using h

theorem placed_id {q : Placed} {i : Nat} (hi : (t.placedFrom 0 none)[i]? = some q) : q.id = i := by
  have hids := congrArg (·[i]?) (placedFrom_id 0 none t)
  have hlt := (List.getElem?_eq_some_iff.1 hi).1
  rw [length_placedFrom] at hlt
  simpa [hi, List.getElem?_range' hlt] using hids

theorem placed_getElem? {q : Placed} (hq : q ∈ t.placedFrom 0 none) :
    t.flatten[q.id]? = some q.decl := by
  obtain ⟨i, hi⟩ := List.mem_iff_getElem?.1 hq
  rw [placed_id hi, ← placedFrom_decl 0 none t, List.getElem?_map, hi]
  rfl

theorem placed_position (hnodup : t.flatten.Nodup) {q : Placed} (hq : q ∈ t.placedFrom 0 none) :
    t.position q.decl = q.id :=
  position_of_getElem? hnodup (placed_getElem? hq)

/-- Only the first of the nodes of a tree is without parent. -/
theorem placed_parent_eq_none_iff {q : Placed} (hq : q ∈ t.placedFrom 0 none) :
    q.parent = none ↔ q.id = 0 := by
  obtain ⟨d, cs⟩ := t
  rcases List.mem_cons.1 (by rwa [placedFrom] at hq) with rfl | hq
  · simp
  · have hparent := placedBelow_parent 1 (some 0) cs q hq
    have hmem := List.mem_map_of_mem (f := (·.id)) hq
    rw [placedBelow_id, List.mem_range'_1] at hmem
    refine iff_of_false ?_ (Nat.ne_of_gt hmem.1)
    rcases hparent with hp | ⟨i, hp, -⟩ <;> simp [hp]

/-- A node hangs from the node at the position of its parent, which comes before it. -/
theorem exists_parent_placed {q : Placed} (hq : q ∈ t.placedFrom 0 none) {i : Nat}
    (hi : q.parent = some i) :
    ∃ p ∈ t.placedFrom 0 none, p.id = i ∧ (p.decl, q.decl) ∈ t.links := by
  have hlt := (ordered_placedFrom t).parent_lt q hq i hi
  have hmem : i ∈ (t.placedFrom 0 none).map (·.id) := by
    have hqmem := List.mem_map_of_mem (f := (·.id)) hq
    rw [placedFrom_id, List.mem_range'_1] at hqmem ⊢
    omega
  obtain ⟨p, hp, rfl⟩ := List.mem_map.1 hmem
  have hlinks := (mem_links_assemble (ordered_placedFrom t)).2 ⟨p, hp, q, hq, hi, rfl, rfl⟩
  rw [assemble_placed] at hlinks
  exact ⟨p, hp, rfl, by simpa using hlinks⟩

theorem Ordered.of_append {ps qs : List Placed} (h : Ordered (ps ++ qs)) : Ordered ps :=
  ⟨(List.pairwise_append.1 h.ascending).1, fun q hq => h.parent_lt q (List.mem_append_left _ hq)⟩

theorem next_of_parentOf? {p : Placement} {n : NodeDecl} {i : Nat} (hn : n.parentPath ≠ [])
    (hi : p.parentOf? n.parentPath = some i) (id : Nat) :
    p.next (id, n) = p.add ⟨id, n, some i⟩ := by
  have hroot : n.isRoot = false := by simpa [NodeDecl.isRoot] using hn
  simp [Placement.next, hroot, hi, Placement.add]

/-- No node of the tree is found in place of the parent of another. -/
def KeepsParents (t : NodeTree) : Prop :=
  ∀ u v, (u, v) ∈ t.links → v.parentPath ≠ rootPath → ∀ w, ¬ Overtakes t w u v

/-- Among the nodes before it, a node finds its parent again. -/
theorem parentOf?_placed (hnodup : t.flatten.Nodup) (hnamed : IsNamed t) (hkept : KeepsParents t)
    {ps qs : List Placed} {e u : Placed} (hsplit : t.placedFrom 0 none = ps ++ e :: qs)
    (hu : u ∈ ps) (hlink : (u.decl, e.decl) ∈ t.links) :
    Placement.parentOf? { placed := ps } e.decl.parentPath = some u.id := by
  have hordered := ordered_placedFrom t
  rw [hsplit] at hordered
  have hbefore (w : Placed) (hw : w ∈ ps) : w ∈ t.placedFrom 0 none ∧ w.id < e.id := by
    rw [hsplit]
    refine ⟨List.mem_append_left _ hw, ?_⟩
    exact (List.pairwise_append.1 hordered.ascending).2.2 w hw e List.mem_cons_self
  have hpos (w : Placed) (hw : w ∈ ps) : t.position w.decl = w.id :=
    placed_position hnodup (hbefore w hw).1
  have hepos : t.position e.decl = e.id := placed_position hnodup (by simp [hsplit])
  obtain ⟨hne, hstray, ⟨hroot, hdecl⟩ | ⟨hroot, hdecl, hnames⟩⟩ := hnamed _ _ hlink
  · -- the root is the only entry without a parent
    have hid : u.id = 0 := by rw [← hpos u hu, hdecl, position_decl]
    have hnone := (placed_parent_eq_none_iff (hbefore u hu).1).2 hid
    have hfind : ps.find? (·.parent.isNone) = some u :=
      hordered.of_append.find?_eq_some_iff.2 ⟨hu, by simp [hnone], fun w _ _ => by omega⟩
    rw [Placement.parentOf?_eq, if_neg (by simp [hne, hstray]), if_pos hroot, Placement.root?, hfind]
    rfl
  · have hsome (w : Placed) (hw : w ∈ ps) : w.parent ≠ none ↔ w.id ≠ 0 :=
      not_congr (placed_parent_eq_none_iff (hbefore w hw).1)
    have huid : u.id ≠ 0 := by
      intro hid
      have hhead := placed_getElem? (hbefore u hu).1
      rw [hid, flatten_eq_cons, List.getElem?_cons_zero, Option.some_inj] at hhead
      exact hdecl hhead.symm
    rw [Placement.parentOf?_eq_some_iff hordered.of_append hu
      ⟨hne, hstray, .inr ⟨hroot, (hsome u hu).2 huid, hnames⟩⟩ hroot]
    intro w hw hbeats
    obtain ⟨hw, hwsome⟩ := Placement.mem_attached.1 hw
    refine hkept _ _ hlink hroot w.decl ⟨?_, ?_⟩
    · rw [hpos w hw]
      exact Nat.pos_of_ne_zero ((hsome w hw).1 hwsome)
    · rw [hpos w hw, hpos u hu, hepos]
      have hlt := (hbefore w hw).2
      rcases hbeats with ⟨hpath, hne | hlt'⟩ | ⟨hname, hne, hlt'⟩
      · exact .inl ⟨hpath, .inl ⟨hne, hlt⟩⟩
      · exact .inl ⟨hpath, .inr hlt'⟩
      · exact .inr ⟨hname, hne, hlt'⟩

/-- If no parent is overtaken, the nodes of a tree are placed as they stand in it. -/
theorem placement_placed (hroot : t.decl.isRoot) (hnodup : t.flatten.Nodup) (hnamed : IsNamed t)
    (hkept : KeepsParents t) (ps : List Placed) : ∀ qs, t.placedFrom 0 none = ps ++ qs →
      placement (ps.map (·.decl)) = { placed := ps } := by
  induction ps using List.reverseRecOn with
  | nil => exact fun _ _ => rfl
  | append_singleton ps e ih =>
    intro qs hsplit
    rw [List.append_assoc, List.singleton_append] at hsplit
    have hmem : e ∈ t.placedFrom 0 none := by simp [hsplit]
    have hid : e.id = ps.length := placed_id (t := t) (by simp [hsplit])
    rw [List.map_append, List.map_singleton, placement_concat, ih (e :: qs) hsplit, List.length_map,
      ← hid]
    cases hparent : e.parent with
    | none =>
      have hzero := (placed_parent_eq_none_iff hmem).1 hparent
      obtain rfl : ps = [] := List.eq_nil_of_length_eq_zero (hid.symm.trans hzero)
      have hdecl : t.decl = e.decl := by
        have hhead := placed_getElem? hmem
        rwa [hzero, flatten_eq_cons, List.getElem?_cons_zero, Option.some_inj] at hhead
      obtain ⟨id, decl, parent⟩ := e
      simp_all [Placement.next, Placement.root?]
    | some i =>
      obtain ⟨u, hu, rfl, hlink⟩ := exists_parent_placed hmem hparent
      have hups : u ∈ ps := by
        have hordered := ordered_placedFrom t
        have hlt := hordered.parent_lt e hmem u.id hparent
        rw [hsplit] at hu hordered
        exact (hordered.mem_or_le hu).resolve_right (Nat.not_le.2 hlt)
      rw [next_of_parentOf? (hnamed _ _ hlink).1
        (parentOf?_placed hnodup hnamed hkept hsplit hups hlink), Placement.add, ← hparent]

/-- The tree is built again from its own nodes, if no parent is overtaken. -/
theorem hierarchy_flatten_of_keepsParents (hroot : t.decl.isRoot) (hnodup : t.flatten.Nodup)
    (hnamed : IsNamed t) (hkept : KeepsParents t) : hierarchy t.flatten = { root := some t } := by
  have h := placement_placed hroot hnodup hnamed hkept (t.placedFrom 0 none) [] (by simp)
  rw [placedFrom_decl] at h
  rw [hierarchy, h, assemble_placed]
  rfl

/-- Without orphans, every node of the tree is placed at its position in it. -/
theorem exists_placed_of_position (horphans : (placement t.flatten).orphans = []) {w : NodeDecl}
    (hw : t.position w < t.flatten.length) :
    ∃ x ∈ (placement t.flatten).placed, x.id = t.position w ∧ x.decl = w := by
  have hf := follows_placement t.flatten
  obtain ⟨x, hx, hid⟩ := Placement.has_iff.1 (hf.has_of_orphans horphans hw)
  have hread := hf.reads x hx
  rw [hid, List.getElem?_eq_getElem hw, Option.some_inj] at hread
  exact ⟨x, hx, hid, hread.symm.trans (List.getElem_idxOf hw)⟩

/-- If the tree is built again, no parent is overtaken. -/
theorem keepsParents_of_hierarchy_flatten (hnodup : t.flatten.Nodup)
    (h : hierarchy t.flatten = { root := some t }) : KeepsParents t := by
  intro u v hlink hpath w hover
  have ht : (hierarchy t.flatten).root = some t := by rw [h]
  have hf := follows_placement t.flatten
  obtain ⟨p, hp, q, hq, hparent, rfl, rfl⟩ := (mem_links_iff ht).1 hlink
  -- what was placed before `q`, with `p` among it
  have hearlier := placement_take t.flatten q.id
  have hlt := hf.ordered.parent_lt q hq p.id hparent
  have hp' : p ∈ (placement (t.flatten.take q.id)).placed := by
    rw [hearlier]
    exact List.mem_filter.2 ⟨hp, by simpa using hlt⟩
  obtain ⟨p₁, hp₁, hid, hnames⟩ := hf.adopted q hq p.id hparent
  rw [hf.ordered.eq_of_id hp₁ hp hid] at hnames
  have hbeats := (Placement.parentOf?_eq_some_iff (follows_placement _).ordered hp' hnames hpath).1
    (parentOf?_of_placed hq hparent)
  -- `w` was placed before `q` too, below the root
  have hpos (x : Placed) (hx : x ∈ (placement t.flatten).placed) : t.position x.decl = x.id :=
    position_of_getElem? hnodup (hf.reads x hx)
  obtain ⟨hwroot, hwover⟩ := hover
  rw [hpos p hp, hpos q hq] at hwover
  have hwlt : t.position w < q.id := by omega
  have hwlen : t.position w < t.flatten.length := Nat.lt_trans hwlt (hf.id_lt hq)
  have horphans : (placement t.flatten).orphans = [] := congrArg SceneTree.orphans h
  obtain ⟨x, hx, hxid, hxdecl⟩ := exists_placed_of_position horphans hwlen
  have hxsome : x.parent ≠ none := by
    intro hxnone
    obtain ⟨r, hr, hrnone, hrdecl, -⟩ := exists_root ht
    have hroot := (hf.root_unique x hx hxnone).symm.trans (hf.root_unique r hr hrnone)
    rw [hxid, Option.some_inj, ← hpos r hr, hrdecl, position_decl] at hroot
    omega
  have hx' : x ∈ (placement (t.flatten.take q.id)).attached := by
    refine Placement.mem_attached.2 ⟨?_, hxsome⟩
    rw [hearlier]
    exact List.mem_filter.2 ⟨hx, by simpa [hxid] using hwlt⟩
  refine hbeats x hx' ?_
  rw [Placed.Beats, hxdecl, hxid]
  tauto

end Rebuild

/-! ## The nodes of a scene file -/

/-- The lines on which the nodes read so far start. -/
def State.nodeLines (st : State) : List Nat := st.file.nodes.map (·.line)

theorem updateLast_lines {f : NodeDecl → NodeDecl} (hf : ∀ n, (f n).line = n.line)
    (ns : List NodeDecl) : (updateLast f ns).map (·.line) = ns.map (·.line) := by
  fun_induction updateLast f ns with
  | case1 => rfl
  | case2 n => simp [hf]
  | case3 n ns _ ih => rw [List.map_cons, List.map_cons, ih]

theorem setProperty_nodeLines (st : State) (f : NodeDecl → Text × Property) :
    (st.setProperty f).nodeLines = st.nodeLines := by
  rw [State.nodeLines, State.setProperty]
  apply updateLast_lines
  exact fun _ => rfl

theorem propertyLine_nodeLines (opts : Options) (st : State) (line raw : Text) :
    (st.propertyLine opts line raw).nodeLines = st.nodeLines := by
  unfold State.propertyLine
  split
  · split
    · rfl
    · exact setProperty_nodeLines _ _
  · split
    · rfl
    · exact setProperty_nodeLines _ _
  · rename_i i _ _
    dsimp only
    split
    · rfl
    · exact setProperty_nodeLines st fun _ => (Text.trim (line.take i), _)

/-- A section header adds at most one node, on its own line. -/
theorem openSection_nodeLines (opts : Options) (st : State) (line : Nat) (header : Text) :
    (st.openSection opts line header).nodeLines = st.nodeLines ∨
      (st.openSection opts line header).nodeLines = st.nodeLines ++ [line] := by
  unfold State.openSection
  dsimp only
  split
  · exact .inl rfl
  · split
    · left
      simp only [State.nodeLines, readExtResource]
      split <;> rfl
    · split
      · exact .inl rfl
      · split
        · right
          simp [State.nodeLines, State.openNode]
        · split <;> exact .inl rfl

theorem next_nodeLines (opts : Options) (st : State) (l : Script.Line) :
    (st.next opts l).nodeLines = st.nodeLines ∨
      (st.next opts l).nodeLines = st.nodeLines ++ [l.number] := by
  unfold State.next
  dsimp only
  split
  · exact .inl rfl
  · split
    · exact openSection_nodeLines opts st l.number _
    · split
      · exact .inl (propertyLine_nodeLines opts st _ _)
      · exact .inl rfl

/-- Nodes start on lines that were read, in their order. -/
theorem foldl_next_nodeLines (opts : Options) (ls : List Script.Line) (st : State) :
    ∃ new, new.Sublist (ls.map (·.number)) ∧
      (ls.foldl (State.next opts) st).nodeLines = st.nodeLines ++ new := by
  induction ls generalizing st with
  | nil => exact ⟨[], .slnil, by simp⟩
  | cons l ls ih =>
    obtain ⟨new, hnew, hlines⟩ := ih (st.next opts l)
    rw [List.foldl_cons, hlines]
    rcases next_nodeLines opts st l with h | h
    · exact ⟨new, hnew.cons l.number, by rw [h]⟩
    · exact ⟨l.number :: new, hnew.cons_cons l.number, by rw [h, List.append_assoc]; rfl⟩

/-- No two nodes of a scene file are the same, since they start on different lines. -/
theorem nodup_nodes_parse (src : Text) (opts : Options) : (parse src opts).nodes.Nodup := by
  obtain ⟨new, hnew, hlines⟩ := foldl_next_nodeLines opts (Script.numberedLines src) {}
  have hnumbers : (Script.numberedLines src).map (·.number) =
      List.range' 1 (Script.numberedLines src).length := by
    apply List.ext_getElem (by simp)
    intro i hi hi'
    rw [List.getElem_map, Script.numberedLines_getElem, List.getElem_range']
    omega
  rw [hnumbers] at hnew
  have hnodup : ((parse src opts).nodes.map (·.line)).Nodup := by
    have hsame : (parse src opts).nodes.map (·.line) = new := by
      simpa [State.nodeLines, parse] using hlines
    rw [hsame]
    exact hnew.nodup List.nodup_range'
  exact hnodup.of_map _

/-! ## Building twice -/

theorem decl_mem_flatten {nodes : List NodeDecl} {t : NodeTree}
    (ht : (hierarchy nodes).root = some t) {p : Placed} (hp : p ∈ (placement nodes).placed) :
    p.decl ∈ t.flatten := by
  have hperm := assemble_perm (placement nodes).placed
  rw [assemble_placement, ht] at hperm
  simpa using hperm.mem_iff.2 (List.mem_map_of_mem hp)

/-- A node of a path of its own is not overtaken by one that is found by that path. -/
theorem keepsParents_of_paths {nodes : List NodeDecl} {t : NodeTree}
    (ht : (hierarchy nodes).root = some t) (hpaths : (t.flatten.map (·.path)).Nodup)
    (hparents : ∀ u v, (u, v) ∈ t.links → v.parentPath ≠ rootPath → u.path = v.parentPath) :
    KeepsParents t := by
  rintro u v hlink hroot w ⟨-, hover⟩
  have hu := hparents u v hlink hroot
  rcases hover with ⟨hw, ⟨hne, -⟩ | hlt⟩ | ⟨-, hne, -⟩
  · exact hne hu
  · obtain ⟨p, hp, -, -, -, rfl, -⟩ := (mem_links_iff ht).1 hlink
    have hmem := decl_mem_flatten ht hp
    have hwmem : w ∈ t.flatten :=
      List.idxOf_lt_length_iff.1 (Nat.lt_trans hlt (List.idxOf_lt_length_iff.2 hmem))
    rw [List.inj_on_of_nodup_map hpaths hwmem hmem (hw.trans hu.symm)] at hlt
    exact Nat.lt_irrefl _ hlt
  · exact hne hu

/-- **The nodes of a scene's tree are built into the same tree again exactly if no parent is
overtaken.** That is so if their paths are distinct and every parent path is a path. -/
theorem hierarchy_flatten_iff (src : Text) (opts : Options) {t : NodeTree}
    (ht : (hierarchy (parse src opts).nodes).root = some t) :
    (hierarchy t.flatten = { root := some t } ↔
      ∀ u v, (u, v) ∈ t.links → v.parentPath ≠ rootPath → ∀ w, ¬ Overtakes t w u v) ∧
    ((t.flatten.map (·.path)).Nodup →
      (∀ u v, (u, v) ∈ t.links → v.parentPath ≠ rootPath → u.path = v.parentPath) →
      hierarchy t.flatten = { root := some t }) := by
  have hnodes := nodup_nodes_parse src opts
  have hnodup := nodup_flatten hnodes ht
  obtain ⟨-, -, -, -, hroot⟩ := exists_root ht
  have hbuilt : KeepsParents t → hierarchy t.flatten = { root := some t } :=
    hierarchy_flatten_of_keepsParents hroot hnodup (isNamed_hierarchy hnodes ht)
  exact ⟨⟨keepsParents_of_hierarchy_flatten hnodup, hbuilt⟩,
    fun hpaths hparents => hbuilt (keepsParents_of_paths ht hpaths hparents)⟩

/-- A node of the scenes below. -/
def sampleNode (name path parent : String) (line : Nat) : NodeDecl :=
  { name := name, path := path, parentPath := parent, line }

/-- A scene with two nodes `X`, and a node `Y` with the given parent path. -/
def sampleScene (parent : String) : Text :=
  "[node name=\"Main\"]\n[node name=\"A\" parent=\".\"]\n[node name=\"B\" parent=\".\"]\n" ++
    "[node name=\"X\" parent=\"B\"]\n[node name=\"X\" parent=\"A\"]\n" ++
    "[node name=\"Y\" parent=\"" ++ parent ++ "\"]\n"

/-- The nodes of that scene. -/
def sampleNodes (path parent : String) : List NodeDecl :=
  [sampleNode "Main" "." "" 1, sampleNode "A" "A" "." 2, sampleNode "B" "B" "." 3,
    sampleNode "X" "B/X" "B" 4, sampleNode "X" "A/X" "A" 5, sampleNode "Y" path parent 6]

/-- The tree of that scene if `Y` hangs from the `X` that was declared first. -/
def sampleTree (path parent : String) : NodeTree :=
  .node (sampleNode "Main" "." "" 1)
    [.node (sampleNode "A" "A" "." 2) [.node (sampleNode "X" "A/X" "A" 5) []],
      .node (sampleNode "B" "B" "." 3)
        [.node (sampleNode "X" "B/X" "B" 4) [.node (sampleNode "Y" path parent 6) []]]]

theorem root_sampleScene_path :
    (hierarchy (parse (sampleScene "B/X") {}).nodes).root = some (sampleTree "B/X/Y" "B/X") := by
  have hnodes : (parse (sampleScene "B/X") {}).nodes = sampleNodes "B/X/Y" "B/X" := by
    decide +kernel
  rw [hnodes]
  rfl

theorem root_sampleScene_name :
    (hierarchy (parse (sampleScene "X") {}).nodes).root = some (sampleTree "X/Y" "X") := by
  have hnodes : (parse (sampleScene "X") {}).nodes = sampleNodes "X/Y" "X" := by decide +kernel
  rw [hnodes]
  rfl

/-- Where `Y` names its parent by its path, the tree is built again, although names repeat. -/
theorem hierarchy_flatten_sampleScene :
    (hierarchy (parse (sampleScene "B/X") {}).nodes).root = some (sampleTree "B/X/Y" "B/X") ∧
    ((sampleTree "B/X/Y" "B/X").flatten.map (·.path)).Nodup ∧
    hierarchy (sampleTree "B/X/Y" "B/X").flatten = { root := some (sampleTree "B/X/Y" "B/X") } := by
  have hpaths : ((sampleTree "B/X/Y" "B/X").flatten.map (·.path)).Nodup := by decide +kernel
  refine ⟨root_sampleScene_path, hpaths,
    (hierarchy_flatten_iff _ {} root_sampleScene_path).2 hpaths ?_⟩
  have hlinks : ∀ l ∈ (sampleTree "B/X/Y" "B/X").links,
      l.2.parentPath ≠ rootPath → l.1.path = l.2.parentPath := by
    decide +kernel
  exact fun u v => hlinks (u, v)

/-- Where `Y` names its parent by the name alone, it hangs from the other `X` when the tree is built
again: depth first that one comes before. -/
theorem hierarchy_flatten_ne_sampleScene :
    ∃ t, (hierarchy (parse (sampleScene "X") {}).nodes).root = some t ∧
      hierarchy t.flatten ≠ { root := some t } := by
  refine ⟨sampleTree "X/Y" "X", root_sampleScene_name, fun h => ?_⟩
  have hflatten := congrArg (fun t => t.root.map flatten) h
  revert hflatten
  decide +kernel

end Scene

end GodotSurvey
