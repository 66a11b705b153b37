import GodotSurvey.Scene.Tree
import Mathlib.Data.List.Nodup

/-!
# Trees from placed nodes

A list of placed nodes says of each node where its parent stands. If every parent stands before
its children, `assemble` reads the list as a forest:

* `assemble_perm` — no node is lost or doubled;
* `assemble_eq` — below a node hang the subtrees of the nodes that name it as their parent, in
  the order of the list;
* `mem_links_assemble` — so the links of the forest are those of the list;
* `assemble_placedFrom` — a tree is assembled from its own nodes, placed depth first.
-/

namespace GodotSurvey

/-! ## Walking -/

namespace NodeTree

mutual

theorem walkFrom_fst (depth : Nat) : ∀ t : NodeTree, (walkFrom 0 depth t).map (·.1) = t.flatten
  | node d cs => by
    have hcs := walkAllFrom_fst (depth + 1) cs
    have hcs' := walkAllFrom_fst 1 cs
    simp only [flatten, walk, walkFrom, Nat.lt_irrefl, decide_false, Bool.false_and,
      Bool.false_eq_true, if_false, List.map_cons, hcs, Nat.zero_add, hcs']

theorem walkAllFrom_fst (depth : Nat) :
    ∀ ts : List NodeTree, (walkAllFrom 0 depth ts).map (·.1) = ts.flatMap flatten
  | [] => rfl
  | t :: ts => by
    rw [walkAllFrom, List.map_append, walkFrom_fst depth t, walkAllFrom_fst depth ts,
      List.flatMap_cons]

end

/-- Depth first, a node stands before what hangs below it. -/
@[simp] theorem flatten_node (d : NodeDecl) (cs : List NodeTree) :
    (node d cs).flatten = d :: cs.flatMap flatten := by
  have hcs := walkAllFrom_fst 1 cs
  simpa [flatten, walk, walkFrom] using hcs

theorem count_eq_length (t : NodeTree) : t.count = t.flatten.length := by
  simp [count, flatten]

theorem flatten_eq_cons (t : NodeTree) : t.flatten = t.decl :: t.children.flatMap flatten := by
  cases t with
  | node d cs => rw [flatten_node]; rfl

mutual

/-- Each node with each of its children, as pairs. -/
def links : NodeTree → List (NodeDecl × NodeDecl)
  | node d cs => linksBelow d cs

/-- The links of a node to its children, and those below them. -/
def linksBelow (d : NodeDecl) : List NodeTree → List (NodeDecl × NodeDecl)
  | [] => []
  | c :: cs => (d, c.decl) :: c.links ++ linksBelow d cs

end

theorem mem_linksBelow {d u v : NodeDecl} {cs : List NodeTree} :
    (u, v) ∈ linksBelow d cs ↔ ∃ c ∈ cs, (u = d ∧ v = c.decl) ∨ (u, v) ∈ c.links := by
  induction cs with
  | nil => simp [linksBelow]
  | cons c cs ih => simp [linksBelow, ih, or_assoc]

end NodeTree

/-! ## Assembling -/

namespace Scene

open NodeTree

/-- Positions ascend, and each parent comes before its children. -/
structure Ordered (ps : List Placed) : Prop where
  ascending : ps.Pairwise fun p q => p.id < q.id
  parent_lt : ∀ q ∈ ps, ∀ i, q.parent = some i → i < q.id

/-- The parent of the node is not among `ps`. -/
def Placed.IsLoose (ps : List Placed) (q : Placed) : Prop := ∀ p ∈ ps, q.parent ≠ some p.id

instance (ps : List Placed) (q : Placed) : Decidable (q.IsLoose ps) :=
  inferInstanceAs (Decidable (∀ p ∈ ps, q.parent ≠ some p.id))

variable {p : Placed} {ps : List Placed}

theorem Ordered.tail (h : Ordered (p :: ps)) : Ordered ps :=
  ⟨(List.pairwise_cons.1 h.ascending).2, fun q hq => h.parent_lt q (List.mem_cons_of_mem p hq)⟩

theorem Ordered.lt_of_mem (h : Ordered (p :: ps)) {q : Placed} (hq : q ∈ ps) : p.id < q.id :=
  (List.pairwise_cons.1 h.ascending).1 q hq

/-- The first node has its parent outside the list. -/
theorem Ordered.head_isLoose (h : Ordered (p :: ps)) : p.IsLoose (p :: ps) := by
  intro q hq hp
  have hlt := h.parent_lt p List.mem_cons_self q.id hp
  rcases List.mem_cons.1 hq with rfl | hq
  · exact Nat.lt_irrefl _ hlt
  · exact Nat.lt_asymm hlt (h.lt_of_mem hq)

/-- What hangs from the first node hangs from no other one. -/
theorem Ordered.isLoose_of_parent (h : Ordered (p :: ps)) {q : Placed}
    (hq : q.parent = some p.id) : q.IsLoose ps := by
  intro r hr hqr
  rw [hq, Option.some_inj] at hqr
  exact Nat.ne_of_lt (h.lt_of_mem hr) hqr

/-- Entries of one position are the same. -/
theorem Ordered.eq_of_id (h : Ordered ps) {q r : Placed} (hq : q ∈ ps) (hr : r ∈ ps)
    (hid : q.id = r.id) : q = r := by
  have hinj : (ps.map (·.id)).Nodup := List.pairwise_map.2 (h.ascending.imp Nat.ne_of_lt)
  exact List.inj_on_of_nodup_map hinj hq hr hid

theorem assemble_cons (p : Placed) (ps : List Placed) :
    assemble (p :: ps) =
      ⟨p.parent, .node p.decl (((assemble ps).filter (·.parent == some p.id)).map (·.tree))⟩ ::
        (assemble ps).filter (·.parent != some p.id) := by
  simp only [assemble, List.partition_eq_filter_filter]
  rfl

/-- **Assembling keeps every node once.** -/
theorem assemble_perm (ps : List Placed) :
    ((assemble ps).flatMap (·.tree.flatten)).Perm (ps.map (·.decl)) := by
  induction ps with
  | nil => exact .refl _
  | cons p ps ih =>
    have hsplit : (assemble ps).filter (·.parent == some p.id) ++
        (assemble ps).filter (·.parent != some p.id) |>.Perm (assemble ps) :=
      List.filter_append_perm _ _
    rw [assemble_cons, List.flatMap_cons, flatten_node, List.cons_append, List.map_cons,
      List.flatMap_map, ← List.flatMap_append]
    exact ((hsplit.flatMap_right _).trans ih).cons p.decl

/-- A loose node is still loose in front of the node that it does not hang from. -/
theorem filter_isLoose_cons (h : Ordered (p :: ps)) :
    (p :: ps).filter (·.IsLoose (p :: ps)) =
      p :: (ps.filter (·.IsLoose ps)).filter (·.parent != some p.id) := by
  rw [List.filter_cons_of_pos (by simpa using h.head_isLoose), List.filter_filter]
  congr 1
  refine List.filter_congr fun q _ => Bool.eq_iff_iff.2 ?_
  simp only [Bool.and_eq_true, decide_eq_true_eq, bne_iff_ne]
  exact List.forall_mem_cons

/-- **What assembling builds.** Below each node hang the subtrees of the nodes that name it as
their parent, in order; what is left over are the subtrees of the loose nodes. -/
theorem assemble_eq (h : Ordered ps) : ∃ subtree : Nat → NodeTree,
    (∀ p ∈ ps, subtree p.id =
      .node p.decl ((ps.filter (·.parent == some p.id)).map (subtree ·.id))) ∧
    assemble ps = (ps.filter (·.IsLoose ps)).map fun q => ⟨q.parent, subtree q.id⟩ := by
  induction ps with
  | nil => exact ⟨fun _ => .node { name := [] } [], by simp, rfl⟩
  | cons p ps ih =>
    obtain ⟨subtree, hsub, hasm⟩ := ih h.tail
    -- the subtree of `p` is new, all others stay
    let tree : NodeTree := .node p.decl ((ps.filter (·.parent == some p.id)).map (subtree ·.id))
    have hold : ∀ q ∈ ps, Function.update subtree p.id tree q.id = subtree q.id := fun q hq =>
      Function.update_of_ne (Nat.ne_of_gt (h.lt_of_mem hq)) _ _
    have hchildren (i : Nat) (hi : p.parent ≠ some i) :
        (((p :: ps).filter (·.parent == some i)).map fun q =>
          Function.update subtree p.id tree q.id) =
          (ps.filter (·.parent == some i)).map (subtree ·.id) := by
      rw [List.filter_cons_of_neg (by simpa using hi)]
      exact List.map_congr_left fun q hq => hold q (List.mem_of_mem_filter hq)
    have hmine : ((assemble ps).filter (·.parent == some p.id)).map (·.tree) =
        (ps.filter (·.parent == some p.id)).map (subtree ·.id) := by
      rw [hasm, List.filter_map, List.map_map, List.filter_filter]
      refine congrArg (List.map _) (List.filter_congr fun q _ => ?_)
      simp only [Function.comp_apply, Bool.and_eq_left_iff_imp, beq_iff_eq, decide_eq_true_eq]
      exact h.isLoose_of_parent
    refine ⟨Function.update subtree p.id tree, ?_, ?_⟩
    · intro q hq
      rw [hchildren q.id (h.head_isLoose q hq)]
      rcases List.mem_cons.1 hq with rfl | hq
      · exact Function.update_self _ _ _
      · rw [hold q hq, hsub q hq]
    · rw [assemble_cons, filter_isLoose_cons h, List.map_cons, Function.update_self, hmine, hasm,
        List.filter_map]
      congr 1
      exact List.map_congr_left fun q hq => by
        rw [hold q (List.mem_of_mem_filter (List.mem_of_mem_filter hq))]

/-- The links of the trees that `assemble` builds are the links of the list. -/
theorem mem_links_assemble (h : Ordered ps) {u v : NodeDecl} :
    (∃ t ∈ assemble ps, (u, v) ∈ t.tree.links) ↔
      ∃ p ∈ ps, ∃ q ∈ ps, q.parent = some p.id ∧ p.decl = u ∧ q.decl = v := by
  induction ps with
  | nil => simp [assemble]
  | cons p ps ih =>
    -- a tree of `assemble ps` hangs from `p`, or it stays
    have htrees : (∃ t ∈ assemble (p :: ps), (u, v) ∈ t.tree.links) ↔
        (∃ t ∈ assemble ps, t.parent = some p.id ∧ u = p.decl ∧ v = t.tree.decl) ∨
          ∃ t ∈ assemble ps, (u, v) ∈ t.tree.links := by
      rw [assemble_cons, List.exists_mem_cons_iff, links, mem_linksBelow]
      simp only [List.mem_map, List.mem_filter, beq_iff_eq, bne_iff_ne]
      grind
    have hheads : (∃ t ∈ assemble ps, t.parent = some p.id ∧ u = p.decl ∧ v = t.tree.decl) ↔
        ∃ q ∈ ps, q.parent = some p.id ∧ p.decl = u ∧ q.decl = v := by
      obtain ⟨subtree, hsub, hasm⟩ := assemble_eq h.tail
      rw [hasm]
      constructor
      · intro ht
        simp only [List.mem_map, List.mem_filter] at ht
        obtain ⟨t, ⟨q, ⟨hq, -⟩, rfl⟩, hparent, rfl, rfl⟩ := ht
        exact ⟨q, hq, hparent, rfl, by rw [hsub q hq]; rfl⟩
      · rintro ⟨q, hq, hparent, rfl, rfl⟩
        have hloose : q.IsLoose ps := h.isLoose_of_parent hparent
        refine ⟨⟨q.parent, subtree q.id⟩, ?_, hparent, rfl, by rw [hsub q hq]; rfl⟩
        exact List.mem_map.2 ⟨q, List.mem_filter.2 ⟨hq, by simpa using hloose⟩, rfl⟩
    rw [htrees, ih h.tail, hheads, List.exists_mem_cons_iff]
    have hfirst (r : Placed) (hr : r ∈ p :: ps) : p.parent ≠ some r.id := h.head_isLoose r hr
    refine or_congr ?_ ?_
    · simp [hfirst p List.mem_cons_self]
    · refine exists_congr fun r => and_congr_right fun hr => ?_
      simp [hfirst r (List.mem_cons_of_mem p hr)]

end Scene

/-! ## The nodes of a tree, placed -/

namespace NodeTree

open Scene

mutual

/-- The nodes of the tree depth first, at the positions from `k` on, with their parents. -/
def placedFrom (k : Nat) (parent : Option Nat) : NodeTree → List Placed
  | node d cs => ⟨k, d, parent⟩ :: placedBelow (k + 1) (some k) cs

def placedBelow (k : Nat) (parent : Option Nat) : List NodeTree → List Placed
  | [] => []
  | c :: cs => c.placedFrom k parent ++ placedBelow (k + c.count) parent cs

end

mutual

theorem placedFrom_decl (k : Nat) (parent : Option Nat) :
    ∀ t : NodeTree, (t.placedFrom k parent).map (·.decl) = t.flatten
  | node d cs => by rw [placedFrom, List.map_cons, placedBelow_decl, flatten_node]

theorem placedBelow_decl (k : Nat) (parent : Option Nat) :
    ∀ cs : List NodeTree, (placedBelow k parent cs).map (·.decl) = cs.flatMap flatten
  | [] => rfl
  | c :: cs => by
    rw [placedBelow, List.map_append, placedFrom_decl, placedBelow_decl, List.flatMap_cons]

end

theorem length_placedFrom (k : Nat) (parent : Option Nat) (t : NodeTree) :
    (t.placedFrom k parent).length = t.count := by
  rw [count_eq_length, ← placedFrom_decl k parent t, List.length_map]

theorem count_node (k : Nat) (parent : Option Nat) (d : NodeDecl) (cs : List NodeTree) :
    (node d cs).count = (placedBelow k parent cs).length + 1 := by
  rw [count_eq_length, flatten_node, List.length_cons, ← placedBelow_decl k parent cs,
    List.length_map]

mutual

theorem placedFrom_id (k : Nat) (parent : Option Nat) :
    ∀ t : NodeTree, (t.placedFrom k parent).map (·.id) = List.range' k t.count
  | node d cs => by
    rw [count_node (k + 1) (some k), List.range'_succ, placedFrom, List.map_cons, placedBelow_id]

theorem placedBelow_id (k : Nat) (parent : Option Nat) :
    ∀ cs : List NodeTree, (placedBelow k parent cs).map (·.id) =
      List.range' k (placedBelow k parent cs).length
  | [] => rfl
  | c :: cs => by
    rw [placedBelow, List.map_append, placedFrom_id, placedBelow_id, List.length_append,
      length_placedFrom, List.range'_append_1]

end

mutual

/-- Within a tree, a node hangs from an earlier one. -/
theorem placedFrom_parent (k : Nat) (parent : Option Nat) : ∀ t : NodeTree,
    ∀ q ∈ t.placedFrom k parent, q.parent = parent ∨ ∃ i, q.parent = some i ∧ k ≤ i ∧ i < q.id
  | node d cs, q, hq => by
    rcases List.mem_cons.1 (by rwa [placedFrom] at hq) with rfl | hq
    · exact .inl rfl
    · right
      have hid : k + 1 ≤ q.id := by
        have hmem := List.mem_map_of_mem (f := (·.id)) hq
        rw [placedBelow_id, List.mem_range'_1] at hmem
        exact hmem.1
      rcases placedBelow_parent (k + 1) (some k) cs q hq with hp | ⟨i, hp, hi, hlt⟩
      · exact ⟨k, hp, Nat.le_refl k, hid⟩
      · exact ⟨i, hp, by omega, hlt⟩

theorem placedBelow_parent (k : Nat) (parent : Option Nat) : ∀ cs : List NodeTree,
    ∀ q ∈ placedBelow k parent cs, q.parent = parent ∨ ∃ i, q.parent = some i ∧ k ≤ i ∧ i < q.id
  | [], q, hq => by cases hq
  | c :: cs, q, hq => by
    rcases List.mem_append.1 (by rwa [placedBelow] at hq) with hq | hq
    · exact placedFrom_parent k parent c q hq
    · rcases placedBelow_parent (k + c.count) parent cs q hq with hp | ⟨i, hp, hi, hlt⟩
      · exact .inl hp
      · exact .inr ⟨i, hp, by omega, hlt⟩

end

theorem ordered_placedFrom (t : NodeTree) : Ordered (t.placedFrom 0 none) where
  ascending := by
    rw [← List.pairwise_map (f := Placed.id) (R := (· < ·)), placedFrom_id]
    exact List.pairwise_lt_range'
  parent_lt q hq i hi := by
    rcases placedFrom_parent 0 none t q hq with hp | ⟨j, hp, -, hlt⟩
    · rw [hi] at hp
      cases hp
    · rw [hi, Option.some_inj] at hp
      exact hp ▸ hlt

mutual

/-- The nodes of a tree are assembled to it, whatever else is there, if nothing else hangs from
them. -/
theorem assemble_placedFrom (k : Nat) (parent : Option Nat) (rest : List Placed) :
    ∀ t : NodeTree,
    (∀ q ∈ assemble rest, ∀ i, q.parent = some i → i < k ∨ k + t.count ≤ i) →
    assemble (t.placedFrom k parent ++ rest) = ⟨parent, t⟩ :: assemble rest
  | node d cs, hrest => by
    have hcount := count_node (k + 1) (some k) d cs
    have hbelow := assemble_placedBelow (k + 1) (some k) rest cs
      (fun i hi => by rw [Option.some_inj] at hi; omega)
      (fun q hq i hi => by
        have := hrest q hq i hi
        omega)
    have hloose : ∀ q ∈ assemble rest, q.parent ≠ some k := fun q hq hk => by
      have := hrest q hq k hk
      omega
    have hmine : (cs.map (Pending.mk (some k)) ++ assemble rest).filter (·.parent == some k) =
        cs.map (Pending.mk (some k)) := by
      rw [List.filter_append, List.filter_eq_self.2 (by simp),
        List.filter_eq_nil_iff.2 (by simpa using hloose), List.append_nil]
    have hothers : (cs.map (Pending.mk (some k)) ++ assemble rest).filter (·.parent != some k) =
        assemble rest := by
      rw [List.filter_append, List.filter_eq_nil_iff.2 (by simp),
        List.filter_eq_self.2 (by simpa using hloose), List.nil_append]
    rw [placedFrom, List.cons_append, assemble_cons, hbelow, hmine, hothers, List.map_map]
    congr 3
    exact List.map_id cs

theorem assemble_placedBelow (k : Nat) (parent : Option Nat) (rest : List Placed) :
    ∀ cs : List NodeTree, (∀ i, parent = some i → i < k) →
    (∀ q ∈ assemble rest, ∀ i, q.parent = some i →
      i < k ∨ k + (placedBelow k parent cs).length ≤ i) →
    assemble (placedBelow k parent cs ++ rest) = cs.map (Pending.mk parent) ++ assemble rest
  | [], _, _ => rfl
  | c :: cs, hparent, hrest => by
    rw [placedBelow, List.length_append, length_placedFrom] at hrest
    have hbelow := assemble_placedBelow (k + c.count) parent rest cs
      (fun i hi => Nat.lt_add_right _ (hparent i hi))
      (fun q hq i hi => by
        have := hrest q hq i hi
        omega)
    rw [placedBelow, List.append_assoc, assemble_placedFrom k parent _ c, hbelow]
    · rfl
    · -- what follows `c` hangs from `parent`, or from outside
      rw [hbelow]
      intro q hq i hi
      rcases List.mem_append.1 hq with hq | hq
      · obtain ⟨_, -, rfl⟩ := List.mem_map.1 hq
        exact .inl (hparent i hi)
      · have := hrest q hq i hi
        omega

end

end NodeTree

end GodotSurvey
