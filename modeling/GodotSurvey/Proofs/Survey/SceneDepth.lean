import GodotSurvey.Proofs.Survey.SceneScripts

/-!
# How deep a scene is searched and reported

A limit on the depth is used twice: the tree that is reported is cut below it, and the walk along
which scripts are looked for goes no further. The place of a node is told by the way to it from the
root, which names a child at each step, and the distance from the root is the length of the way.
Depth first is the lexicographic order of the ways.

* `mem_ways`, `ascending_ways` — the places of a tree, depth first.
* `walkFrom_truncate` — the walk with a limit is the whole walk through the tree that is cut at it.
* `at?_truncate` — what stands at a place of a tree that has been cut.
* `Visits`, `visits_walk` — a walk with a limit visits the places that lie within it, depth first,
  each with its distance from the root.
* `truncate_truncate` — of two cuts the closer one counts.
* `depth_limits_agree` — **the search with a limit covers exactly the part of the tree that is
  reported.**
-/

namespace GodotSurvey.NodeTree

/-! ## Places -/

/-- What stands at the end of a way from the root, which names a child at each step. -/
def at? : NodeTree → List Nat → Option NodeTree
  | t, [] => some t
  | t, i :: way => t.children[i]?.bind (·.at? way)

mutual

/-- The ways to the nodes of a tree, depth first. -/
def ways : NodeTree → List (List Nat)
  | node _ cs => [] :: waysFrom 0 cs

/-- The ways to the nodes of trees that are the children from number `i` on. -/
def waysFrom (i : Nat) : List NodeTree → List (List Nat)
  | [] => []
  | c :: cs => c.ways.map (i :: ·) ++ waysFrom (i + 1) cs

end

theorem at?_cons (d : NodeDecl) (cs : List NodeTree) (i : Nat) (way : List Nat) :
    (node d cs).at? (i :: way) = cs[i]?.bind (·.at? way) := rfl

mutual

/-- The ways lead to the nodes of the tree, and to all of them. -/
theorem mem_ways (way : List Nat) : ∀ t : NodeTree, way ∈ t.ways ↔ (t.at? way).isSome
  | node d cs => by
    rw [ways, List.mem_cons, mem_waysFrom 0 way cs]
    cases way with
    | nil => simp [at?]
    | cons i way =>
      rw [at?_cons]
      cases h : cs[i]? with
      | none => simp [h]
      | some c => simp [h]

theorem mem_waysFrom (i : Nat) (way : List Nat) : ∀ cs : List NodeTree,
    way ∈ waysFrom i cs ↔
      ∃ j c rest, way = (i + j) :: rest ∧ cs[j]? = some c ∧ (c.at? rest).isSome
  | [] => by simp [waysFrom]
  | c :: cs => by
    rw [waysFrom, List.mem_append, List.mem_map, mem_waysFrom (i + 1) way cs]
    constructor
    · rintro (⟨rest, hrest, rfl⟩ | ⟨j, c', rest, rfl, hc, hrest⟩)
      · exact ⟨0, c, rest, rfl, rfl, (mem_ways rest c).1 hrest⟩
      · exact ⟨j + 1, c', rest, by rw [Nat.add_right_comm, Nat.add_assoc], hc, hrest⟩
    · rintro ⟨j, c', rest, rfl, hc, hrest⟩
      cases j with
      | zero =>
        obtain rfl : c = c' := by simpa using hc
        exact .inl ⟨rest, (mem_ways rest c).2 hrest, rfl⟩
      | succ j =>
        exact .inr ⟨j, c', rest, by rw [Nat.add_right_comm, Nat.add_assoc], hc, hrest⟩

end

mutual

/-- The ways ascend: a node comes before what is below it, and a child before the next one. -/
theorem ascending_ways : ∀ t : NodeTree, t.ways.Pairwise (· < ·)
  | node d cs => by
    rw [ways, List.pairwise_cons]
    refine ⟨fun way hway => ?_, ascending_waysFrom 0 cs⟩
    obtain ⟨j, c, rest, rfl, -⟩ := (mem_waysFrom 0 way cs).1 hway
    exact List.nil_lt_cons _ _

theorem ascending_waysFrom (i : Nat) : ∀ cs : List NodeTree, (waysFrom i cs).Pairwise (· < ·)
  | [] => .nil
  | c :: cs => by
    rw [waysFrom, List.pairwise_append, List.pairwise_map]
    refine ⟨?_, ascending_waysFrom (i + 1) cs, ?_⟩
    · exact (ascending_ways c).imp fun hlt => List.cons_lt_cons_iff.2 (.inr ⟨rfl, hlt⟩)
    · intro first hfirst later hlater
      obtain ⟨way, -, rfl⟩ := List.mem_map.1 hfirst
      obtain ⟨j, c', rest, rfl, -⟩ := (mem_waysFrom (i + 1) later cs).1 hlater
      exact List.cons_lt_cons_iff.2 (.inl (by omega))

end

/-! ## Cutting -/

theorem truncateAll_eq_map (depth : Nat) (ts : List NodeTree) :
    truncateAll depth ts = ts.map (truncate depth) := by
  induction ts with
  | nil => rfl
  | cons t ts ih => rw [truncateAll, ih, List.map_cons]

theorem truncate_zero (t : NodeTree) : t.truncate 0 = node t.decl [] := by
  cases t with
  | node d cs => rfl

theorem truncate_succ (d : NodeDecl) (cs : List NodeTree) (n : Nat) :
    (node d cs).truncate (n + 1) = node d (cs.map (truncate n)) := by
  rw [truncate, truncateAll_eq_map]

theorem decl_truncate (n : Nat) (t : NodeTree) : (t.truncate n).decl = t.decl := by
  cases t with
  | node d cs => cases n <;> rfl

mutual

/-- **Of two cuts the closer one counts.** -/
theorem truncate_truncate (a b : Nat) :
    ∀ t : NodeTree, (t.truncate a).truncate b = t.truncate (min a b)
  | node d cs => by
    cases a with
    | zero => cases b <;> simp [truncate, truncateAll]
    | succ a =>
      cases b with
      | zero => rfl
      | succ b =>
        have hbelow := truncateAll_truncateAll a b cs
        rw [truncate, truncate, hbelow, Nat.succ_min_succ, truncate]

theorem truncateAll_truncateAll (a b : Nat) :
    ∀ ts : List NodeTree, truncateAll b (truncateAll a ts) = truncateAll (min a b) ts
  | [] => rfl
  | t :: ts => by
    rw [truncateAll, truncateAll, truncateAll, truncate_truncate a b t,
      truncateAll_truncateAll a b ts]

end

/-- What stands at a place within the cut is cut as far below it as is left. -/
theorem at?_truncate (n : Nat) (t : NodeTree) (way : List Nat) :
    (t.truncate n).at? way =
      if way.length ≤ n then (t.at? way).map (truncate (n - way.length)) else none := by
  induction way generalizing n t with
  | nil => simp [at?]
  | cons i way ih =>
    obtain ⟨d, cs⟩ := t
    cases n with
    | zero => simp [truncate, at?_cons]
    | succ n =>
      rw [truncate_succ, at?_cons, at?_cons, List.getElem?_map]
      cases cs[i]? with
      | none => simp
      | some c => simp [ih n c]

/-! ## Walking -/

mutual

/-- A walk that may still go `n` levels down is the whole walk through the tree that is cut so. -/
theorem walkFrom_truncate {limit : Nat} (hlimit : 0 < limit) {depth n : Nat}
    (hn : depth + n = limit) :
    ∀ t : NodeTree, walkFrom limit depth t = walkFrom 0 depth (truncate n t)
  | node d cs => by
    cases n with
    | zero =>
      have hstop : limit ≤ depth := by omega
      simp [walkFrom, truncate, walkAllFrom, hlimit, hstop]
    | succ n =>
      have hgo : ¬ limit ≤ depth := by omega
      have hdeeper : depth + 1 + n = limit := by omega
      have hbelow := walkAllFrom_truncate hlimit hdeeper cs
      simp [walkFrom, truncate, hgo, hbelow]

theorem walkAllFrom_truncate {limit : Nat} (hlimit : 0 < limit) {depth n : Nat}
    (hn : depth + n = limit) :
    ∀ ts : List NodeTree, walkAllFrom limit depth ts = walkAllFrom 0 depth (truncateAll n ts)
  | [] => rfl
  | t :: ts => by
    rw [walkAllFrom, truncateAll, walkAllFrom, walkFrom_truncate hlimit hn t,
      walkAllFrom_truncate hlimit hn ts]

end

mutual

/-- A limit only leaves nodes out of the walk. -/
theorem walkFrom_sublist (limit depth : Nat) :
    ∀ t : NodeTree, (walkFrom limit depth t).Sublist (walkFrom 0 depth t)
  | node d cs => by
    have hbelow := walkAllFrom_sublist limit (depth + 1) cs
    rw [walkFrom, walkFrom]
    by_cases hstop : (decide (0 < limit) && decide (limit ≤ depth)) = true
    · simp [hstop]
    · simpa [hstop] using hbelow

theorem walkAllFrom_sublist (limit depth : Nat) :
    ∀ ts : List NodeTree, (walkAllFrom limit depth ts).Sublist (walkAllFrom 0 depth ts)
  | [] => .slnil
  | t :: ts => by
    rw [walkAllFrom, walkAllFrom]
    exact (walkFrom_sublist limit depth t).append (walkAllFrom_sublist limit depth ts)

end

theorem walk_truncate {n : Nat} (hn : 0 < n) (t : NodeTree) : t.walk n = (t.truncate n).walk 0 :=
  walkFrom_truncate hn (Nat.zero_add n) t

mutual

/-- The whole walk goes along the ways. -/
theorem walkFrom_ways (depth : Nat) : ∀ t : NodeTree,
    (walkFrom 0 depth t).map some =
      t.ways.map fun way => (t.at? way).map fun s => (s.decl, depth + way.length)
  | node d cs => by
    have hbelow := walkAllFrom_ways depth 0 d cs cs rfl
    simp only [walkFrom, Nat.lt_irrefl, decide_false, Bool.false_and, Bool.false_eq_true, if_false,
      List.map_cons, hbelow, ways]
    rfl

/-- Below a node the walk goes along the ways to its children from number `i` on. -/
theorem walkAllFrom_ways (depth i : Nat) (d : NodeDecl) (all : List NodeTree) :
    ∀ cs : List NodeTree, all.drop i = cs →
      (walkAllFrom 0 (depth + 1) cs).map some = (waysFrom i cs).map fun way =>
        ((node d all).at? way).map fun s => (s.decl, depth + way.length)
  | [], _ => rfl
  | c :: cs, h => by
    have hchild : all[i]? = some c := by
      have hfirst := congrArg (·[0]?) h
      simpa using hfirst
    have hrest : all.drop (i + 1) = cs := by
      rw [← List.tail_drop, h]
      rfl
    have hhead : (c.ways.map (i :: ·)).map (fun way =>
        ((node d all).at? way).map fun s => (s.decl, depth + way.length)) =
        c.ways.map fun way => (c.at? way).map fun s => (s.decl, depth + 1 + way.length) := by
      rw [List.map_map]
      refine List.map_congr_left fun way _ => ?_
      simp only [Function.comp_apply, at?_cons, hchild, Option.bind_some, List.length_cons,
        Nat.add_assoc, Nat.add_comm way.length]
    rw [walkAllFrom, waysFrom, List.map_append, List.map_append, hhead,
      walkFrom_ways (depth + 1) c, walkAllFrom_ways depth (i + 1) d all cs hrest]

end

/-- The visits are those of the nodes at most `limit` steps below the root, depth first, each with
its distance from the root. -/
def Visits (t : NodeTree) (limit : Nat) (visits : List (NodeDecl × Nat)) : Prop :=
  ∃ ways : List (List Nat), ways.Pairwise (· < ·) ∧
    (∀ way, way ∈ ways ↔ (t.at? way).isSome ∧ way.length ≤ limit) ∧
    visits.map some = ways.map fun way => (t.at? way).map fun s => (s.decl, way.length)

theorem visits_walk {limit : Nat} (h : 0 < limit) (t : NodeTree) :
    t.Visits limit (t.walk limit) := by
  refine ⟨(t.truncate limit).ways, ascending_ways _, fun way => ?_, ?_⟩
  · rw [mem_ways, at?_truncate]
    by_cases hway : way.length ≤ limit <;> simp [hway]
  · rw [walk_truncate h, walk, walkFrom_ways]
    refine List.map_congr_left fun way hway => ?_
    rw [mem_ways, at?_truncate] at hway
    have hlength : way.length ≤ limit := by
      by_contra hfar
      simp [hfar] at hway
    simp [at?_truncate, hlength, Function.comp_def, decl_truncate]

theorem Visits.le {t : NodeTree} {limit : Nat} {visits : List (NodeDecl × Nat)}
    (h : t.Visits limit visits) {v : NodeDecl × Nat} (hv : v ∈ visits) : v.2 ≤ limit := by
  obtain ⟨ways, -, hways, hvisits⟩ := h
  have hmem : some v ∈ visits.map some := List.mem_map_of_mem hv
  rw [hvisits] at hmem
  obtain ⟨way, hway, hv⟩ := List.mem_map.1 hmem
  obtain ⟨s, -, rfl⟩ := Option.map_eq_some_iff.1 hv
  exact ((hways way).1 hway).2

/-- The nodes on a walk with a limit are those of the tree that is cut there. -/
theorem flatten_truncate {n : Nat} (hn : 0 < n) (t : NodeTree) :
    (t.truncate n).flatten = (t.walk n).map (·.1) := by
  rw [walk_truncate hn, flatten]

/-! ## Searching and reporting -/

/-- The nodes of the tree that is reported are those at which scripts are looked for. -/
theorem flatten_reported (t : NodeTree) (maxDepth : Int) :
    (if 0 < maxDepth then t.truncate maxDepth.toNat else t).flatten =
      (t.walk maxDepth.toNat).map (·.1) := by
  split
  · rename_i hlimit
    exact flatten_truncate (by omega) t
  · rename_i hnone
    rw [Int.toNat_of_nonpos (by omega), flatten]

/-- The tree that is reported is cut at a positive limit; all connections are reported. -/
theorem outline_ofContent {o : SceneOptions} (name : Text) {content : Text} {t : NodeTree}
    (h : (Scene.hierarchy (o.file content).nodes).root = some t) :
    ∃ outline, (SceneResult.ofContent o name content).outline = some outline ∧
      outline.tree = (if 0 < o.maxDepth then t.truncate o.maxDepth.toNat else t) ∧
      outline.connections = (o.file content).connections := by
  simp only [SceneResult.ofContent, h]
  exact ⟨_, rfl, rfl, rfl⟩

/-- **Limits on the depth agree.** With a positive limit, the nodes that are visited are those of
the tree that is cut at the limit, in the same order, and they are the nodes at most so far below the
root, depth first, each with its distance from the root. Of two cuts the closer one counts, and a
limit that is not positive leaves the root alone. So the scripts that a scene result speaks of are
those at the nodes of the tree that it shows, and at the orphans. -/
theorem depth_limits_agree (t : NodeTree) :
    (∀ d : Int, 0 < d →
      (t.walk d.toNat).map (·.1) = (t.truncate d.toNat).flatten ∧
        t.Visits d.toNat (t.walk d.toNat) ∧ ∀ v ∈ t.walk d.toNat, (v.2 : Int) ≤ d) ∧
    (∀ a b : Int, (t.truncate a.toNat).truncate b.toNat = t.truncate (min a b).toNat) ∧
    (∀ d : Int, d ≤ 0 → t.truncate d.toNat = node t.decl []) ∧
    ∀ (o : SceneOptions) (name content : Text),
      (Scene.hierarchy (o.file content).nodes).root = some t → 0 < o.maxDepth →
      let r := SceneResult.ofContent o name content
      ∃ outline, r.outline = some outline ∧ outline.tree = t.truncate o.maxDepth.toNat ∧
        let nodes := outline.tree.flatten ++ (Scene.hierarchy (o.file content).nodes).orphans
        r.attached = Scene.attached (Scene.attachments (o.file content) nodes) ∧
          r.unresolved = Scene.unresolved (Scene.attachments (o.file content) nodes) := by
  refine ⟨fun d hd => ?_, fun a b => ?_, fun d hd => ?_, fun o name content hroot hlimit => ?_⟩
  · have hpositive : 0 < d.toNat := by omega
    have hvisits := visits_walk hpositive t
    refine ⟨(flatten_truncate hpositive t).symm, hvisits, fun v hv => ?_⟩
    have hle := hvisits.le hv
    omega
  · have hmin : (min a b).toNat = min a.toNat b.toNat := by omega
    rw [hmin, truncate_truncate]
  · rw [Int.toNat_of_nonpos hd, truncate_zero]
  · obtain ⟨outline, houtline, htree, -⟩ := outline_ofContent name hroot
    have hnodes := flatten_reported t o.maxDepth
    rw [← htree] at hnodes
    rw [if_pos hlimit] at htree
    refine ⟨outline, houtline, htree, ?_, ?_⟩
    · rw [SceneResult.attached_ofContent name hroot, Scene.searched, hnodes]
    · rw [SceneResult.unresolved_ofContent name hroot, Scene.searched, hnodes]

/-- A scene of three levels with a script on each. -/
def towerScene : Text :=
  "[node name=\"Tower\"]\nscript = \"res://tower.gd\"\n" ++
    "[node name=\"Hall\" parent=\".\"]\nscript = \"res://hall.gd\"\n" ++
    "[node name=\"Lamp\" parent=\"Hall\"]\nscript = \"res://lamp.gd\"\n" ++
    "[node name=\"Moat\" parent=\".\"]\n"

/-- Two levels of that scene are shown, and the script of the lamp is not looked for. -/
theorem depth_limits_agree_towerScene :
    let o : SceneOptions := { maxDepth := 1 }
    0 < o.maxDepth ∧ (0 : Int) ≤ 0 ∧
    ∃ t, (Scene.hierarchy (o.file towerScene).nodes).root = some t ∧
      (t.walk 1).map (fun v => (v.1.path, v.2)) =
        [(Text.ofString ".", 0), (Text.ofString "Hall", 1), (Text.ofString "Moat", 1)] ∧
      (t.walk 1).map (·.1) = (t.truncate 1).flatten ∧
      t.truncate 0 = node t.decl [] ∧
      ∃ outline, (SceneResult.ofContent o "res://main.tscn" towerScene).outline = some outline ∧
        outline.tree = t.truncate 1 ∧
        (SceneResult.ofContent o "res://main.tscn" towerScene).attached =
          [⟨".", "res://tower.gd"⟩, ⟨"Hall", "res://hall.gd"⟩] := by
  intro o
  have hroot : ∃ n ∈ (o.file towerScene).nodes, n.isRoot = true := by decide +kernel
  have hvisited : (Scene.hierarchy (o.file towerScene).nodes).root.map
      (fun t => (t.walk 1).map fun v => (v.1.path, v.2)) =
      some [(Text.ofString ".", 0), (Text.ofString "Hall", 1), (Text.ofString "Moat", 1)] := by
    decide +kernel
  have hattached : (SceneResult.ofContent o "res://main.tscn" towerScene).attached =
      [⟨".", "res://tower.gd"⟩, ⟨"Hall", "res://hall.gd"⟩] := by
    decide +kernel
  obtain ⟨t, ht⟩ := Scene.exists_tree hroot
  rw [ht, Option.map_some, Option.some_inj] at hvisited
  obtain ⟨hwalk, -, hroot, hsearch⟩ := depth_limits_agree t
  obtain ⟨outline, houtline, htree, -⟩ := hsearch o "res://main.tscn" towerScene ht (by decide)
  exact ⟨by decide, Int.le_refl 0, t, ht, hvisited, (hwalk 1 (by decide)).1,
    hroot 0 (Int.le_refl 0), outline, houtline, htree, hattached⟩

end GodotSurvey.NodeTree
