import GodotSurvey.Proofs.Graph.Building
import GodotSurvey.Proofs.Text.Path

/-!
# The order of additions

The node of a file may be made by a reference first and replaced by the file's own addition later,
or the file may be there already when another one refers to it. In both cases the graph ends with
the node that the file itself adds. An id that no file adds has the node that every reference to it
makes, provided that no path has the id of a class. So the nodes are fixed by the additions and not
by their order, and so are the edges, which count references.

* `nodeOf`, `target?_eq` — references to one id make one node.
* `Fixed` — the node that additions fix for an id; `Fixed.eq` — there is one at most.
* `Settled.link`, `Settled.add`, `Settled.foldl_add` — a link, an addition and a run leave every
  node as the additions fix it.
* `built_perm` — **the graph does not depend on the order of the additions.**
-/

namespace GodotSurvey.Graph

/-! ## References to one id -/

/-- The path has the form of the id of a class. -/
def isClassPath (p : Text) : Bool := Text.startsWith p "class:"

/-- The id is that of a file: the ids of classes have their beginning, and no dot or slash. -/
def isFileId (id : Text) : Bool := !isClassPath id || id.any fun c => c == '.' || c == '/'

/-- The node that a reference to this id makes. -/
def nodeOf (id : Text) : Node := if isFileId id then fileNode id else classNode (id.drop 6)

theorem isFileId_of_not_isClassPath {p : Text} (h : isClassPath p = false) : isFileId p = true := by
  simp [isFileId, h]

theorem isFileId_of_mem {p : Text} (h : ('.' : UInt8) ∈ p ∨ ('/' : UInt8) ∈ p) :
    isFileId p = true := by
  rw [isFileId, Bool.or_eq_true, List.any_eq_true]
  obtain h | h := h
  · exact .inr ⟨_, h, rfl⟩
  · exact .inr ⟨_, h, rfl⟩

theorem isFileId_of_startsWith {p scheme : Text} (h : Text.startsWith p scheme = true)
    (hslash : ('/' : UInt8) ∈ scheme) : isFileId p = true :=
  isFileId_of_mem (.inr ((List.isPrefixOf_iff_prefix.1 h).subset hslash))

theorem isFileId_of_isResource {p : Text} (h : ResourcePath.isResource p = true) :
    isFileId p = true := by
  simp only [ResourcePath.isResource, Bool.or_eq_true] at h
  obtain (h | h) | h := h
  · exact isFileId_of_startsWith h (by decide)
  · exact isFileId_of_startsWith h (by decide)
  · exact isFileId_of_startsWith h (by decide)

theorem fileNode_eq {p : Text} (h : isFileId p = true) : fileNode p = nodeOf (fileNode p).id := by
  change fileNode p = nodeOf p
  rw [nodeOf, if_pos h]

theorem classNode_eq {name : Text} (hdot : ('.' : UInt8) ∉ name) (hslash : ('/' : UInt8) ∉ name) :
    classNode name = nodeOf (classNode name).id := by
  have hid : isFileId (classNode name).id = false := by
    have hclass : isClassPath (classNode name).id = true :=
      List.isPrefixOf_iff_prefix.2 (List.prefix_append _ _)
    have hprefix : ∀ c ∈ Text.ofString "class:", ¬ (c == '.' || c == '/') = true := by
      decide +kernel
    rw [isFileId, hclass, Bool.not_true, Bool.false_or, List.any_eq_false]
    intro c hc
    obtain hc | hc := List.mem_append.1 hc
    · exact hprefix c hc
    · have hdot' : c ≠ ('.' : UInt8) := fun h => hdot (h ▸ hc)
      have hslash' : c ≠ ('/' : UInt8) := fun h => hslash (h ▸ hc)
      simp [hdot', hslash']
  rw [nodeOf, hid]
  rfl

/-- The registry has no class whose path has the form of the id of a class. -/
def Resolution.NamesFiles (r : Resolution) : Prop :=
  ∀ c ∈ r.registry.classes, isClassPath c.path = false

instance (r : Resolution) : Decidable r.NamesFiles :=
  inferInstanceAs (Decidable (∀ c ∈ r.registry.classes, isClassPath c.path = false))

theorem isClassPath_of_pathOf? {r : Resolution} (hr : r.NamesFiles) {name p : Text}
    (h : r.registry.pathOf? name = some p) : isClassPath p = false := by
  unfold Registry.pathOf? at h
  split at h
  case h_1 c hc =>
    split_ifs at h with hempty
    obtain rfl := Option.some.inj h
    exact hr c (List.mem_of_find?_eq_some hc)
  case h_2 => cases h

/-- A dependency makes the node that belongs to the id. -/
theorem target?_eq {r : Resolution} (hr : r.NamesFiles) {path : Text} {d : Dependency}
    (hd : isClassPath d.resolvedPath = false) {n : Node} (h : r.target? path d = some n) :
    n = nodeOf n.id := by
  unfold Resolution.target? at h
  by_cases hresolved : (!d.resolvedPath.isEmpty) = true
  · rw [if_pos hresolved] at h
    obtain rfl := Option.some.inj h
    exact fileNode_eq (isFileId_of_not_isClassPath hd)
  rw [if_neg hresolved] at h
  by_cases hresource : ResourcePath.isResource d.target = true
  · rw [if_pos hresource] at h
    obtain rfl := Option.some.inj h
    exact fileNode_eq (isFileId_of_isResource hresource)
  rw [if_neg hresource] at h
  by_cases hpath : (!(Path.extension d.target).isEmpty || Text.hasByte d.target '/') = true
  · rw [if_pos hpath] at h
    split at h
    · obtain rfl := Option.some.inj h
      exact fileNode_eq (isFileId_of_mem (.inr (List.mem_append_left _ (by decide))))
    · obtain rfl := Option.some.inj h
      exact fileNode_eq (isFileId_of_mem (Path.extension_or_slash_iff.1 hpath))
  rw [if_neg hpath] at h
  cases hclass : r.registry.pathOf? d.target with
  | some p =>
    rw [hclass] at h
    obtain rfl := Option.some.inj h
    exact fileNode_eq (isFileId_of_not_isClassPath (isClassPath_of_pathOf? hr hclass))
  | none =>
    rw [hclass] at h
    by_cases hnodes : r.classNodes = true
    · rw [if_pos hnodes] at h
      obtain rfl := Option.some.inj h
      have hplain := mt Path.extension_or_slash_iff.2 hpath
      rw [not_or] at hplain
      exact classNode_eq hplain.1 hplain.2
    · rw [if_neg hnodes] at h
      cases h

/-! ## Additions that name files -/

namespace Addition

/-- No path that the file has or refers to has the form of the id of a class. -/
def NamesFiles : Addition → Prop
  | script path _ dependencies =>
    isClassPath path = false ∧ ∀ d ∈ dependencies, isClassPath d.resolvedPath = false
  | scene path scripts _ => isClassPath path = false ∧ ∀ s ∈ scripts, isClassPath s = false

instance : DecidablePred NamesFiles
  | script path _ dependencies => inferInstanceAs (Decidable
      (isClassPath path = false ∧ ∀ d ∈ dependencies, isClassPath d.resolvedPath = false))
  | scene path scripts _ => inferInstanceAs (Decidable
      (isClassPath path = false ∧ ∀ s ∈ scripts, isClassPath s = false))

theorem target_eq {r : Resolution} (hr : r.NamesFiles) {a : Addition} (ha : a.NamesFiles)
    {t : Node × EdgeKind} (ht : t ∈ a.targets r) : t.1 = nodeOf t.1.id := by
  cases a with
  | script path className dependencies =>
    obtain ⟨d, hd, htarget⟩ := List.mem_filterMap.1 ht
    obtain ⟨n, hn, rfl⟩ := Option.map_eq_some_iff.1 htarget
    exact target?_eq hr (ha.2 d hd) hn
  | scene path scripts instances =>
    obtain ht | ht := List.mem_append.1 ht
    · obtain ⟨s, hs, rfl⟩ := List.mem_map.1 ht
      exact fileNode_eq (isFileId_of_not_isClassPath (ha.2 s hs))
    · obtain ⟨s, hs, rfl⟩ := List.mem_map.1 ht
      exact fileNode_eq (isFileId_of_isResource (List.mem_filter.1 hs).2)

end Addition

/-! ## The nodes that additions fix -/

/-- The node is the one that the additions fix for its id: that of the file itself, if the file is
added, and that of every reference otherwise. -/
def Fixed (as : List Addition) (n : Node) : Prop :=
  (∃ a ∈ as, n = a.node) ∨ n.id ∉ as.map Addition.path ∧ n = nodeOf n.id

theorem Fixed.perm {as bs : List Addition} (h : as.Perm bs) {n : Node} (hn : Fixed as n) :
    Fixed bs n := by
  obtain ⟨a, ha, rfl⟩ | ⟨hid, hnode⟩ := hn
  · exact .inl ⟨a, h.mem_iff.1 ha, rfl⟩
  · exact .inr ⟨fun hmem => hid ((h.map _).mem_iff.2 hmem), hnode⟩

/-- If every file is added once, the additions fix one node for an id at most. -/
theorem Fixed.eq {as : List Addition} (hdistinct : (as.map Addition.path).Nodup) {m n : Node}
    (hm : Fixed as m) (hn : Fixed as n) (hid : m.id = n.id) : m = n := by
  obtain ⟨a, ha, rfl⟩ | ⟨hmid, hmnode⟩ := hm
  · obtain ⟨b, hb, rfl⟩ | ⟨hnid, -⟩ := hn
    · rw [a.id_node, b.id_node] at hid
      rw [List.inj_on_of_nodup_map hdistinct ha hb hid]
    · rw [← hid, a.id_node] at hnid
      exact absurd (List.mem_map_of_mem ha) hnid
  · obtain ⟨b, hb, rfl⟩ | ⟨-, hnnode⟩ := hn
    · rw [hid, b.id_node] at hmid
      exact absurd (List.mem_map_of_mem hb) hmid
    · rw [hmnode, hnnode, hid]

theorem mem_putNode {m n : Node} {ns : List Node} (hns : (ns.map (·.id)).Nodup)
    (h : m ∈ putNode n ns) : m = n ∨ m ∈ ns ∧ m.id ≠ n.id := by
  induction ns with
  | nil => exact .inl (List.mem_singleton.1 h)
  | cons k ns ih =>
    obtain ⟨hk, hns⟩ := List.nodup_cons.1 hns
    rw [putNode] at h
    by_cases hkn : k.id = n.id
    · rw [if_pos (beq_iff_eq.2 hkn)] at h
      obtain rfl | hm := List.mem_cons.1 h
      · exact .inl rfl
      · refine .inr ⟨List.mem_cons_of_mem k hm, fun hmn => hk ?_⟩
        exact List.mem_map.2 ⟨m, hm, hmn.trans hkn.symm⟩
    · rw [if_neg (by simpa using hkn)] at h
      obtain rfl | hm := List.mem_cons.1 h
      · exact .inr ⟨List.mem_cons_self, hkn⟩
      · exact (ih hns hm).imp_right fun hm => ⟨List.mem_cons_of_mem k hm.1, hm.2⟩

theorem mem_ensureNode {m n : Node} {ns : List Node} (h : m ∈ ensureNode ns n) :
    m ∈ ns ∨ m = n ∧ n.id ∉ ns.map (·.id) := by
  rw [ensureNode] at h
  by_cases hn : ns.any (·.id == n.id) = true
  · rw [if_pos hn] at h
    exact .inl h
  · rw [if_neg hn] at h
    refine (List.mem_append.1 h).imp_right fun hm => ⟨List.mem_singleton.1 hm, fun hid => hn ?_⟩
    simpa using hid

/-- The graph accounts for the additions and their references, and its nodes are those that the
additions fix. -/
structure Settled (g : Graph) (as : List Addition) (refs : List Reference) : Prop
    extends Accounts g (as.map Addition.path) refs where
  fixed : ∀ n ∈ g.nodes, Fixed as n

theorem settled_empty : Settled {} [] [] where
  toAccounts := accounts_empty
  fixed := nofun

namespace Settled

variable {g : Graph} {as : List Addition} {refs : List Reference}

/-- The file's own node takes the place of one that a reference made. -/
theorem putNode (h : Settled g as refs) (a : Addition) :
    Settled { g with nodes := Graph.putNode a.node g.nodes } (as ++ [a]) refs where
  toAccounts := by
    have hput := h.toAccounts.putNode a.node
    rw [a.id_node] at hput
    simpa using hput
  fixed := by
    intro n hn
    obtain rfl | ⟨hn, hid⟩ := mem_putNode h.distinct_nodes hn
    · exact .inl ⟨a, by simp, rfl⟩
    · rw [a.id_node] at hid
      refine (h.fixed n hn).imp (fun ⟨b, hb, hnode⟩ => ⟨b, List.mem_append_left _ hb, hnode⟩) ?_
      rintro ⟨hnot, hnode⟩
      refine ⟨?_, hnode⟩
      rw [List.map_append, List.mem_append, not_or]
      exact ⟨hnot, fun hmem => hid (List.mem_singleton.1 hmem)⟩

/-- A reference makes a node only if no addition has made it: its id is none of an added file. -/
theorem link (h : Settled g as refs) (source : Text) {t : Node} (ht : t = nodeOf t.id)
    (k : EdgeKind) :
    Settled (g.link source t k) as (refs ++ [⟨source, t.id, k⟩].filter Reference.isProper) where
  toAccounts := h.toAccounts.link source t k
  fixed := by
    intro n hn
    unfold Graph.link at hn
    by_cases hself : (source == t.id) = true
    · rw [if_pos hself] at hn
      exact h.fixed n hn
    · rw [if_neg hself] at hn
      obtain hn | ⟨rfl, hid⟩ := mem_ensureNode hn
      · exact h.fixed n hn
      · refine .inr ⟨fun hpath => hid ?_, ht⟩
        exact (h.mem_nodes _).2 (.inl hpath)

theorem foldl_link (h : Settled g as refs) (source : Text) (ts : List (Node × EdgeKind))
    (hts : ∀ t ∈ ts, t.1 = nodeOf t.1.id) :
    Settled (ts.foldl (fun g t => g.link source t.1 t.2) g) as
      (refs ++ (ts.map fun t => (⟨source, t.1.id, t.2⟩ : Reference)).filter Reference.isProper) := by
  induction ts generalizing g refs with
  | nil => simpa using h
  | cons t ts ih =>
    obtain ⟨ht, hts⟩ := List.forall_mem_cons.1 hts
    have hrest := ih (h.link source ht t.2) hts
    rw [List.append_assoc, ← List.filter_append] at hrest
    exact hrest

variable {r : Resolution} (hr : r.NamesFiles)

include hr

theorem add (h : Settled g as refs) {a : Addition} (ha : a.NamesFiles) :
    Settled (Graph.add r g a) (as ++ [a]) (refs ++ (a.references r).filter Reference.isProper) := by
  rw [add_eq]
  exact (h.putNode a).foldl_link a.path (a.targets r) fun t ht => Addition.target_eq hr ha ht

theorem foldl_add (h : Settled g as refs) {bs : List Addition} (hbs : ∀ b ∈ bs, b.NamesFiles) :
    Settled (bs.foldl (Graph.add r) g) (as ++ bs)
      (refs ++ (bs.flatMap (Addition.references r)).filter Reference.isProper) := by
  induction bs generalizing g as refs with
  | nil => simpa using h
  | cons b bs ih =>
    obtain ⟨hb, hbs⟩ := List.forall_mem_cons.1 hbs
    have hrest := ih (h.add hr hb) hbs
    rw [List.append_assoc, List.append_assoc, ← List.filter_append] at hrest
    exact hrest

end Settled

/-! ## Two orders -/

theorem Edge.Before.asymm {a b : Edge} (h : a.Before b) : ¬ b.Before a := by
  intro h'
  obtain hs | ⟨hs, hrest⟩ := h
  · obtain hs' | ⟨hs', -⟩ := h'
    · exact Text.lt_asymm hs hs'
    · exact Text.ne_of_lt hs hs'.symm
  · obtain hs' | ⟨-, hrest'⟩ := h'
    · exact Text.ne_of_lt hs' hs.symm
    · obtain ht | ⟨ht, hk⟩ := hrest
      · obtain ht' | ⟨ht', -⟩ := hrest'
        · exact Text.lt_asymm ht ht'
        · exact Text.ne_of_lt ht ht'.symm
      · obtain ht' | ⟨-, hk'⟩ := hrest'
        · exact Text.ne_of_lt ht' ht.symm
        · exact Text.lt_asymm hk hk'

/-- Graphs with the same nodes and edges are sorted alike, if ids tell the nodes apart and
references the edges. -/
theorem sorted_eq_of_perm {g g' : Graph} (hnodes : g.nodes.Perm g'.nodes)
    (hedges : g.edges.Perm g'.edges) (hids : (g.nodes.map (·.id)).Nodup)
    (hrefs : (g.edges.map Edge.reference).Nodup)
    (hkinds : ∀ e ∈ g.edges, EdgeKind.ofName e.kind.name = e.kind) : g.sorted = g'.sorted := by
  have hids' := (hnodes.map (·.id)).nodup_iff.1 hids
  have hrefs' := (hedges.map Edge.reference).nodup_iff.1 hrefs
  have hkinds' : ∀ e ∈ g'.edges, EdgeKind.ofName e.kind.name = e.kind :=
    fun e he => hkinds e (hedges.mem_iff.2 he)
  have hnodesSorted : g.sorted.nodes = g'.sorted.nodes := by
    have hperm : g.sorted.nodes.Perm g'.sorted.nodes :=
      (List.mergeSort_perm _ _).trans (hnodes.trans (List.mergeSort_perm _ _).symm)
    exact hperm.eq_of_pairwise (fun _ _ _ _ hab hba => absurd hba (Text.lt_asymm hab))
      (Text.ascending_mergeSort hids) (Text.ascending_mergeSort hids')
  have hedgesSorted : g.sorted.edges = g'.sorted.edges := by
    have hperm : g.sorted.edges.Perm g'.sorted.edges :=
      (List.mergeSort_perm _ _).trans (hedges.trans (List.mergeSort_perm _ _).symm)
    exact hperm.eq_of_pairwise (fun _ _ _ _ hab hba => absurd hba hab.asymm)
      (before_mergeSort hrefs hkinds) (before_mergeSort hrefs' hkinds')
  show Graph.mk g.sorted.nodes g.sorted.edges = Graph.mk g'.sorted.nodes g'.sorted.edges
  rw [hnodesSorted, hedgesSorted]

namespace Settled

variable {g g' : Graph} {as bs : List Addition} {refs refs' : List Reference}

theorem nodes_subset (h : Settled g as refs) (h' : Settled g' bs refs') (hperm : as.Perm bs)
    (hrefs : refs.Perm refs') (hdistinct : (as.map Addition.path).Nodup) {n : Node}
    (hn : n ∈ g.nodes) : n ∈ g'.nodes := by
  have hid : n.id ∈ g'.nodes.map (·.id) := by
    have hmem := (h.mem_nodes n.id).1 (List.mem_map_of_mem hn)
    rw [(hperm.map _).mem_iff, (hrefs.map _).mem_iff] at hmem
    exact (h'.mem_nodes n.id).2 hmem
  obtain ⟨n', hn', hid'⟩ := List.mem_map.1 hid
  have heq : n' = n := ((h'.fixed n' hn').perm hperm.symm).eq hdistinct (h.fixed n hn) hid'
  exact heq ▸ hn'

theorem nodes_perm (h : Settled g as refs) (h' : Settled g' bs refs') (hperm : as.Perm bs)
    (hrefs : refs.Perm refs') (hdistinct : (as.map Addition.path).Nodup) :
    g.nodes.Perm g'.nodes := by
  refine (List.perm_ext_iff_of_nodup h.distinct_nodes.of_map h'.distinct_nodes.of_map).2 fun n => ?_
  have hdistinct' := (hperm.map Addition.path).nodup_iff.1 hdistinct
  exact ⟨h.nodes_subset h' hperm hrefs hdistinct,
    h'.nodes_subset h hperm.symm hrefs.symm hdistinct'⟩

end Settled

theorem Accounts.edges_perm {g g' : Graph} {paths paths' : List Text} {refs refs' : List Reference}
    (h : Accounts g paths refs) (h' : Accounts g' paths' refs') (hrefs : refs.Perm refs') :
    g.edges.Perm g'.edges := by
  refine (List.perm_ext_iff_of_nodup h.distinct_edges.of_map h'.distinct_edges.of_map).2 fun e => ?_
  rw [h.mem_edges, h'.mem_edges, hrefs.count_eq]

/-- **The graph does not depend on the order of the additions**, if every file is added once and no
path has the form of the id of a class. -/
theorem built_perm {r : Resolution} {as bs : List Addition} (hperm : as.Perm bs)
    (hdistinct : (as.map Addition.path).Nodup) (hfiles : ∀ a ∈ as, a.NamesFiles)
    (hr : r.NamesFiles) : built r as = built r bs := by
  have h := settled_empty.foldl_add hr hfiles
  have h' := settled_empty.foldl_add hr fun b hb => hfiles b (hperm.mem_iff.2 hb)
  rw [List.nil_append, List.nil_append] at h h'
  have hrefs : ((as.flatMap (Addition.references r)).filter Reference.isProper).Perm
      ((bs.flatMap (Addition.references r)).filter Reference.isProper) :=
    (hperm.flatMap_right _).filter _
  have hkinds : ∀ e ∈ (as.foldl (add r) {}).edges, EdgeKind.ofName e.kind.name = e.kind := by
    intro e he
    obtain ⟨a, -, hρ⟩ := List.mem_flatMap.1 (List.mem_of_mem_filter (h.reference_mem he))
    exact a.kind_of_mem_references hρ
  exact sorted_eq_of_perm (h.nodes_perm h' hperm hrefs hdistinct)
    (h.toAccounts.edges_perm h'.toAccounts hrefs) h.distinct_nodes h.distinct_edges hkinds

/-- A project with one global class. -/
def sampleResolution : Resolution where
  registry := { classes := [{ name := "Player", path := "res://player.gd" }] }
  classNodes := true

/-- A scene that refers to two scripts, one of which refers to the other by its class and to a class
of the engine. -/
def sampleAdditions : List Addition :=
  [.scene "res://main.tscn" ["res://player.gd", "res://enemy.gd"] [],
    .script "res://player.gd" "Player" [],
    .script "res://enemy.gd" []
      [{ target := "Node", kind := .inheritance }, { target := "Player", kind := .typeHint }]]

/-- The graphs of the two orders differ until they are sorted. -/
theorem built_perm_player_enemy :
    sampleAdditions.Perm sampleAdditions.reverse ∧ (sampleAdditions.map Addition.path).Nodup ∧
      (∀ a ∈ sampleAdditions, a.NamesFiles) ∧ sampleResolution.NamesFiles ∧
      sampleAdditions.foldl (add sampleResolution) {} ≠
        sampleAdditions.reverse.foldl (add sampleResolution) {} ∧
      built sampleResolution sampleAdditions = built sampleResolution sampleAdditions.reverse := by
  have hperm : sampleAdditions.Perm sampleAdditions.reverse := (List.reverse_perm _).symm
  have hdistinct : (sampleAdditions.map Addition.path).Nodup := by decide
  have hfiles : ∀ a ∈ sampleAdditions, a.NamesFiles := by decide
  have hr : sampleResolution.NamesFiles := by decide
  exact ⟨hperm, hdistinct, hfiles, hr, by decide +kernel, built_perm hperm hdistinct hfiles hr⟩

end GodotSurvey.Graph
