import GodotSurvey.Proofs.Scene.Sections

/-!
# A written scene is read back

Reading a written scene gives the scene that was written. Each section adds its part to the file
read so far and looks at nothing else than that file and whether a root was seen, so the sections
can be taken one after the other.

* `State.Holds` — what of a state the next section can see.
* `holds_node` — a node with its properties is read as it was written.
* `parse_print` — **a well-formed scene is read back as it was written.**
-/

namespace GodotSurvey.Scene

open Text Lexing

/-! ## Runs over lines -/

/-- Reads lines that are numbered from `n` on. -/
def State.readFrom (st : State) (n : Nat) : List Text → State
  | [] => st
  | t :: ts => (st.next {} ⟨n, t⟩).readFrom (n + 1) ts

theorem foldl_next_mapIdx (st : State) (n : Nat) (ts : List Text) :
    (ts.mapIdx fun i t => (⟨i + n, t⟩ : Script.Line)).foldl (State.next {}) st =
      st.readFrom n ts := by
  induction ts generalizing st n with
  | nil => rfl
  | cons t ts ih =>
    rw [List.mapIdx_cons, List.foldl_cons, State.readFrom, ← ih, Nat.zero_add]
    simp only [Nat.add_assoc, Nat.add_comm 1 n]

theorem readFrom_append (st : State) (n : Nat) (ts us : List Text) :
    st.readFrom n (ts ++ us) = (st.readFrom n ts).readFrom (n + ts.length) us := by
  induction ts generalizing st n with
  | nil => rfl
  | cons t ts ih =>
    rw [List.cons_append, State.readFrom, State.readFrom, ih, List.length_cons]
    congr 1
    omega

/-- The lines of a written scene come back, with an empty one at the end. -/
theorem numberedLines_lines {c : UInt8} {t : Text} {ts : List Text} (hc : c ≠ 0xEF)
    (hone : ∀ u ∈ (c :: t) :: ts, IsOneLine u) :
    Script.numberedLines (Text.lines ((c :: t) :: ts)) =
      ((c :: t) :: ts ++ [[]]).mapIdx fun i u => ⟨i + 1, u⟩ := by
  have hcons : Text.lines ((c :: t) :: ts) = c :: (t ++ 10 :: Text.lines ts) := by
    simp [Text.lines, Text.ofString, String.utf8EncodeChar]
  have hreturn : 13 ∉ Text.lines ((c :: t) :: ts) := by
    simp only [Text.lines, List.mem_flatMap, List.mem_append]
    rintro ⟨u, hu, h | h⟩
    · exact (hone u hu).carriageReturn h
    · revert h
      decide
  have hstrip : stripStart (Text.lines ((c :: t) :: ts)) [0xEF, 0xBB, 0xBF] =
      Text.lines ((c :: t) :: ts) := by
    rw [hcons]
    exact stripStart_of_head hc _ _
  rw [Script.numberedLines, Script.sourceLines, hstrip, replaceAll_crlf hreturn,
    splitLines_lines fun u hu => (hone u hu).lineFeed]

/-! ## What the next section can see -/

/-- The file read so far, and whether a root was seen. -/
structure State.Holds (st : State) (file : SceneFile) (hasRoot : Bool) : Prop where
  file : st.file = file
  hasRoot : st.hasRoot = hasRoot

theorem headerAttr_text {h : Header} (hh : h.WellFormed) {key : Text} (hkey : isWord key) {t : Text}
    (ht : h.attrs.lookup key = some (.text t)) : headerAttr h.print key = t := by
  rw [headerAttr, headerAttr?_print hh hkey (by simp [ht, AttrValue.read?]), ht]
  rfl

theorem holds_scene (d : Description) (n : Nat) :
    (({} : State).next {} ⟨n, d.header.print⟩).Holds
      { format := d.format, uid := d.uid } false := by
  have hh : d.header.WellFormed := ⟨rfl, rfl⟩
  have hkind : sectionKind d.header.print = "gd_scene" := sectionKind_print hh
  have hformat : headerAttr d.header.print "format" = d.format := headerAttr_text hh rfl rfl
  have huid : headerAttr d.header.print "uid" = d.uid := headerAttr_text hh rfl rfl
  rw [next_header, State.openSection, hkind]
  exact ⟨by simp [hformat, huid], rfl⟩

/-! ## Resources -/

theorem putResource_new {r : ExtResource} {rs : List ExtResource} (h : r.id ∉ rs.map (·.id)) :
    putResource r rs = rs ++ [r] := by
  induction rs with
  | nil => rfl
  | cons q rs ih =>
    simp only [List.map_cons, List.mem_cons, not_or] at h
    have hne : (q.id == r.id) = false := by simpa using Ne.symm h.1
    simp [putResource, hne, ih h.2]

theorem holds_extResource {st : State} {file : SceneFile} {hasRoot : Bool}
    (h : st.Holds file hasRoot) {r : ExtResource} (hid : r.id ≠ [])
    (hnew : r.id ∉ file.extResources.map (·.id)) (n : Nat) :
    (st.next {} ⟨n, (extResourceHeader r).print⟩).Holds
      { file with extResources := file.extResources ++ [r] } hasRoot := by
  have hh : (extResourceHeader r).WellFormed := ⟨rfl, rfl⟩
  have hkind : sectionKind (extResourceHeader r).print = "ext_resource" := sectionKind_print hh
  have hread : readExtResource (extResourceHeader r).print st.file =
      { file with extResources := file.extResources ++ [r] } := by
    have hidAttr : headerAttr (extResourceHeader r).print "id" = r.id := headerAttr_text hh rfl rfl
    have hpath : headerAttr (extResourceHeader r).print "path" = r.path :=
      headerAttr_text hh rfl rfl
    have htype : headerAttr (extResourceHeader r).print "type" = r.type :=
      headerAttr_text hh rfl rfl
    have huid : headerAttr (extResourceHeader r).print "uid" = r.uid := headerAttr_text hh rfl rfl
    have hempty : r.id.isEmpty = false := by simpa using hid
    simp only [readExtResource, hidAttr, hpath, htype, huid, hempty, h.file, putResource_new hnew]
    rfl
  rw [next_header, State.openSection, hkind]
  exact ⟨hread, h.hasRoot⟩

theorem holds_extResources {st : State} {file : SceneFile} {hasRoot : Bool}
    (h : st.Holds file hasRoot) {rs : List ExtResource} (hrs : ∀ r ∈ rs, r.id ≠ [])
    (hids : ((file.extResources ++ rs).map (·.id)).Nodup) (n : Nat) :
    (st.readFrom n (rs.map fun r => (extResourceHeader r).print)).Holds
      { file with extResources := file.extResources ++ rs } hasRoot := by
  induction rs generalizing st file n with
  | nil => simpa [State.readFrom] using h
  | cons r rs ih =>
    have hnew : r.id ∉ file.extResources.map (·.id) := by
      rw [List.map_append, List.map_cons, List.nodup_append] at hids
      exact fun hmem => hids.2.2 r.id hmem r.id List.mem_cons_self rfl
    have hr := holds_extResource h (hrs r List.mem_cons_self) hnew n
    have hrest := ih hr (fun q hq => hrs q (List.mem_cons_of_mem r hq)) (by simpa using hids)
      (n + 1)
    simpa [State.readFrom] using hrest

theorem holds_subResources {st : State} {file : SceneFile} {hasRoot : Bool}
    (h : st.Holds file hasRoot) (rs : List SubResource) (n : Nat) :
    (st.readFrom n (rs.map fun r => (subResourceHeader r).print)).Holds
      { file with subResources := file.subResources ++ rs } hasRoot := by
  induction rs generalizing st file n with
  | nil => simpa [State.readFrom] using h
  | cons r rs ih =>
    have hh : (subResourceHeader r).WellFormed := ⟨rfl, rfl⟩
    have hkind : sectionKind (subResourceHeader r).print = "sub_resource" := sectionKind_print hh
    have hid : headerAttr (subResourceHeader r).print "id" = r.id := headerAttr_text hh rfl rfl
    have htype : headerAttr (subResourceHeader r).print "type" = r.type :=
      headerAttr_text hh rfl rfl
    have hr : (st.next {} ⟨n, (subResourceHeader r).print⟩).Holds
        { file with subResources := file.subResources ++ [r] } hasRoot := by
      rw [next_header, State.openSection, hkind, hid, htype, h.file]
      exact ⟨rfl, h.hasRoot⟩
    simpa [State.readFrom] using ih hr (n + 1)

/-! ## Connections -/

theorem holds_connections {st : State} {file : SceneFile} {hasRoot : Bool}
    (h : st.Holds file hasRoot) (cs : List Connection) (n : Nat) :
    (st.readFrom n (cs.map fun c => (connectionHeader c).print)).Holds
      { file with connections := file.connections ++ connectionsFrom n cs } hasRoot := by
  induction cs generalizing st file n with
  | nil => simpa [State.readFrom, connectionsFrom] using h
  | cons c cs ih =>
    have hh : (connectionHeader c).WellFormed := ⟨rfl, rfl⟩
    have hkind : sectionKind (connectionHeader c).print = "connection" := sectionKind_print hh
    have hread : readConnection n (connectionHeader c).print = { c with line := n } := by
      have hsignal : headerAttr (connectionHeader c).print "signal" = c.signal :=
        headerAttr_text hh rfl rfl
      have hsource : headerAttr (connectionHeader c).print "from" = c.source :=
        headerAttr_text hh rfl rfl
      have htarget : headerAttr (connectionHeader c).print "to" = c.target :=
        headerAttr_text hh rfl rfl
      have hmethod : headerAttr (connectionHeader c).print "method" = c.method :=
        headerAttr_text hh rfl rfl
      have hflags : headerAttr (connectionHeader c).print "flags" = c.flags :=
        headerAttr_text hh rfl rfl
      rw [readConnection, hsignal, hsource, htarget, hmethod, hflags]
    have hc : (st.next {} ⟨n, (connectionHeader c).print⟩).Holds
        { file with connections := file.connections ++ [{ c with line := n }] } hasRoot := by
      rw [next_header, State.openSection, hkind, hread, h.file]
      exact ⟨rfl, h.hasRoot⟩
    simpa [State.readFrom, connectionsFrom] using ih hc (n + 1)

/-! ## Nodes -/

theorem lookup_attrs (parent : Option Text) (n : NodeDescription) :
    (n.attrs parent).lookup (ofString "name") = some (.text n.name) ∧
    (n.attrs parent).lookup (ofString "type") = n.type.map .text ∧
    (n.attrs parent).lookup (ofString "parent") = parent.map .text ∧
    (n.attrs parent).lookup (ofString "instance") = n.instanced.map .resource := by
  obtain ⟨name, type, groups, instanced, properties⟩ := n
  cases type <;> cases parent <;> cases groups <;> cases instanced <;> exact ⟨rfl, rfl, rfl, rfl⟩

theorem header_wellFormed (parent : Option Text) (n : NodeDescription) :
    (n.header parent).WellFormed := by
  refine ⟨rfl, ?_⟩
  rw [NodeDescription.header, List.all_eq_true]
  intro a ha
  simp only [NodeDescription.attrs, List.mem_append] at ha
  rcases ha with ha | ha
  · exact (placeAttrs_keys parent n a ha).1
  · split at ha
    · exact (instanceAttrs_keys n a ha).1
    · rcases List.mem_cons.mp ha with rfl | ha
      · rfl
      · exact (instanceAttrs_keys n a ha).1

/-- Attributes that hold a text or a reference, if they are there. -/
theorem headerAttr?_node {parent : Option Text} {n : NodeDescription} {key : Text}
    (hword : isWord key) {t : Option Text} {f : Text → AttrValue} {g : Text → Text}
    (hf : ∀ t, (f t).read? = some (g t)) (hlookup : (n.attrs parent).lookup key = t.map f) :
    headerAttr? (n.header parent).print key = t.map g := by
  have hread : ∀ v, (n.header parent).attrs.lookup key = some v → v.read?.isSome := by
    intro v hv
    rw [NodeDescription.header, hlookup] at hv
    obtain ⟨u, -, rfl⟩ := Option.map_eq_some_iff.mp hv
    simp [hf]
  rw [headerAttr?_print (header_wellFormed parent n) hword hread, NodeDescription.header, hlookup]
  cases t with
  | none => rfl
  | some u => exact hf u

theorem nodePlace_eq {hasRoot : Bool} {parent : Option Text} (h : parent = none → hasRoot = false)
    (name : Text) :
    nodePlace hasRoot parent name = (describedPath parent name, parent.getD []) := by
  cases parent with
  | none => simp [nodePlace, describedPath, h rfl, rootPath]
  | some p =>
    by_cases hp : p = "."
    · simp [nodePlace, describedPath, hp, rootPath]
    · simp [nodePlace, describedPath, hp, rootPath]

/-- The header of a node opens its section. -/
theorem next_node {st : State} {file : SceneFile} {hasRoot : Bool} (h : st.Holds file hasRoot)
    {parent : Option Text} (hparent : parent = none → hasRoot = false) {n : NodeDescription}
    (hn : n.WellFormed file.extResources) (hids : ∀ r ∈ file.extResources, IsPlain r.id)
    (line : Nat) :
    st.next {} ⟨line, (n.header parent).print⟩ =
      inNode file file.nodes { n.decl file.extResources parent line with properties := [] } none
        (hasRoot || parent.isNone) := by
  obtain ⟨hnameAttr, htypeAttr, hparentAttr, hinstAttr⟩ := lookup_attrs parent n
  have hkind : sectionKind (n.header parent).print = "node" :=
    sectionKind_print (header_wellFormed parent n)
  have hname : headerAttr? (n.header parent).print "name" = some n.name :=
    headerAttr?_node (t := some n.name) (g := id) rfl (fun _ => rfl) hnameAttr
  have htype : headerAttr? (n.header parent).print "type" = n.type :=
    (headerAttr?_node (g := id) rfl (fun _ => rfl) htypeAttr).trans Option.map_id_apply
  have hparent' : headerAttr? (n.header parent).print "parent" = parent :=
    (headerAttr?_node (g := id) rfl (fun _ => rfl) hparentAttr).trans Option.map_id_apply
  have hinst : headerAttr? (n.header parent).print "instance" =
      n.instanced.map fun id => (AttrValue.resource id).print :=
    headerAttr?_node rfl (fun _ => rfl) hinstAttr
  have hpath : instancedPath file (headerAttr (n.header parent).print "instance") =
      (n.instanced.map (resourcePath file.extResources)).getD [] := by
    rw [headerAttr, hinst]
    cases hi : n.instanced with
    | none => rfl
    | some id =>
      obtain ⟨r, hr, hid⟩ := hn.instanced id hi
      exact instancedPath_print (hid ▸ hids r hr) ⟨r, hr, hid⟩
  have hopen : st.openSection {} line (n.header parent).print =
      { st with inNode := false, lastKey := none }.openNode line (n.header parent).print := by
    rw [State.openSection, hkind]
    rfl
  rw [next_header, hopen]
  simp only [State.openNode, h.file, h.hasRoot, hpath, groups_print hn]
  simp only [headerAttr, hname, htype, hparent', Option.getD_some, nodePlace_eq hparent]
  rfl

/-- The lines of properties set them one after the other. -/
theorem readFrom_properties (file : SceneFile) (ns : List NodeDecl) (hasRoot : Bool)
    {ps : List (Text × Text)} (hps : ∀ p ∈ ps, IsProperty p.1 p.2) (node : NodeDecl)
    (hkeys : (node.properties.map (·.1) ++ ps.map (·.1)).Nodup) (lastKey : Option Text) (n : Nat) :
    ∃ key, (inNode file ns node lastKey hasRoot).readFrom n (ps.map printProperty) =
      inNode file ns { node with properties :=
        node.properties ++ ps.map fun p => (p.1, ⟨p.2, printProperty p⟩) } key hasRoot := by
  induction ps generalizing node lastKey n with
  | nil => exact ⟨lastKey, by simp [State.readFrom]⟩
  | cons p ps ih =>
    have hnew : p.1 ∉ node.properties.map (·.1) := by
      rw [List.map_cons, List.nodup_append] at hkeys
      exact fun hmem => hkeys.2.2 p.1 hmem p.1 List.mem_cons_self rfl
    have hp := next_property (hps p List.mem_cons_self) file ns hnew lastKey hasRoot n
    obtain ⟨key, hrest⟩ := ih (fun q hq => hps q (List.mem_cons_of_mem p hq))
      { node with properties := node.properties ++ [(p.1, ⟨p.2, printProperty p⟩)] }
      (by simpa using hkeys) (some p.1) (n + 1)
    refine ⟨key, ?_⟩
    rw [List.map_cons, State.readFrom, hp, hrest]
    simp

/-- A node is read as it was written. -/
theorem holds_node {st : State} {file : SceneFile} {hasRoot : Bool} (h : st.Holds file hasRoot)
    (parent : Option Text) (hparent : parent = none → hasRoot = false) {n : NodeDescription}
    (hn : n.WellFormed file.extResources) (hids : ∀ r ∈ file.extResources, IsPlain r.id)
    (line : Nat) :
    (st.readFrom line (n.lines parent)).Holds
      { file with nodes := file.nodes ++ [n.decl file.extResources parent line] }
      (hasRoot || parent.isNone) := by
  obtain ⟨key, hprops⟩ := readFrom_properties file file.nodes (hasRoot || parent.isNone)
    hn.properties { n.decl file.extResources parent line with properties := [] }
    (by simpa using hn.keys) none (line + 1)
  rw [NodeDescription.lines, State.readFrom, next_node h hparent hn hids, hprops]
  exact ⟨rfl, rfl⟩

/-- Nodes behind a root are read as they were written. -/
theorem holds_nodes {st : State} {file : SceneFile} (h : st.Holds file true)
    {ns : List (Option Text × NodeDescription)}
    (hns : ∀ a ∈ ns, a.1 ≠ none ∧ a.2.WellFormed file.extResources)
    (hids : ∀ r ∈ file.extResources, IsPlain r.id) (line : Nat) :
    (st.readFrom line (ns.flatMap fun (parent, n) => n.lines parent)).Holds
      { file with nodes := file.nodes ++ nodesFrom file.extResources line ns } true := by
  induction ns generalizing st file line with
  | nil => simpa [State.readFrom, nodesFrom] using h
  | cons a ns ih =>
    obtain ⟨hparent, hn⟩ := hns a List.mem_cons_self
    have ha := holds_node h a.1 (fun h => absurd h hparent) hn hids line
    have hrest := ih ha (fun b hb => hns b (List.mem_cons_of_mem a hb)) hids
      (line + (a.2.lines a.1).length)
    rw [List.flatMap_cons, readFrom_append]
    simpa [nodesFrom] using hrest

/-! ## The round trip -/

theorem holds_lines {d : Description} (hd : d.WellFormed) :
    (({} : State).readFrom 1 d.lines).Holds d.file true := by
  have hids : ∀ r ∈ d.extResources, IsPlain r.id := fun r hr => (hd.extResources r hr).1
  have hothers : ∀ a ∈ d.nodes.tail, a.1 ≠ none ∧ a.2.WellFormed d.extResources := by
    simp only [Description.nodes, List.tail_cons, List.mem_map]
    rintro _ ⟨o, ho, rfl⟩
    exact ⟨by simp, (hd.others o ho).2⟩
  have h₁ := holds_scene d 1
  have h₂ := holds_extResources h₁ (fun r hr => (hids r hr).nonempty) hd.ids 2
  have h₃ := holds_subResources h₂ d.subResources (2 + d.extResources.length)
  have h₄ := holds_node h₃ none (fun _ => rfl) hd.root hids d.rootLine
  have h₅ := holds_nodes h₄ hothers hids (d.rootLine + (d.root.lines none).length)
  have h₆ := holds_connections h₅ d.connections
    (d.rootLine + (d.nodes.flatMap fun (parent, n) => n.lines parent).length)
  -- the sections of the file, with the lines they start at
  have hsub :
      1 + (d.header.print :: d.extResources.map fun r => (extResourceHeader r).print).length =
        2 + d.extResources.length := by
    rw [List.length_cons, List.length_map]
    omega
  have hroot : 1 + ((d.header.print :: d.extResources.map fun r => (extResourceHeader r).print) ++
      d.subResources.map fun r => (subResourceHeader r).print).length = d.rootLine := by
    rw [List.length_append, List.length_map, ← Nat.add_assoc, hsub]
    rfl
  have hnodes : d.nodes.flatMap (fun (parent, n) => n.lines parent) =
      d.root.lines none ++ d.nodes.tail.flatMap fun (parent, n) => n.lines parent :=
    List.flatMap_cons
  rw [Description.lines, readFrom_append, readFrom_append, readFrom_append, hsub, hroot,
    List.length_append, ← Nat.add_assoc, hroot]
  rw [hnodes, readFrom_append, ← hnodes]
  exact h₆

theorem isOneLine_optionalAttr {t : Option Text} {f : Text → AttrValue}
    (hf : ∀ t, (f t).texts = [t]) (ht : ∀ u ∈ t, IsOneLine u) {key : Text} :
    ∀ a ∈ optionalAttr key (t.map f), ∀ u ∈ a.2.texts, IsOneLine u := by
  cases t with
  | none => simp [optionalAttr]
  | some t => simpa [optionalAttr, hf] using ht

theorem NodeDescription.isOneLine_lines {rs : List ExtResource} (hids : ∀ r ∈ rs, IsPlain r.id)
    {n : NodeDescription} (hn : n.WellFormed rs) {parent : Option Text}
    (hparent : ∀ p ∈ parent, IsOneLine p) : ∀ l ∈ n.lines parent, IsOneLine l := by
  have hinst : ∀ id ∈ n.instanced, IsOneLine id := by
    intro id hid
    obtain ⟨r, hr, rfl⟩ := hn.instanced id hid
    exact (hids r hr).oneLine
  have htexts : ∀ a ∈ n.attrs parent, ∀ t ∈ a.2.texts, IsOneLine t := by
    have hinstance : ∀ a ∈ n.instanceAttrs, ∀ t ∈ a.2.texts, IsOneLine t :=
      isOneLine_optionalAttr (fun _ => rfl) hinst
    intro a ha
    simp only [NodeDescription.attrs, NodeDescription.placeAttrs, List.mem_append,
      List.mem_cons] at ha
    rcases ha with (rfl | ha | ha) | ha
    · simpa [AttrValue.texts] using hn.name
    · exact isOneLine_optionalAttr (fun _ => rfl) hn.type a ha
    · exact isOneLine_optionalAttr (fun _ => rfl) hparent a ha
    · split at ha
      · exact hinstance a ha
      · rcases List.mem_cons.mp ha with rfl | ha
        · exact fun g hg => (hn.groups g hg).1.oneLine
        · exact hinstance a ha
  intro l hl
  rcases List.mem_cons.mp hl with rfl | hl
  · exact Header.isOneLine_print (header_wellFormed parent n) htexts
  · obtain ⟨p, hp, rfl⟩ := List.mem_map.mp hl
    have hp := hn.properties p hp
    simp only [printProperty, isOneLine_append]
    exact ⟨⟨hp.keyOneLine, by decide, by decide⟩, hp.valueOneLine⟩

theorem Description.isOneLine_lines {d : Description} (hd : d.WellFormed) :
    ∀ l ∈ d.lines, IsOneLine l := by
  have hids : ∀ r ∈ d.extResources, IsPlain r.id := fun r hr => (hd.extResources r hr).1
  simp only [Description.lines, List.mem_append, List.mem_cons, List.mem_map, List.mem_flatMap]
  rintro l ((((rfl | ⟨r, hr, rfl⟩) | ⟨r, hr, rfl⟩) | ⟨a, ha, hl⟩) | ⟨c, hc, rfl⟩)
  · apply Header.isOneLine_print ⟨rfl, rfl⟩
    simp [Description.header, AttrValue.texts, hd.format, hd.uid]
  · obtain ⟨hid, hpath, htype, huid⟩ := hd.extResources r hr
    apply Header.isOneLine_print ⟨rfl, rfl⟩
    simp [extResourceHeader, AttrValue.texts, hid.oneLine, hpath, htype, huid]
  · obtain ⟨hid, htype⟩ := hd.subResources r hr
    apply Header.isOneLine_print ⟨rfl, rfl⟩
    simp [subResourceHeader, AttrValue.texts, hid, htype]
  · simp only [Description.nodes, List.mem_cons, List.mem_map] at ha
    rcases ha with rfl | ⟨o, ho, rfl⟩
    · exact NodeDescription.isOneLine_lines hids hd.root (by simp) l hl
    · obtain ⟨hparent, hn⟩ := hd.others o ho
      exact NodeDescription.isOneLine_lines hids hn (by simpa using hparent) l hl
  · obtain ⟨hsignal, hsource, htarget, hmethod, hflags⟩ := hd.connections c hc
    apply Header.isOneLine_print ⟨rfl, rfl⟩
    simp [connectionHeader, AttrValue.texts, hsignal, hsource, htarget, hmethod, hflags]

/-- **A well-formed scene is read back as it was written.** -/
theorem parse_print {d : Description} (hd : d.WellFormed) : parse d.print {} = d.file := by
  obtain ⟨s, hs⟩ := Header.ends d.header
  have hlines : d.lines = (91 :: (s ++ [93])) :: d.lines.tail := by
    rw [← List.cons_append, ← hs]
    rfl
  have hnumbered : Script.numberedLines d.print =
      (d.lines ++ [[]]).mapIdx fun i u => ⟨i + 1, u⟩ := by
    have hone := Description.isOneLine_lines hd
    rw [Description.print]
    rw [hlines] at hone ⊢
    exact numberedLines_lines (by decide) hone
  rw [parse, hnumbered, foldl_next_mapIdx, readFrom_append]
  exact (holds_lines hd).file

/-- A scene whose names look like headers and attributes. -/
def arena : Description :=
  { format := "3"
    uid := "uid://arena"
    extResources := [{ id := "1_p", path := "res://player.tscn", type := "PackedScene" }]
    subResources := [⟨"Shape_1", "BoxShape3D"⟩]
    root :=
      { name := "Arena] parent=\"x\" 'groups=["
        type := some "Node\\2D"
        groups := ["stage", "a]b"]
        properties := [("position", "Vector2(1, 2)"), ("text", ""), ("meta/a", "\"[node]\"")] }
    others := [(".", { name := "Player", instanced := some "1_p" }),
      ("Player", { name := "", groups := ["stage"] })]
    connections :=
      [{ signal := "ready", source := ".", target := "Player", method := "_on_ready" }] }

theorem parse_print_arena : arena.WellFormed ∧ parse arena.print {} = arena.file :=
  ⟨by decide, parse_print (by decide)⟩

end GodotSurvey.Scene
