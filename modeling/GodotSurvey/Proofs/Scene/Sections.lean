import GodotSurvey.Proofs.Lexing.CallForm
import GodotSurvey.Proofs.Scene.LastNode
import GodotSurvey.Proofs.Scene.Printer

/-!
# Reading one written line

What the reader makes of each line that `Description.print` writes: a header opens a section of
its kind with the attributes it was written with, and the line of a property sets the property.

* `next_header` — a written header opens its section.
* `groups_print`, `instancedPath_print` — the groups and the resource of a node.
* `next_property` — a written property is added to the node that is being read.
-/

namespace GodotSurvey.Scene

open Text Lexing

/-! ## Headers -/

theorem Header.ends (h : Header) : ∃ s, h.print = 91 :: s ++ [93] := by
  obtain ⟨s, hs⟩ := printAttrs_end h.attrs
  exact ⟨h.kind ++ s, by rw [Header.print_eq, hs]; simp⟩

theorem next_header (opts : Options) (st : State) (n : Nat) (h : Header) :
    st.next opts ⟨n, h.print⟩ = st.openSection opts n h.print := by
  obtain ⟨s, hs⟩ := Header.ends h
  have htrim : trim h.print = h.print := by
    rw [hs]
    exact isTrimmed_of_isSolid rfl rfl s
  have hempty : h.print.isEmpty = false := by simp [hs]
  have hcomment : startsWith h.print ";" = false := by
    rw [hs]
    rfl
  have hopen : startsWith h.print "[" = true := by
    rw [hs]
    rfl
  have hclose : endsWith h.print "]" = true := by
    rw [hs, endsWith, List.isSuffixOf_iff_suffix]
    exact ⟨_, rfl⟩
  simp [State.next, htrim, hempty, hcomment, hopen, hclose]

theorem sectionKind_print {h : Header} (hh : h.WellFormed) : sectionKind h.print = h.kind := by
  obtain ⟨c, rest, hattrs, hc⟩ := printAttrs_head h.attrs
  have hstrip : stripStart h.print "[" = h.kind ++ c :: rest := by
    rw [Header.print_eq, hattrs]
    simp [stripStart, dropStart?, Text.ofString, String.utf8EncodeChar]
  have hword : ∀ d ∈ h.kind, (d != ' ' && d != ']') = true := by
    intro d hd
    have hident := isIdent_of_isWord hh.kind d hd
    by_cases h₁ : d = 32
    · subst h₁
      contradiction
    · by_cases h₂ : d = 93
      · subst h₂
        contradiction
      · simp [h₁, h₂, Char.toUInt8]
  have hstop : (c != ' ' && c != ']') = false := by
    rcases hc with rfl | rfl <;> rfl
  rw [sectionKind, hstrip, List.takeWhile_append_of_pos hword, List.takeWhile_cons, hstop]
  simp

/-! ## Names in literals -/

/-- A literal that holds nothing to escape, also one after a blank, is unquoted to its text. -/
theorem unquote_literal {t : Text} (hq : 34 ∉ t) (hb : 92 ∉ t) : unquote (literal t) = t := by
  rw [literal_eq, escape_eq_self hb hq]
  exact unquote_quoted rfl t

theorem unquote_blank (s : Text) : unquote (32 :: s) = unquote s := by
  rw [unquote, unquote, trim, trim, trimStart_blank]

/-- The pieces of a list of names, unquoted, are the names. -/
theorem unquote_nameList {ns : List Text} (h : ∀ n ∈ ns, IsPlain n ∧ 44 ∉ n) :
    ((splitByte ',' (nameList ns)).map unquote).filter (!·.isEmpty) = ns := by
  have hcomma : ∀ n ∈ ns, 44 ∉ literal n := by
    intro n hn
    obtain ⟨hplain, hn⟩ := h n hn
    simp [literal_eq, escape_eq_self hplain.backslash hplain.quote, hn]
  have hunquote : ∀ n ∈ ns, unquote (literal n) = n := fun n hn =>
    unquote_literal (h n hn).1.quote (h n hn).1.backslash
  cases ns with
  | nil => rfl
  | cons n ns =>
    have hsplit : splitByte ',' (nameList (n :: ns)) =
        literal n :: (ns.map literal).map (32 :: ·) := by
      apply splitByte_join_blank (hcomma n List.mem_cons_self)
      · simpa using fun m hm => hcomma m (List.mem_cons_of_mem n hm)
      · decide
    have hmap : (splitByte ',' (nameList (n :: ns))).map unquote = n :: ns := by
      rw [hsplit, List.map_cons, hunquote n List.mem_cons_self, List.map_map, List.map_map]
      congr 1
      refine (List.map_congr_left fun m hm => ?_).trans (List.map_id ns)
      simp only [Function.comp, unquote_blank, id]
      exact hunquote m (List.mem_cons_of_mem n hm)
    rw [hmap, List.filter_eq_self]
    intro m hm
    simpa using (h m hm).1.nonempty

/-! ## Groups -/

/-- The content of a bracket that holds a list of names. -/
theorem inner_nameList (s : Text) (ns : List Text) (rest : Text) :
    (Lexing.inner (s ++ 91 :: (nameList ns ++ 93 :: rest)) s.length).1 = nameList ns := by
  obtain ⟨seen, hseen, hc⟩ := shows_nameList ns
  have hmem (c : UInt8) (h₁ : c ≠ 44) (h₂ : c ≠ 32) : c ∉ outerBytes .outside (nameList ns) := by
    rw [hseen.seen]
    exact fun h => (hc c h).elim h₁ h₂
  have hbalanced : IsBalanced 91 93 (nameList ns) :=
    isBalanced_of_not_mem (hmem 91 (by decide) (by decide)) (hmem 93 (by decide) (by decide))
  rw [inner_group rfl hseen.run hbalanced]

theorem findUnquoted?_groups {s seen : Text} (hs : Shows s seen) (hg : 103 ∉ seen) (rest : Text) :
    findUnquoted? (s ++ rest) "groups=[" = findUnquotedFrom "groups=[" .outside s.length rest := by
  have hneedle : (ofString "groups=[") = 103 :: ofString "roups=[" := rfl
  have hempty : (ofString "groups=[").isEmpty = false := rfl
  rw [findUnquoted?, hempty, hneedle]
  simp only [Bool.false_eq_true, if_false]
  rw [findUnquotedFrom_append (hs.seen ▸ hg), hs.run, Nat.zero_add]

theorem groups_of_shows {s seen : Text} (hs : Shows s seen) (hg : 103 ∉ seen) : groups s = [] := by
  have hfind := findUnquoted?_groups hs hg []
  rw [List.append_nil] at hfind
  rw [groups, hfind]
  rfl

theorem groups_append {s seen : Text} (hs : Shows s seen) (hg : 103 ∉ seen) {ns : List Text}
    (hns : ∀ n ∈ ns, IsPlain n ∧ 44 ∉ n) (rest : Text) :
    groups (s ++ ("groups=[" ++ (nameList ns ++ 93 :: rest))) = ns := by
  have hfind : findUnquotedFrom "groups=[" .outside s.length
      (ofString "groups=[" ++ (nameList ns ++ 93 :: rest)) = some s.length := rfl
  have hsplit : s ++ (ofString "groups=[" ++ (nameList ns ++ 93 :: rest)) =
      (s ++ ofString "groups=") ++ 91 :: (nameList ns ++ 93 :: rest) := by
    rw [List.append_assoc]
    rfl
  have hlen : s.length + 7 = (s ++ ofString "groups=").length := by
    rw [List.length_append]
    rfl
  rw [groups, findUnquoted?_groups hs hg, hfind]
  dsimp only
  rw [hsplit, hlen, inner_nameList, unquote_nameList hns]

/-- Of attributes whose keys do not have the letter that `groups` begins with, it is not seen. -/
theorem shows_attrs {attrs : List (Text × AttrValue)}
    (hkeys : ∀ a ∈ attrs, isWord a.1 ∧ 103 ∉ a.1) :
    ∃ s seen, (∀ more, printAttrs (attrs ++ more) = s ++ printAttrs more) ∧ Shows s seen ∧
      103 ∉ seen := by
  induction attrs with
  | nil => exact ⟨[], [], fun _ => rfl, shows_nil, by simp⟩
  | cons a attrs ih =>
    obtain ⟨s, seen, hprint, hs, hg⟩ := ih fun b hb => hkeys b (List.mem_cons_of_mem a hb)
    obtain ⟨hword, hkey⟩ := hkeys a List.mem_cons_self
    obtain ⟨value, hv, hvalue⟩ := shows_print a.2
    have hblank : Shows [32] [32] := ⟨rfl, rfl⟩
    have hequals : Shows [61] [61] := ⟨rfl, rfl⟩
    have hw : Shows a.1 a.1 :=
      shows_of_no_quote fun c hc => isQuote_of_isIdent (isIdent_of_isWord hword c hc)
    refine ⟨_, _, fun more => ?_, (((hblank.append hw).append hequals).append hv).append hs, ?_⟩
    · rw [List.cons_append, printAttrs_cons, hprint]
      simp
    · have hvalue : 103 ∉ value := fun h => absurd (hvalue 103 h) (by decide)
      simp [hkey, hvalue, hg]

theorem mem_optionalAttr {key : Text} {v : Option AttrValue} {a : Text × AttrValue}
    (h : a ∈ optionalAttr key v) : a.1 = key := by
  simp only [optionalAttr, List.mem_map] at h
  obtain ⟨w, -, rfl⟩ := h
  rfl

theorem placeAttrs_keys (parent : Option Text) (n : NodeDescription) (a : Text × AttrValue)
    (h : a ∈ n.placeAttrs parent) : isWord a.1 ∧ 103 ∉ a.1 := by
  have hkey : a.1 = "name" ∨ a.1 = "type" ∨ a.1 = "parent" := by
    simp only [NodeDescription.placeAttrs, List.mem_cons, List.mem_append] at h
    rcases h with rfl | h | h
    · exact .inl rfl
    · exact .inr (.inl (mem_optionalAttr h))
    · exact .inr (.inr (mem_optionalAttr h))
  rcases hkey with h | h | h <;> rw [h] <;> exact ⟨rfl, by decide⟩

theorem instanceAttrs_keys (n : NodeDescription) (a : Text × AttrValue)
    (h : a ∈ n.instanceAttrs) : isWord a.1 ∧ 103 ∉ a.1 := by
  rw [mem_optionalAttr h]
  exact ⟨rfl, by decide⟩

theorem groups_print {rs : List ExtResource} {n : NodeDescription} (hn : n.WellFormed rs)
    (parent : Option Text) : groups (n.header parent).print = n.groups := by
  obtain ⟨s, seen, hprint, hs, hg⟩ := shows_attrs (placeAttrs_keys parent n)
  have hopen : Shows (91 :: ofString "node") (91 :: ofString "node") := ⟨rfl, rfl⟩
  have hstart := hopen.append hs
  have hletter : 103 ∉ 91 :: ofString "node" ++ seen := by
    rw [List.mem_append, not_or]
    exact ⟨by decide, hg⟩
  by_cases hgroups : n.groups = []
  · obtain ⟨t, seen', hprint', ht, hg'⟩ := shows_attrs (instanceAttrs_keys n)
    have hclose : Shows [93] [93] := ⟨rfl, rfl⟩
    have htext : (n.header parent).print = 91 :: ofString "node" ++ s ++ (t ++ [93]) := by
      have hend := hprint' []
      rw [List.append_nil, printAttrs_nil] at hend
      simp [Header.print_eq, NodeDescription.header, NodeDescription.attrs, hgroups, hprint, hend]
    rw [htext, hgroups]
    exact groups_of_shows (hstart.append (ht.append hclose)) (by simp_all)
  · have hblank : Shows [32] [32] := ⟨rfl, rfl⟩
    have htext : (n.header parent).print = (91 :: ofString "node" ++ s ++ [32]) ++
        (ofString "groups=[" ++ (nameList n.groups ++ 93 :: printAttrs n.instanceAttrs)) := by
      have hattrs : n.attrs parent =
          n.placeAttrs parent ++ (ofString "groups", .names n.groups) :: n.instanceAttrs := by
        simp [NodeDescription.attrs, hgroups]
      rw [Header.print_eq, NodeDescription.header, hattrs, hprint, printAttrs_cons, print_names]
      simp [Text.ofString, String.utf8EncodeChar]
    rw [htext]
    exact groups_append (hstart.append hblank) (by simp_all) hn.groups _

/-! ## References -/

theorem callForm?_print (id : Text) :
    callForm? (AttrValue.resource id).print = some ⟨"ExtResource", literal id⟩ :=
  callForm?_extResource (isArguments_literal id)

/-- A written reference is read as its id. -/
theorem extResourceId?_print {id : Text} (hid : IsPlain id) :
    extResourceId? (AttrValue.resource id).print = some id := by
  have hempty : id.isEmpty = false := by simpa using hid.nonempty
  simp only [extResourceId?, resourceId?, callForm?_print, unquote_literal hid.quote hid.backslash]
  simp [hempty]

/-- A reference to a resource of the file is resolved to its path. -/
theorem instancedPath_print {file : SceneFile} {id : Text} (hid : IsPlain id)
    (hr : ∃ r ∈ file.extResources, r.id = id) :
    instancedPath file (AttrValue.resource id).print = resourcePath file.extResources id := by
  rw [instancedPath, extResourceId?_print hid, Option.bind_some, SceneFile.extResource?,
    resourcePath]
  cases h : file.extResources.find? (·.id == id) with
  | some r => rfl
  | none =>
    obtain ⟨r, hr, hid⟩ := hr
    simp_all [List.find?_eq_none]

/-! ## Properties -/

theorem printProperty_eq (p : Text × Text) : printProperty p = p.1 ++ 32 :: 61 :: 32 :: p.2 := by
  simp [printProperty, Text.ofString, String.utf8EncodeChar]

/-- The line of a property loses at most the blank behind `=` that an empty value leaves. -/
theorem trim_printProperty {key value : Text} (h : IsProperty key value) :
    ∃ rest, trim (printProperty (key, value)) = key ++ 32 :: 61 :: rest ∧ trim rest = value := by
  have hequals : IsTrimmed [61] := rfl
  rw [printProperty_eq]
  by_cases hv : value = []
  · subst hv
    have hkey := isTrimmed_append_blank h.keyTrimmed h.nonempty hequals (by simp)
    exact ⟨[], by simpa using trim_append_blank hkey, rfl⟩
  · have htail := isTrimmed_append_blank hequals (by simp) h.valueTrimmed hv
    exact ⟨32 :: value, isTrimmed_append_blank h.keyTrimmed h.nonempty htail (by simp),
      trim_blank_append h.valueTrimmed⟩

theorem findUnquoted?_property {key : Text} (hequals : 61 ∉ key)
    (hquotes : ∀ c ∈ key, isQuote c = false) (rest : Text) :
    findUnquoted? (key ++ 32 :: 61 :: rest) "=" = some (key.length + 1) := by
  have hkey := shows_of_no_quote hquotes
  have hneedle : (ofString "=") = [61] := rfl
  have hempty : (ofString "=").isEmpty = false := rfl
  rw [findUnquoted?, hempty, hneedle]
  simp only [Bool.false_eq_true, if_false]
  rw [findUnquotedFrom_append (by rwa [hkey.seen]), hkey.run, Nat.zero_add]
  rfl

/-- The state in which the last node is being read. -/
def inNode (file : SceneFile) (ns : List NodeDecl) (node : NodeDecl) (lastKey : Option Text)
    (hasRoot : Bool) : State :=
  { file := { file with nodes := ns ++ [node] }, inNode := true, lastKey, hasRoot }

/-- A written property is added to the node that is being read. -/
theorem next_property {key value : Text} (h : IsProperty key value) (file : SceneFile)
    (ns : List NodeDecl) {node : NodeDecl} (hnew : key ∉ node.properties.map (·.1))
    (lastKey : Option Text) (hasRoot : Bool) (line : Nat) :
    (inNode file ns node lastKey hasRoot).next {} ⟨line, printProperty (key, value)⟩ =
      inNode file ns { node with properties :=
        node.properties ++ [(key, ⟨value, printProperty (key, value)⟩)] } (some key) hasRoot := by
  obtain ⟨rest, htrim, hrest⟩ := trim_printProperty h
  have hfind := findUnquoted?_property h.equals h.quotes rest
  have hempty : (key ++ 32 :: 61 :: rest).isEmpty = false := by simp
  have hstart (c : UInt8) (hc : key.head? ≠ some c) :
      startsWith (key ++ 32 :: 61 :: rest) [c] = false := by
    obtain ⟨d, key, rfl⟩ := List.exists_cons_of_ne_nil h.nonempty
    have hne : c ≠ d := fun heq => hc (by simp [heq])
    simp [startsWith, List.isPrefixOf, hne]
  have hcomment : startsWith (key ++ 32 :: 61 :: rest) ";" = false := hstart 59 h.noComment
  have hheader : startsWith (key ++ 32 :: 61 :: rest) "[" = false := hstart 91 h.noHeader
  have hsplit : key ++ 32 :: 61 :: rest = (key ++ [32]) ++ 61 :: rest := by simp
  have hlen : key.length + 1 = (key ++ [32]).length := by simp
  have htake : trim ((key ++ 32 :: 61 :: rest).take (key.length + 1)) = key := by
    rw [hsplit, hlen, List.take_left, trim_append_blank h.keyTrimmed]
  have hdrop : trim ((key ++ 32 :: 61 :: rest).drop (key.length + 1 + 1)) = value := by
    rw [hsplit, hlen, ← List.drop_drop, List.drop_left]
    exact hrest
  simp only [State.next, htrim, hempty, hcomment, hheader, inNode, State.propertyLine, hfind]
  simp [htake, hdrop, State.setProperty, updateLast_append, putProperty_new hnew]

end GodotSurvey.Scene
