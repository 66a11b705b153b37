import GodotSurvey.Proofs.Analysis.Dependencies
import GodotSurvey.Proofs.Lexing.Comment
import GodotSurvey.Proofs.Script.ClassHeader
import GodotSurvey.Proofs.Script.Word
import GodotSurvey.Proofs.Text.Search

/-!
# The base class as a reference

The base class of a script is read twice: by the reader of scripts, and from the same line by the
search for references. The reader takes any byte that cannot belong to a name for the end of a
keyword, the search wants a blank behind it. So the base class is among the references of the script
if its line is spelled with blanks, and its line gives none if it is not.

* `baseTarget?_eq_some` — with a blank behind the keyword, both read the same base.
* `lineCandidates_eq` — what the search reads on a top-level line.
* `base_referenced` — **the base class is a reference of the script, on the last line that names
  one, if that line has a blank behind its keyword.**
-/

namespace GodotSurvey.Dependency

open Text Lexing Script

/-! ## Cutting behind a prefix -/

theorem find?_class_name {w t : Text} (hw : ∀ c ∈ w, isSolid c = false)
    (ht : startsWith t "extends " = false) :
    find? ("class_name" ++ (w ++ t)) " extends " =
      (find? t " extends ").map (· + ("class_name" ++ w : Text).length) := by
  have hneedle : Text.ofString " extends " = 32 :: 101 :: "xtends " := by decide
  have hextends : Text.ofString "extends " = 101 :: "xtends " := by decide
  have hname : (32 : UInt8) ∉ Text.ofString "class_name" := by decide
  rw [hextends] at ht
  rw [find?, find?, hneedle, findFrom_append_of_not_mem hname,
    findFrom_append_of_not_isSolid (by decide) hw ht, ← findFrom_add, List.length_append,
    Nat.zero_add, Nat.zero_add]

/-- The base behind `class_name`, white space and a name is cut out of the whole line as it is cut
out of what follows the white space. -/
theorem cut?_class_name {w t : Text} (hw : ∀ c ∈ w, isSolid c = false)
    (ht : startsWith t "extends " = false) :
    (cut? ("class_name" ++ (w ++ t)) " extends ").map (·.2) = (cut? t " extends ").map (·.2) := by
  have hfind := find?_class_name hw ht
  rw [← List.append_assoc] at hfind ⊢
  exact cut?_of_find? hfind

/-! ## Two readers of a base -/

theorem baseName_blank (s : Text) : baseName (32 :: s) = baseName s := by
  rw [baseName, baseName, trim, trimStart_blank, ← trim]

/-- A base is named behind `extends`, or behind `class_name` and a name. -/
theorem headerPart_base_cases {l : Line} {base : Text} (h : l.headerPart.base = some base) :
    (∃ rest, l.code = "extends" ++ rest ∧ base = baseName rest) ∨
      ∃ rest cut, l.code = "class_name" ++ rest ∧ cut? (trim rest) " extends " = some cut ∧
        base = baseName cut.2 := by
  unfold Line.headerPart at h
  split at h
  · cases h
  · split at h
    · rename_i rest hname
      unfold classNamePart at h
      split at h
      · rename_i names base' hcut
        exact .inr ⟨rest, (names, base'), eq_append_of_afterKeyword? hname, hcut,
          (Option.some.inj h).symm⟩
      · cases h
    · split at h
      · rename_i rest hextends
        exact .inl ⟨rest, eq_append_of_afterKeyword? hextends, (Option.some.inj h).symm⟩
      · split at h
        · cases h
        · split at h <;> cases h

/-- A blank stands behind the keyword of the line, and no `extends` straight behind
`class_name`. -/
def SpellsBase (l : Line) : Prop :=
  startsWith l.code "extends " = true ∨
    startsWith l.code "class_name " = true ∧
      startsWith (trim (l.code.drop 11)) "extends " = false

instance (l : Line) : Decidable (SpellsBase l) := by
  unfold SpellsBase
  infer_instance

theorem extends_ne_class_name (r r' : Text) : ("extends" ++ r : Text) ≠ "class_name" ++ r' := by
  intro heq
  have hhead : some (101 : UInt8) = some 99 := congrArg List.head? heq
  exact absurd hhead (by decide)

theorem baseTarget?_extends {rest : Text} (hbase : baseName rest ≠ []) :
    baseTarget? ("extends " ++ rest) = some (baseName rest) := by
  simp only [baseTarget?, dropStart?_eq_some_iff.2 rfl, List.isEmpty_iff, hbase, if_false]

/-- Behind `class_name`, the base is cut out of the whole line as it is cut out of the rest without
the white space before it. -/
theorem baseTarget?_class_name {rest : Text} {cut : Text × Text}
    (htrimmed : IsTrimmed ("class_name " ++ rest))
    (hfirst : startsWith (trim rest) "extends " = false)
    (hcut : cut? (trim rest) " extends " = some cut) (hbase : baseName cut.2 ≠ []) :
    baseTarget? ("class_name " ++ rest) = some (baseName cut.2) := by
  obtain ⟨w, hw, hsplit, -⟩ := exists_white_trimStart rest
  rw [← htrimmed.trim_of_append] at hsplit
  have hblank : ∀ c ∈ 32 :: w, isSolid c = false := by
    intro c hc
    rcases List.mem_cons.1 hc with rfl | hc
    · decide
    · exact hw.not_isSolid c hc
  have hwhole : ("class_name " ++ rest : Text) = "class_name" ++ ((32 :: w) ++ trim rest) := by
    rw [List.cons_append, ← hsplit]
    rfl
  have hsame := cut?_class_name hblank hfirst
  rw [← hwhole, hcut, Option.map_some] at hsame
  have hkeyword : dropStart? ("class_name " ++ rest) "extends " = none :=
    Option.eq_none_iff_forall_ne_some.2 fun r hr =>
      extends_ne_class_name _ _ (dropStart?_eq_some_iff.1 hr).symm
  have hname : startsWith ("class_name " ++ rest) "class_name " = true := startsWith_iff.2 ⟨_, rfl⟩
  simp only [baseTarget?, hkeyword, hname, if_true, hsame, List.isEmpty_iff, hbase, if_false]

/-- With a blank behind the keyword, the search for references reads the base that the line
names. -/
theorem baseTarget?_eq_some {l : Line} {base : Text} (h : l.headerPart.base = some base)
    (hbase : base ≠ []) (hl : SpellsBase l) : baseTarget? l.code = some base := by
  have htrimmed : IsTrimmed l.code := isTrimmed_trim _
  rcases hl with hl | ⟨hl, hfirst⟩
  · obtain ⟨rest, hrest⟩ := startsWith_iff.1 hl
    rcases headerPart_base_cases h with ⟨rest', hcode, rfl⟩ | ⟨rest', -, hcode, -⟩
    · obtain rfl : rest' = 32 :: rest := List.append_cancel_left (hcode.symm.trans hrest)
      rw [baseName_blank] at hbase ⊢
      rw [hrest]
      exact baseTarget?_extends hbase
    · exact absurd (hrest.symm.trans hcode) (extends_ne_class_name _ _)
  · obtain ⟨rest, hrest⟩ := startsWith_iff.1 hl
    rcases headerPart_base_cases h with ⟨rest', hcode, -⟩ | ⟨rest', cut, hcode, hcut, rfl⟩
    · exact absurd (hcode.symm.trans hrest) (extends_ne_class_name _ _)
    · obtain rfl : rest' = 32 :: rest := List.append_cancel_left (hcode.symm.trans hrest)
      have hdrop : l.code.drop 11 = rest := congrArg (List.drop 11) hrest
      rw [hdrop] at hfirst
      rw [trim, trimStart_blank, ← trim] at hcut
      rw [hrest] at htrimmed ⊢
      exact baseTarget?_class_name htrimmed hfirst hcut hbase

/-- Without a blank behind a keyword, the search for references reads no base. -/
theorem baseTarget?_eq_none {code : Text} (hextends : startsWith code "extends " = false)
    (hname : startsWith code "class_name " = false) : baseTarget? code = none := by
  have hkeyword : dropStart? code "extends " = none := by
    rw [Option.eq_none_iff_forall_ne_some]
    intro r hr
    rw [startsWith_iff.2 ⟨r, dropStart?_eq_some_iff.1 hr⟩] at hextends
    cases hextends
  simp [baseTarget?, hkeyword, hname]

/-! ## The references on a line -/

theorem stripComment_prefix (s : Text) : stripComment s <+: s := by
  unfold stripComment
  split
  · exact List.take_prefix _ _
  · exact List.prefix_refl _

theorem indent_stripComment {s : Text} (h : indent s = 0) : indent (stripComment s) = 0 := by
  obtain ⟨t, ht⟩ := stripComment_prefix s
  cases hs : stripComment s with
  | nil => rfl
  | cons c r =>
    rw [hs, List.cons_append] at ht
    rw [← ht, indent] at h
    rw [indent]
    by_cases hc : isBlank c = true
    · rw [List.takeWhile_cons_of_pos hc] at h
      cases h
    · rw [List.takeWhile_cons_of_neg hc]
      rfl

variable {r : Registry} {loaders : List Loader} {p : Parsed} {d : Dependency}

/-- On a top-level line, the search for references starts with the base read from the same code that
the reader of scripts has. -/
theorem lineCandidates_eq {self : Text} {l : Line} (htop : l.IsTop) (hcode : l.code ≠ []) :
    lineCandidates r loaders self l =
      (baseTarget? l.code).toList.map (candidate r .inheritance (trim l.text) l.number)
        ++ loaders.flatMap (fun ld => (quotedArgs (stripComment l.text) ld.name ld.allowDot).map
            (candidate r ld.kind (trim l.text) l.number))
        ++ ((usedClasses r (stripComment l.text)).filter (· != self)).map
            (candidate r .classReference (trim l.text) l.number) := by
  have htrim : trim (stripComment l.text) = l.code := l.code_eq.symm
  have hspace : isSpace (stripComment l.text) = false := by
    cases hs : isSpace (stripComment l.text) with
    | false => rfl
    | true =>
      rw [isSpace, List.isEmpty_iff] at hs
      rw [trim, hs] at htrim
      exact absurd htrim.symm hcode
  have hindent : (indent (stripComment l.text) == 0) = true := by
    rw [indent_stripComment htop.start]
    rfl
  unfold lineCandidates
  simp only [hspace, hindent, htrim, if_true, Bool.false_eq_true, if_false]

/-- A reference of kind inheritance is the base that is read on its line. -/
theorem baseTarget?_of_mem {l : Line} {self : Text} (htop : l.IsTop) (hcode : l.code ≠ [])
    (hloaders : ∀ ld ∈ loaders, ld.kind ≠ .inheritance) (h : d ∈ lineCandidates r loaders self l)
    (hkind : d.kind = .inheritance) : baseTarget? l.code = some d.target := by
  rw [lineCandidates_eq htop hcode, List.mem_append, List.mem_append] at h
  rcases h with (h | h) | h
  · obtain ⟨target, htarget, rfl⟩ := List.mem_map.1 h
    exact Option.mem_toList.1 htarget
  · obtain ⟨ld, hld, h⟩ := List.mem_flatMap.1 h
    obtain ⟨target, -, rfl⟩ := List.mem_map.1 h
    exact absurd hkind (hloaders ld hld)
  · obtain ⟨target, -, rfl⟩ := List.mem_map.1 h
    cases hkind

/-- The other passes find no base. -/
theorem mem_lineCandidates_of_inheritance (h : d ∈ candidates r loaders p)
    (hkind : d.kind = .inheritance) :
    ∃ l ∈ p.lines, d ∈ lineCandidates r loaders p.decl.className l := by
  rw [candidates, List.mem_append, List.mem_append] at h
  rcases h with (h | h) | h
  · exact List.mem_flatMap.1 h
  · obtain ⟨type, -, h⟩ := List.mem_flatMap.1 h
    obtain ⟨target, -, rfl⟩ := List.mem_map.1 h
    cases hkind
  · obtain ⟨v, -, h⟩ := List.mem_filterMap.1 h
    obtain ⟨target, -, rfl⟩ := Option.map_eq_some_iff.1 h
    cases hkind

theorem line_of_mem_lineCandidates {self : Text} {l : Line}
    (h : d ∈ lineCandidates r loaders self l) : d.line = l.number := by
  obtain ⟨l', hl', kind, target, rfl, -⟩ :=
    found_lineCandidates (p := { lines := [l] }) List.mem_cons_self h
  rw [List.mem_singleton.1 hl']
  rfl

/-! ## The base of a script -/

theorem mem_topLines {methods : Bool} {src : Text} {l : Line} (h : l ∈ topLines methods src) :
    l ∈ numberedLines src ∧ l.IsTop := by
  have hmem : l ∈ (numberedLines src).filter fun l => l.IsTop := by
    cases methods with
    | true => exact (topLinesFrom_sublist none _).subset h
    | false => rwa [← topLines_false]
  rw [List.mem_filter, decide_eq_true_iff] at hmem
  exact hmem

theorem eq_of_number {src : Text} {l l' : Line} (h : l ∈ numberedLines src)
    (h' : l' ∈ numberedLines src) (hnumber : l.number = l'.number) : l = l' := by
  obtain ⟨i, hi, htext⟩ := mem_numberedLines h
  obtain ⟨j, hj, htext'⟩ := mem_numberedLines h'
  have hij : i = j := by omega
  rw [hij, htext'] at htext
  cases l
  cases l'
  rw [Line.mk.injEq]
  exact ⟨hnumber, (Option.some.inj htext).symm⟩

/-- The last line that names something is the one that counts. -/
theorem exists_last {α β : Type} (f : α → Option β) (as : List α) (b : β) :
    (as.filterMap f).getLastD b = b ∨
      ∃ before a after, as = before ++ a :: after ∧ f a = some ((as.filterMap f).getLastD b) ∧
        ∀ a' ∈ after, f a' = none := by
  induction as using List.reverseRecOn with
  | nil => exact .inl rfl
  | append_singleton as a ih =>
    rw [List.filterMap_append]
    cases ha : f a with
    | some c =>
      rw [List.filterMap_cons_some ha, List.filterMap_nil, List.getLastD_concat]
      exact .inr ⟨as, a, [], rfl, ha, by simp⟩
    | none =>
      rw [List.filterMap_cons_none ha, List.filterMap_nil, List.append_nil]
      refine ih.imp_right fun ⟨before, a', after, has, hf, hafter⟩ => ?_
      refine ⟨before, a', after ++ [a], by rw [has, List.append_assoc, List.cons_append], hf, ?_⟩
      intro c hc
      rcases List.mem_append.1 hc with hc | hc
      · exact hafter c hc
      · rwa [List.mem_singleton.1 hc]

/-- The base class of a script is a reference of kind inheritance if the last line that names one is
spelled with a blank behind its keyword. If it is not, that line gives no such reference. -/
theorem base_referenced (src : Text) (opts : Options) (r : Registry) (loaders : List Loader)
    (h : (parse src opts).decl.base ≠ []) :
    let p := parse src opts
    ∃ before l after, topLines opts.methods src = before ++ l :: after ∧
      l.headerPart.base = some p.decl.base ∧ (∀ k ∈ after, k.headerPart.base = none) ∧
      (SpellsBase l → ∃ d ∈ ofScript r loaders p,
        d.kind = .inheritance ∧ d.target = p.decl.base ∧ d.line = l.number) ∧
      (startsWith l.code "extends " = false → startsWith l.code "class_name " = false →
        (∀ ld ∈ loaders, ld.kind ≠ .inheritance) →
          ∀ d ∈ ofScript r loaders p, d.line = l.number → d.kind ≠ .inheritance) := by
  intro p
  obtain ⟨before, l, after, hlines, hl, hafter⟩ :=
    (exists_last (·.headerPart.base) (topLines opts.methods src) []).resolve_left
      (parse_base src opts ▸ h)
  rw [← parse_base] at hl
  have hcode : l.code ≠ [] := by
    intro hnil
    rcases headerPart_base_cases hl with ⟨rest, hrest, -⟩ | ⟨rest, -, hrest, -⟩ <;>
      rw [hnil] at hrest <;> cases hrest
  obtain ⟨hmem, htop⟩ := mem_topLines (hlines ▸ List.mem_append_right _ List.mem_cons_self)
  have hseen : l ∈ p.lines := by
    rw [parse_lines, List.mem_filter, decide_eq_true_iff]
    exact ⟨hmem, htop.nonblank⟩
  have huses : ofScript r loaders p = firstUses (candidates r loaders p) := foldl_collect _
  refine ⟨before, l, after, hlines, hl, hafter, fun hspells => ?_, fun hextends hname hloaders => ?_⟩
  · have htarget := baseTarget?_eq_some hl h hspells
    have hcandidate : candidate r .inheritance (trim l.text) l.number p.decl.base ∈
        candidates r loaders p := by
      refine List.mem_append_left _ (List.mem_append_left _ (List.mem_flatMap.2 ⟨l, hseen, ?_⟩))
      rw [lineCandidates_eq htop hcode, htarget]
      exact List.mem_append_left _ (List.mem_append_left _ List.mem_cons_self)
    obtain ⟨d, hd, hkey⟩ := exists_firstUse hcandidate h
    exact ⟨d, huses ▸ hd, congrArg (·.1) hkey, congrArg (·.2.1) hkey, congrArg (·.2.2) hkey⟩
  · intro d hd hline hkind
    rw [huses] at hd
    obtain ⟨k, hk, hdk⟩ :=
      mem_lineCandidates_of_inheritance (mem_of_mem_firstUses hd).1 hkind
    rw [parse_lines, List.mem_filter] at hk
    have hkl : k = l :=
      eq_of_number hk.1 hmem ((line_of_mem_lineCandidates hdk).symm.trans hline)
    have htarget := baseTarget?_of_mem htop hcode hloaders (hkl ▸ hdk) hkind
    rw [baseTarget?_eq_none hextends hname] at htarget
    cases htarget

/-- A script with its base behind a blank. -/
def blankScript : Text := "extends Node\nclass_name Hero extends Node2D\n"

/-- A script with its base behind a tab. -/
def tabScript : Text := "extends\tNode2D\n"

theorem base_referenced_blankScript :
    (∃ d ∈ ofScript .empty defaultLoaders (parse blankScript {}),
      d.kind = .inheritance ∧ d.target = Text.ofString "Node2D") ∧
    ∃ l ∈ numberedLines tabScript, ∀ d ∈ ofScript .empty defaultLoaders (parse tabScript {}),
      d.line = l.number → d.kind ≠ .inheritance := by
  have hblank : (parse blankScript {}).decl.base = Text.ofString "Node2D" := by decide +kernel
  have htab : (parse tabScript {}).decl.base ≠ [] := by decide +kernel
  have hspells : ∀ l ∈ topLines true blankScript, SpellsBase l := by decide +kernel
  have htabs : ∀ l ∈ topLines true tabScript, startsWith l.code "extends " = false ∧
      startsWith l.code "class_name " = false := by decide +kernel
  constructor
  · obtain ⟨before, l, after, hlines, -, -, hfound, -⟩ :=
      base_referenced blankScript {} .empty defaultLoaders (by rw [hblank]; decide)
    have hl : l ∈ topLines true blankScript := hlines ▸ List.mem_append_right _ List.mem_cons_self
    obtain ⟨d, hd, hkind, htarget, -⟩ := hfound (hspells l hl)
    exact ⟨d, hd, hkind, htarget.trans hblank⟩
  · obtain ⟨before, l, after, hlines, -, -, -, hmissing⟩ :=
      base_referenced tabScript {} .empty defaultLoaders htab
    have hl : l ∈ topLines true tabScript := hlines ▸ List.mem_append_right _ List.mem_cons_self
    exact ⟨l, (mem_topLines hl).1, hmissing (htabs l hl).1 (htabs l hl).2 (by decide)⟩

/-- The base behind a tab is no reference of the script. -/
theorem base_unreferenced_tabScript :
    (parse tabScript {}).decl.base = "Node2D" ∧
      ∀ d ∈ ofScript .empty defaultLoaders (parse tabScript {}), d.kind ≠ .inheritance := by
  decide +kernel

end GodotSurvey.Dependency
