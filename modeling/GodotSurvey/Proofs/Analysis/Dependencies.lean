import GodotSurvey.Analysis.Dependency
import GodotSurvey.Proofs.Script.Bodies
import GodotSurvey.Proofs.Script.Numbering
import Mathlib.Data.List.Induction

/-!
# What is collected of a script

The references of a script are candidates of three passes: the lines in their order, the declared
types, and the default values. Collecting keeps those that name a target, each kind, target and line
where it first occurs (`firstUses`). Whatever pass a candidate is from, it stands on a line of the
source that is not blank: the lines tell it themselves, and the declarations because each of them
starts on such a line.

* `foldl_collect` — collecting keeps the first uses.
* `Found` — where a candidate is from; `found_candidates` — all candidates are found so.
* `ofScript_traced` — **the references of a script are the first uses among its candidates; their
  keys are distinct, and each leads to its source line and to the path that the registry has for it.**
-/

namespace GodotSurvey.Dependency

open Text Script

/-! ## First uses -/

/-- What counts once. -/
def key (d : Dependency) : DependencyKind × Text × Nat := (d.kind, d.target, d.line)

theorem sameKey_iff {a b : Dependency} : sameKey a b = true ↔ a.key = b.key := by
  simp [sameKey, key, and_assoc]

/-- The reference at a place among candidates names a target, and none before has its key. -/
def IsFirstUse (cs : List Dependency) (x : Dependency × Nat) : Prop :=
  x.1.target ≠ [] ∧ ∀ e ∈ cs.take x.2, e.key ≠ x.1.key

instance (cs : List Dependency) : DecidablePred (IsFirstUse cs) := fun x =>
  inferInstanceAs (Decidable (x.1.target ≠ [] ∧ ∀ e ∈ cs.take x.2, e.key ≠ x.1.key))

/-- The candidates that name a target, each key where it first occurs. -/
def firstUses (cs : List Dependency) : List Dependency :=
  (cs.zipIdx.filter fun x => IsFirstUse cs x).map Prod.fst

theorem isFirstUse_append {cs : List Dependency} {x : Dependency × Nat} (h : x.2 ≤ cs.length)
    (ds : List Dependency) : IsFirstUse (cs ++ ds) x ↔ IsFirstUse cs x := by
  rw [IsFirstUse, IsFirstUse, List.take_append_of_le_length h]

theorem firstUses_concat (cs : List Dependency) (d : Dependency) :
    firstUses (cs ++ [d]) =
      if d.target ≠ [] ∧ ∀ e ∈ cs, e.key ≠ d.key then firstUses cs ++ [d] else firstUses cs := by
  have hold : (cs.zipIdx.filter fun x => IsFirstUse (cs ++ [d]) x) =
      cs.zipIdx.filter fun x => IsFirstUse cs x := by
    refine List.filter_congr fun x hx => ?_
    simp only [isFirstUse_append (Nat.le_of_lt (List.snd_lt_of_mem_zipIdx hx))]
  have hnew : IsFirstUse (cs ++ [d]) (d, cs.length) ↔
      d.target ≠ [] ∧ ∀ e ∈ cs, e.key ≠ d.key := by
    rw [isFirstUse_append (Nat.le_refl _), IsFirstUse, List.take_length]
  rw [firstUses, List.zipIdx_append, List.filter_append, List.map_append, hold, ← firstUses,
    List.zipIdx_singleton, Nat.zero_add]
  by_cases h : d.target ≠ [] ∧ ∀ e ∈ cs, e.key ≠ d.key
  · rw [if_pos h, List.filter_cons_of_pos (by simpa using hnew.2 h)]
    rfl
  · rw [if_neg h, List.filter_cons_of_neg (by simpa using fun hd => h (hnew.1 hd))]
    exact List.append_nil _

theorem mem_of_mem_firstUses {cs : List Dependency} {d : Dependency} (h : d ∈ firstUses cs) :
    d ∈ cs ∧ d.target ≠ [] := by
  obtain ⟨x, hx, rfl⟩ := List.mem_map.1 h
  rw [List.mem_filter, decide_eq_true_iff] at hx
  exact ⟨List.fst_mem_of_mem_zipIdx hx.1, hx.2.1⟩

theorem exists_firstUse {cs : List Dependency} {d : Dependency} (h : d ∈ cs)
    (htarget : d.target ≠ []) : ∃ e ∈ firstUses cs, e.key = d.key := by
  induction cs using List.reverseRecOn generalizing d with
  | nil => cases h
  | append_singleton cs c ih =>
    have hkept {d : Dependency} (hd : ∃ e ∈ firstUses cs, e.key = d.key) :
        ∃ e ∈ firstUses (cs ++ [c]), e.key = d.key := by
      obtain ⟨e, he, hkey⟩ := hd
      rw [firstUses_concat]
      split
      · exact ⟨e, List.mem_append_left _ he, hkey⟩
      · exact ⟨e, he, hkey⟩
    rcases List.mem_append.1 h with hd | hd
    · exact hkept (ih hd htarget)
    obtain rfl := List.mem_singleton.1 hd
    by_cases hnew : ∀ e ∈ cs, e.key ≠ d.key
    · rw [firstUses_concat, if_pos ⟨htarget, hnew⟩]
      exact ⟨d, List.mem_append_right _ hd, rfl⟩
    · obtain ⟨e, he, hkey⟩ : ∃ e ∈ cs, e.key = d.key := by simpa using hnew
      refine hkept ?_
      rw [← hkey]
      exact ih he fun hnil => htarget ((congrArg (·.2.1) hkey).symm.trans hnil)

/-- Collecting keeps the first uses. -/
theorem foldl_collect (cs : List Dependency) : cs.foldl collect [] = firstUses cs := by
  induction cs using List.reverseRecOn with
  | nil => rfl
  | append_singleton cs d ih =>
    rw [List.foldl_append, ih, List.foldl_cons, List.foldl_nil, firstUses_concat, collect]
    have hseen (htarget : d.target ≠ []) :
        (firstUses cs).any (sameKey d) = true ↔ ∃ e ∈ cs, e.key = d.key := by
      simp only [List.any_eq_true, sameKey_iff]
      constructor
      · intro ⟨e, he, hkey⟩
        exact ⟨e, (mem_of_mem_firstUses he).1, hkey.symm⟩
      · intro ⟨c, hc, hkey⟩
        obtain ⟨e, he, hkey'⟩ :=
          exists_firstUse hc fun hnil => htarget ((congrArg (·.2.1) hkey).symm.trans hnil)
        exact ⟨e, he, (hkey'.trans hkey).symm⟩
    by_cases htarget : d.target = []
    · simp [htarget]
    · simp only [List.isEmpty_iff, htarget, Bool.or_eq_true, hseen htarget, false_or]
      by_cases h : ∃ e ∈ cs, e.key = d.key
      · rw [if_pos h, if_neg fun hnew => h.elim fun e he => hnew.2 e he.1 he.2]
      · have hnew : ∀ e ∈ cs, e.key ≠ d.key := fun e he hkey => h ⟨e, he, hkey⟩
        rw [if_neg h, if_pos ⟨htarget, hnew⟩]

theorem pairwise_firstUses (cs : List Dependency) :
    (firstUses cs).Pairwise fun a b => a.key ≠ b.key := by
  induction cs using List.reverseRecOn with
  | nil => exact .nil
  | append_singleton cs d ih =>
    rw [firstUses_concat]
    split
    · rename_i hnew
      refine List.pairwise_append.2 ⟨ih, List.pairwise_singleton _ _, fun e he b hb => ?_⟩
      rw [List.mem_singleton.1 hb]
      exact hnew.2 e (mem_of_mem_firstUses he).1
    · exact ih

/-! ## Where candidates are from -/

/-- The reference stands on a line of the script, and a loader or the reader itself knows its
kind. -/
def Found (r : Registry) (loaders : List Loader) (p : Parsed) (d : Dependency) : Prop :=
  ∃ l ∈ p.lines, ∃ kind target, d = candidate r kind (trim l.text) l.number target ∧
    (kind.isKnown = true ∨ ∃ ld ∈ loaders, ld.kind = kind)

variable {r : Registry} {loaders : List Loader} {p : Parsed} {d : Dependency}

theorem found_lineCandidates {self : Text} {l : Line} (hl : l ∈ p.lines)
    (h : d ∈ lineCandidates r loaders self l) : Found r loaders p d := by
  unfold lineCandidates at h
  dsimp only at h
  split at h
  · cases h
  rw [List.mem_append, List.mem_append] at h
  rcases h with (h | h) | h
  · obtain ⟨target, -, rfl⟩ := List.mem_map.1 h
    exact ⟨l, hl, _, target, rfl, .inl rfl⟩
  · obtain ⟨ld, hld, h⟩ := List.mem_flatMap.1 h
    obtain ⟨target, -, rfl⟩ := List.mem_map.1 h
    exact ⟨l, hl, _, target, rfl, .inr ⟨ld, hld, rfl⟩⟩
  · obtain ⟨target, -, rfl⟩ := List.mem_map.1 h
    exact ⟨l, hl, _, target, rfl, .inl rfl⟩

/-- A reference on a line of its number has the text of that line. -/
theorem found_lineText {n : Nat} (hn : ∃ l ∈ p.lines, l.number = n) {kind : DependencyKind}
    (hkind : kind.isKnown = true) (target : Text) :
    Found r loaders p (candidate r kind (lineText p n) n target) := by
  obtain ⟨l, hl, hnumber⟩ := hn
  rw [lineText]
  cases hfind : p.lines.find? (·.number == n) with
  | none => exact absurd hnumber (by simpa using List.find?_eq_none.1 hfind l hl)
  | some k =>
    obtain rfl : k.number = n := by simpa using List.find?_some hfind
    exact ⟨k, List.mem_of_find?_eq_some hfind, kind, target, rfl, .inl hkind⟩

theorem line_of_mem_declaredTypes {decl : ScriptDecl} {type : Text} {n : Nat}
    (h : (type, n) ∈ declaredTypes decl) :
    (∃ v ∈ decl.allVariables, v.line = n) ∨ ∃ m ∈ decl.methods, m.line = n := by
  rw [declaredTypes, List.mem_append] at h
  rcases h with h | h
  · obtain ⟨v, hv, hvar⟩ := List.mem_map.1 h
    exact .inl ⟨v, (List.mem_filter.1 hv).1, congrArg Prod.snd hvar⟩
  · obtain ⟨m, hm, h⟩ := List.mem_flatMap.1 h
    obtain ⟨t, -, hmethod⟩ := List.mem_map.1 h
    exact .inr ⟨m, hm, congrArg Prod.snd hmethod⟩

theorem found_typeCandidates (hp : p.Placed) (h : d ∈ typeCandidates r p) :
    Found r loaders p d := by
  obtain ⟨⟨type, n⟩, htype, h⟩ := List.mem_flatMap.1 h
  obtain ⟨target, -, rfl⟩ := List.mem_map.1 h
  refine found_lineText ?_ rfl target
  rcases line_of_mem_declaredTypes htype with ⟨v, hv, rfl⟩ | ⟨m, hm, rfl⟩
  · exact hp.vars v hv
  · exact hp.methods m hm

theorem found_literalCandidates (hp : p.Placed) (h : d ∈ literalCandidates r p) :
    Found r loaders p d := by
  obtain ⟨v, hv, h⟩ := List.mem_filterMap.1 h
  obtain ⟨target, -, rfl⟩ := Option.map_eq_some_iff.1 h
  exact found_lineText (hp.vars v hv) rfl target

theorem found_candidates (hp : p.Placed) (h : d ∈ candidates r loaders p) :
    Found r loaders p d := by
  rw [candidates, List.mem_append, List.mem_append] at h
  rcases h with (h | h) | h
  · obtain ⟨l, hl, h⟩ := List.mem_flatMap.1 h
    exact found_lineCandidates hl h
  · exact found_typeCandidates hp h
  · exact found_literalCandidates hp h

/-! ## The references of a script -/

/-- The reference is traced to its source line and to the path of what it names. -/
structure Traced (src : Text) (r : Registry) (d : Dependency) : Prop where
  target : d.target ≠ []
  place : ∃ i text, (sourceLines src)[i]? = some text ∧ trim text ≠ [] ∧
    d.line = i + 1 ∧ d.sourceLine = trim text
  path : ∀ path, d.resolvedPath = path ∧ path ≠ [] ↔
    ResourcePath.isResource d.target = false ∧ r.pathOf? d.target = some path

theorem ne_nil_of_pathOf? {name path : Text} (h : r.pathOf? name = some path) : path ≠ [] := by
  unfold Registry.pathOf? at h
  split at h
  · split at h
    · cases h
    · rename_i hpath
      rw [← Option.some.inj h]
      simpa using hpath
  · cases h

theorem candidate_path (kind : DependencyKind) (text : Text) (line : Nat) (target path : Text) :
    (candidate r kind text line target).resolvedPath = path ∧ path ≠ [] ↔
      ResourcePath.isResource target = false ∧ r.pathOf? target = some path := by
  unfold candidate
  dsimp only
  cases hresource : ResourcePath.isResource target with
  | true => simp
  | false =>
    cases hpath : r.pathOf? target with
    | none => simp
    | some known =>
      simp only [Bool.false_eq_true, if_false, Option.getD_some, true_and, Option.some.injEq]
      exact ⟨And.left, fun h => ⟨h, h ▸ ne_nil_of_pathOf? hpath⟩⟩

theorem traced_of_found {src : Text} {opts : Options} (h : Found r loaders (parse src opts) d)
    (htarget : d.target ≠ []) : Traced src r d := by
  obtain ⟨l, hl, kind, target, rfl, -⟩ := h
  rw [parse_lines, List.mem_filter, decide_eq_true_iff] at hl
  obtain ⟨i, hi, htext⟩ := mem_numberedLines hl.1
  exact ⟨htarget, ⟨i, l.text, htext, hl.2, hi, rfl⟩, candidate_path _ _ _ _⟩

/-- No other kind is written like the kind. -/
def IsCanonical (k : DependencyKind) : Prop := DependencyKind.ofName k.name = k

instance : DecidablePred IsCanonical := fun k =>
  inferInstanceAs (Decidable (DependencyKind.ofName k.name = k))

theorem isCanonical_of_isKnown {k : DependencyKind} (h : k.isKnown = true) : IsCanonical k := by
  cases k with
  | other n => cases h
  | _ => decide

theorem isCanonical_of_found (hloaders : ∀ ld ∈ loaders, IsCanonical ld.kind)
    (h : Found r loaders p d) : IsCanonical d.kind := by
  obtain ⟨l, -, kind, target, rfl, hknown | ⟨ld, hld, rfl⟩⟩ := h
  · exact isCanonical_of_isKnown hknown
  · exact hloaders ld hld

/-- The references of a script are the first uses among its candidates. Their keys are distinct,
also when the kinds are written out, and each of them is traced. -/
theorem ofScript_traced (src : Text) (opts : Options) (r : Registry) (loaders : List Loader) :
    let p := parse src opts
    let ds := ofScript r loaders p
    ds = firstUses
      (((numberedLines src).filter fun l => ¬ l.IsBlank).flatMap
          (lineCandidates r loaders p.decl.className)
        ++ typeCandidates r p ++ literalCandidates r p) ∧
    (ds.Pairwise fun a b => (a.kind, a.target, a.line) ≠ (b.kind, b.target, b.line)) ∧
    ((∀ ld ∈ loaders, IsCanonical ld.kind) →
      ds.Pairwise fun a b => (a.kind.name, a.target, a.line) ≠ (b.kind.name, b.target, b.line)) ∧
    ∀ d ∈ ds, Traced src r d := by
  intro p ds
  have hds : ds = firstUses (candidates r loaders p) := foldl_collect _
  have hfound : ∀ d ∈ ds, Found r loaders p d ∧ d.target ≠ [] := by
    intro d hd
    rw [hds] at hd
    obtain ⟨hcandidate, htarget⟩ := mem_of_mem_firstUses hd
    exact ⟨found_candidates (parse_placed src opts) hcandidate, htarget⟩
  have hkeys : ds.Pairwise fun a b => a.key ≠ b.key := hds ▸ pairwise_firstUses _
  refine ⟨?_, hkeys, fun hloaders => ?_, fun d hd => ?_⟩
  · rw [hds, candidates, parse_lines]
  · refine hkeys.imp_of_mem fun {a b} ha hb hne hname => hne ?_
    rw [Prod.mk.injEq] at hname
    have hkind : a.kind = b.kind := by
      rw [← isCanonical_of_found hloaders (hfound a ha).1, hname.1,
        isCanonical_of_found hloaders (hfound b hb).1]
    exact Prod.ext hkind hname.2
  · exact traced_of_found (hfound d hd).1 (hfound d hd).2

/-- A class that is used twice on a line and once as the type of a variable. -/
theorem ofScript_traced_defaultLoaders :
    let src : Text := "var a: Foe = Foe.new(Foe.size)\nvar icon = preload(\"res://icon.svg\")\n"
    let r := Registry.ofClasses [{ name := "Foe", path := "res://foe.gd" }] "scan"
    let ds := ofScript r defaultLoaders (parse src {})
    (∀ ld ∈ defaultLoaders, IsCanonical ld.kind) ∧
    ds.map (fun d => (d.kind.name, d.target, d.line)) =
      [(Text.ofString "class_reference", Text.ofString "Foe", 1),
        (Text.ofString "preload", Text.ofString "res://icon.svg", 2),
        (Text.ofString "type_hint", Text.ofString "Foe", 1)] ∧
    ds.Pairwise fun a b => (a.kind.name, a.target, a.line) ≠ (b.kind.name, b.target, b.line) := by
  intro src r ds
  have hloaders : ∀ ld ∈ defaultLoaders, IsCanonical ld.kind := by decide +kernel
  exact ⟨hloaders, by decide +kernel,
    (ofScript_traced src {} r defaultLoaders).2.2.1 hloaders⟩

end GodotSurvey.Dependency
