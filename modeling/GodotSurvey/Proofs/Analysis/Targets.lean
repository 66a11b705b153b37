import GodotSurvey.Proofs.Analysis.Dependencies
import GodotSurvey.Proofs.Lexing.Argument

/-!
# What names a reference

The path or class that a loading call refers to is the literal its arguments begin with, and a
default value that begins and ends with the same quote is a path without them. Neither reader looks
at what follows the literal: an expression that only begins with one is taken for it.

* `exists_loadedBy`, `exists_heldBy` — what the targets are read from.
* `ofScript_targets` — **every target is the content of literals of this form, and none is a part of
  an expression exactly if each of them is one literal as a whole.**
-/

namespace GodotSurvey.Dependency

open Text Lexing Script

/-! ## Sources of targets -/

/-- The kinds that only loaders give. -/
def IsLoading (k : DependencyKind) : Prop :=
  k ≠ .inheritance ∧ k ≠ .classReference ∧ k ≠ .typeHint ∧ k ≠ .literalResource

instance : DecidablePred IsLoading := fun _ => inferInstanceAs (Decidable (_ ∧ _ ∧ _ ∧ _))

/-- The call of a loader on a line names the reference. -/
structure LoadedBy (l : Line) (ld : Loader) (c : LiteralCall) (d : Dependency) : Prop where
  call : c.print ld.name = stripComment l.text
  isOf : c.IsOf ld.allowDot
  kind : d.kind = ld.kind
  line : d.line = l.number
  target : d.target = unescape c.content

/-- The default of a variable, without an `@` before it, stands between two equal quotes and names
the reference. -/
structure HeldBy (v : VariableDecl) (q : UInt8) (d : Dependency) : Prop where
  quote : isQuote q = true
  default : stripStart (trim v.default) "@" = q :: (d.target ++ [q])
  line : d.line = v.line
  resource : ResourcePath.isResource d.target = true

section

variable {r : Registry} {loaders : List Loader} {p : Parsed} {d : Dependency}

/-- What a loader finds on a line. -/
theorem mem_loaders_of_lineCandidates {self : Text} {l : Line}
    (h : d ∈ lineCandidates r loaders self l)
    (hkind : d.kind ≠ .inheritance ∧ d.kind ≠ .classReference) :
    ∃ ld ∈ loaders, ∃ a ∈ quotedArgs (stripComment l.text) ld.name ld.allowDot,
      d = candidate r ld.kind (trim l.text) l.number a := by
  unfold lineCandidates at h
  dsimp only at h
  split at h
  · cases h
  rw [List.mem_append, List.mem_append] at h
  rcases h with (h | h) | h
  · obtain ⟨target, -, rfl⟩ := List.mem_map.1 h
    exact absurd rfl hkind.1
  · obtain ⟨ld, hld, h⟩ := List.mem_flatMap.1 h
    obtain ⟨a, ha, rfl⟩ := List.mem_map.1 h
    exact ⟨ld, hld, a, ha, rfl⟩
  · obtain ⟨target, -, rfl⟩ := List.mem_map.1 h
    exact absurd rfl hkind.2

/-- A line on which a call is found is not blank. -/
theorem not_isSpace_of_mem_quotedArgs {line name a : Text} {allowDot : Bool}
    (h : a ∈ quotedArgs line name allowDot) : isSpace line = false := by
  obtain ⟨c, rfl, -, -⟩ := exists_of_mem_quotedArgs h
  have hparen : isSolid 40 = true := by decide
  exact isSpace_of_mem hparen (by simp [LiteralCall.print])

theorem candidate_mem_lineCandidates {self : Text} {l : Line} {ld : Loader} (hld : ld ∈ loaders)
    {a : Text} (ha : a ∈ quotedArgs (stripComment l.text) ld.name ld.allowDot) :
    candidate r ld.kind (trim l.text) l.number a ∈ lineCandidates r loaders self l := by
  unfold lineCandidates
  dsimp only
  rw [if_neg (by simp [not_isSpace_of_mem_quotedArgs ha]), List.mem_append, List.mem_append]
  exact .inl (.inr (List.mem_flatMap.2 ⟨ld, hld, List.mem_map_of_mem ha⟩))

/-- A default is read exactly if it stands between two equal quotes and is a path. -/
theorem resourceLiteral?_eq_some_iff {value path : Text} :
    resourceLiteral? value = some path ↔
      ∃ q, isQuote q = true ∧ stripStart (trim value) "@" = q :: (path ++ [q]) ∧
        ResourcePath.isResource path = true := by
  rw [resourceLiteral?]
  generalize stripStart (trim value) "@" = v
  constructor
  · intro h
    match v with
    | [] => cases h
    | [_] => cases h
    | q :: e :: t =>
      dsimp only at h
      split at h
      · rename_i hquotes
        simp only [Bool.and_eq_true, beq_iff_eq] at hquotes
        obtain ⟨⟨hq, hlast⟩, hresource⟩ := hquotes
        obtain ⟨u, d, hu⟩ := (List.eq_nil_or_concat (e :: t)).resolve_left (by simp)
        rw [List.concat_eq_append] at hu
        obtain rfl : d = q := by
          rw [hu, List.getLast?_cons, List.getLast?_concat] at hlast
          exact Option.some.inj hlast
        rw [hu, unquote_quoted hq] at h hresource
        obtain rfl := Option.some.inj h
        exact ⟨d, hq, by rw [hu], hresource⟩
      · cases h
  · rintro ⟨q, hq, rfl, hresource⟩
    obtain ⟨e, t, het⟩ := List.exists_cons_of_ne_nil (l := path ++ [q]) (by simp)
    have hlast : (q :: e :: t).getLast? = some q := by
      rw [← het, ← List.cons_append, List.getLast?_concat]
    have hunquote := unquote_quoted hq path
    rw [het] at hunquote ⊢
    simp [hq, hlast, hunquote, hresource]

/-! ## The references of a script -/

/-- A reference of a loading kind is an argument that is found on a line. -/
theorem exists_argument (h : d ∈ ofScript r loaders p) (hkind : IsLoading d.kind) :
    d.target ≠ [] ∧ ∃ l ∈ p.lines, ∃ ld ∈ loaders,
      ∃ a ∈ quotedArgs (stripComment l.text) ld.name ld.allowDot,
        d = candidate r ld.kind (trim l.text) l.number a := by
  rw [ofScript, foldl_collect] at h
  obtain ⟨hcandidate, htarget⟩ := mem_of_mem_firstUses h
  refine ⟨htarget, ?_⟩
  rw [candidates, List.mem_append, List.mem_append] at hcandidate
  rcases hcandidate with (h | h) | h
  · obtain ⟨l, hl, h⟩ := List.mem_flatMap.1 h
    exact ⟨l, hl, mem_loaders_of_lineCandidates h ⟨hkind.1, hkind.2.1⟩⟩
  · obtain ⟨⟨type, n⟩, -, h⟩ := List.mem_flatMap.1 h
    obtain ⟨target, -, rfl⟩ := List.mem_map.1 h
    exact absurd rfl hkind.2.2.1
  · obtain ⟨v, -, h⟩ := List.mem_filterMap.1 h
    obtain ⟨target, -, rfl⟩ := Option.map_eq_some_iff.1 h
    exact absurd rfl hkind.2.2.2

/-- A literal resource is a default that is read, if no loader gives that kind. -/
theorem exists_default (hloaders : ∀ ld ∈ loaders, IsLoading ld.kind)
    (h : d ∈ ofScript r loaders p) (hkind : d.kind = .literalResource) :
    ∃ v ∈ p.decl.allVariables, resourceLiteral? v.default = some d.target ∧ d.line = v.line := by
  rw [ofScript, foldl_collect] at h
  have hcandidate := (mem_of_mem_firstUses h).1
  rw [candidates, List.mem_append, List.mem_append] at hcandidate
  rcases hcandidate with (h | h) | h
  · obtain ⟨l, hl, h⟩ := List.mem_flatMap.1 h
    obtain ⟨ld, hld, a, -, rfl⟩ := mem_loaders_of_lineCandidates h (by simp [hkind])
    exact absurd hkind (hloaders ld hld).2.2.2
  · obtain ⟨⟨type, n⟩, -, h⟩ := List.mem_flatMap.1 h
    obtain ⟨target, -, rfl⟩ := List.mem_map.1 h
    cases hkind
  · obtain ⟨v, hv, h⟩ := List.mem_filterMap.1 h
    obtain ⟨target, htarget, rfl⟩ := Option.map_eq_some_iff.1 h
    exact ⟨v, hv, htarget, rfl⟩

/-- Every reference of a loading kind is named by a call of a loader of its kind. -/
theorem exists_loadedBy (h : d ∈ ofScript r loaders p) (hkind : IsLoading d.kind) :
    ∃ l ∈ p.lines, ∃ ld ∈ loaders, ∃ c, LoadedBy l ld c d := by
  obtain ⟨-, l, hl, ld, hld, a, ha, rfl⟩ := exists_argument h hkind
  obtain ⟨c, hcall, hof, rfl⟩ := exists_of_mem_quotedArgs ha
  exact ⟨l, hl, ld, hld, c, hcall, hof, rfl, rfl, rfl⟩

/-- Every literal resource is held by a variable. -/
theorem exists_heldBy (hloaders : ∀ ld ∈ loaders, IsLoading ld.kind)
    (h : d ∈ ofScript r loaders p) (hkind : d.kind = .literalResource) :
    ∃ v ∈ p.decl.allVariables, ∃ q, HeldBy v q d := by
  obtain ⟨v, hv, hread, hline⟩ := exists_default hloaders h hkind
  obtain ⟨q, hq, hdefault, hresource⟩ := resourceLiteral?_eq_some_iff.1 hread
  exact ⟨v, hv, q, hq, hdefault, hline, hresource⟩

/-! ## Whole literals -/

/-- The reference is named by one literal as a whole: the first argument of a call, or a default. -/
structure NamedWhole (loaders : List Loader) (p : Parsed) (d : Dependency) : Prop where
  loaded : IsLoading d.kind →
    ∃ l ∈ p.lines, ∃ ld ∈ loaders, ∃ c, LoadedBy l ld c d ∧ c.IsWhole
  held : d.kind = .literalResource →
    ∃ v ∈ p.decl.allVariables, ∃ q, HeldBy v q d ∧ IsLiteral q d.target

/-- What is found on the lines and in the defaults of a script, a literal as a whole is there for
it. -/
structure ReadsWhole (loaders : List Loader) (p : Parsed) : Prop where
  arguments : ∀ l ∈ p.lines, ∀ ld ∈ loaders,
    ∀ a ∈ quotedArgs (stripComment l.text) ld.name ld.allowDot, a ≠ [] →
      ∃ other ∈ loaders, other.kind = ld.kind ∧ ∃ c : LiteralCall,
        c.print other.name = stripComment l.text ∧ c.IsOf other.allowDot ∧ c.IsWhole ∧
          unescape c.content = a
  defaults : ∀ v ∈ p.decl.allVariables, ∀ path, resourceLiteral? v.default = some path →
    ∃ other ∈ p.decl.allVariables, other.line = v.line ∧ ∃ q,
      stripStart (trim other.default) "@" = q :: (path ++ [q]) ∧ IsLiteral q path

theorem namedWhole_of_readsWhole (hloaders : ∀ ld ∈ loaders, IsLoading ld.kind)
    (hwhole : ReadsWhole loaders p) (h : d ∈ ofScript r loaders p) : NamedWhole loaders p d := by
  constructor
  · intro hkind
    obtain ⟨htarget, l, hl, ld, hld, a, ha, rfl⟩ := exists_argument h hkind
    obtain ⟨other, hother, hkinds, c, hcall, hof, hc, rfl⟩ :=
      hwhole.arguments l hl ld hld a ha htarget
    exact ⟨l, hl, other, hother, c, ⟨hcall, hof, hkinds.symm, rfl, rfl⟩, hc⟩
  · intro hkind
    obtain ⟨v, hv, hread, hline⟩ := exists_default hloaders h hkind
    obtain ⟨-, -, -, hresource⟩ := resourceLiteral?_eq_some_iff.1 hread
    obtain ⟨other, hother, hlines, q, hdefault, hliteral⟩ := hwhole.defaults v hv _ hread
    exact ⟨other, hother, q, ⟨hliteral.1, hdefault, hline.trans hlines.symm, hresource⟩, hliteral⟩

/-- What is read of the script stands for a reference with its kind, target and line. -/
theorem exists_mem_ofScript (h : d ∈ candidates r loaders p) (htarget : d.target ≠ []) :
    ∃ e ∈ ofScript r loaders p, e.kind = d.kind ∧ e.target = d.target ∧ e.line = d.line := by
  obtain ⟨e, he, hkey⟩ := exists_firstUse h htarget
  rw [key, key, Prod.mk.injEq, Prod.mk.injEq] at hkey
  rw [ofScript, foldl_collect]
  exact ⟨e, he, hkey⟩

theorem readsWhole_of_namedWhole
    (hlines : ∀ l ∈ p.lines, ∀ k ∈ p.lines, k.number = l.number → k = l)
    (hloaders : ∀ ld ∈ loaders, IsLoading ld.kind)
    (hnamed : ∀ d ∈ ofScript r loaders p, NamedWhole loaders p d) : ReadsWhole loaders p := by
  constructor
  · intro l hl ld hld a ha hne
    have hmem : candidate r ld.kind (trim l.text) l.number a ∈ candidates r loaders p := by
      rw [candidates, List.mem_append, List.mem_append]
      exact .inl (.inl (List.mem_flatMap.2 ⟨l, hl, candidate_mem_lineCandidates hld ha⟩))
    obtain ⟨e, he, hkind, htarget, hline⟩ := exists_mem_ofScript hmem hne
    have hloading : IsLoading e.kind := hkind ▸ hloaders ld hld
    obtain ⟨k, hk, other, hother, c, hc, hwhole⟩ := (hnamed e he).loaded hloading
    obtain rfl : k = l := hlines l hl k hk (hc.line.symm.trans hline)
    exact ⟨other, hother, hc.kind.symm.trans hkind, c, hc.call, hc.isOf, hwhole,
      hc.target.symm.trans htarget⟩
  · intro v hv path hread
    have hmem : candidate r .literalResource (lineText p v.line) v.line path ∈
        candidates r loaders p := by
      rw [candidates, List.mem_append]
      exact .inr (List.mem_filterMap.2 ⟨v, hv, by rw [hread]; rfl⟩)
    have hne : path ≠ [] := by
      rintro rfl
      obtain ⟨-, -, -, hresource⟩ := resourceLiteral?_eq_some_iff.1 hread
      cases hresource
    obtain ⟨e, he, hkind, htarget, hline⟩ := exists_mem_ofScript hmem hne
    obtain ⟨other, hother, q, hq, hliteral⟩ := (hnamed e he).held hkind
    have htarget : e.target = path := htarget
    rw [htarget] at hliteral
    exact ⟨other, hother, hq.line.symm.trans hline, q, htarget ▸ hq.default, hliteral⟩

theorem parse_line_unique (src : Text) (opts : Options) : ∀ l ∈ (parse src opts).lines,
    ∀ k ∈ (parse src opts).lines, k.number = l.number → k = l := by
  intro l hl k hk hnumber
  rw [parse_lines, List.mem_filter] at hl hk
  obtain ⟨i, hi, htext⟩ := mem_numberedLines hl.1
  obtain ⟨j, hj, htext'⟩ := mem_numberedLines hk.1
  obtain rfl : j = i := by omega
  have hsame : k.text = l.text := Option.some.inj (htext'.symm.trans htext)
  cases l
  cases k
  simp_all

/-- **Every target is the content of literals of the expected form.** A reference of a loading kind
is the literal that begins the first argument of a call of its loader on its line, and a literal
resource is what stands between the first and the last quote of a default. No reference is named by
a part of an expression exactly if all that is read in this way are whole literals. -/
theorem ofScript_targets (src : Text) (opts : Options) (r : Registry)
    (hloaders : ∀ ld ∈ loaders, IsLoading ld.kind) :
    let p := parse src opts
    let ds := ofScript r loaders p
    (∀ d ∈ ds, IsLoading d.kind → ∃ l ∈ p.lines, ∃ ld ∈ loaders, ∃ c, LoadedBy l ld c d) ∧
      (∀ d ∈ ds, d.kind = .literalResource → ∃ v ∈ p.decl.allVariables, ∃ q, HeldBy v q d) ∧
      ((∀ d ∈ ds, NamedWhole loaders p d) ↔ ReadsWhole loaders p) := by
  intro p ds
  refine ⟨fun d hd => exists_loadedBy hd, fun d hd => exists_heldBy hloaders hd, ?_⟩
  constructor
  · exact readsWhole_of_namedWhole (parse_line_unique src opts) hloaders
  · exact fun hwhole d hd => namedWhole_of_readsWhole hloaders hwhole hd

end

/-- A script whose references are whole literals, with the kinds of loader that there are. -/
theorem ofScript_targets_defaultLoaders :
    let src : Text := "var a = load( &\"res://a.gd\", b)\nvar c = 'res://c.tres'\n"
    let p := parse src {}
    let ds := ofScript Registry.empty defaultLoaders p
    (∀ ld ∈ defaultLoaders, IsLoading ld.kind) ∧
      (∀ d ∈ ds, IsLoading d.kind → ∃ l ∈ p.lines, ∃ ld ∈ defaultLoaders, ∃ c, LoadedBy l ld c d) ∧
      (∀ d ∈ ds, d.kind = .literalResource → ∃ v ∈ p.decl.allVariables, ∃ q, HeldBy v q d) ∧
      ((∀ d ∈ ds, NamedWhole defaultLoaders p d) ↔ ReadsWhole defaultLoaders p) := by
  intro src p ds
  have hloaders : ∀ ld ∈ defaultLoaders, IsLoading ld.kind := by decide +kernel
  exact ⟨hloaders, ofScript_targets src {} _ hloaders⟩

/-- Two paths that are put together from literals, as an argument and as a default. -/
def joinedPaths : Text :=
  "var a = preload(\"res://a\" + \".gd\")\nvar b = \"res://b\" + \".gd\"\n"

/-- Of the first, the reader takes the literal it begins with; of the second, all between the first
quote and the last, which is no literal. -/
theorem joinedPaths_targets :
    let p := parse joinedPaths {}
    let ds := ofScript Registry.empty defaultLoaders p
    ds.map (fun d => (d.kind, d.target, d.line)) =
        [(.preload, Text.ofString "res://a", 1),
          (.literalResource, Text.ofString "res://b\" + \".gd", 2)] ∧
      ¬∀ d ∈ ds, NamedWhole defaultLoaders p d := by
  intro p ds
  have hds : ds.map (fun d => (d.kind, d.target, d.line)) =
      [(.preload, Text.ofString "res://a", 1),
        (.literalResource, Text.ofString "res://b\" + \".gd", 2)] := by decide +kernel
  refine ⟨hds, fun hnamed => ?_⟩
  have hmem : (DependencyKind.literalResource, Text.ofString "res://b\" + \".gd", 2) ∈
      ds.map fun d => (d.kind, d.target, d.line) := by
    rw [hds]
    simp
  obtain ⟨d, hd, heq⟩ := List.mem_map.1 hmem
  rw [Prod.mk.injEq, Prod.mk.injEq] at heq
  obtain ⟨hkind, htarget, -⟩ := heq
  obtain ⟨v, hv, q, hheld, hliteral⟩ := (hnamed d hd).held hkind
  have hquote : ∀ v ∈ p.decl.allVariables, ∀ q ∈ [(34 : UInt8), 39],
      stripStart (trim v.default) "@" = q :: (Text.ofString "res://b\" + \".gd" ++ [q]) →
        q = 34 := by decide +kernel
  have hq : q ∈ [(34 : UInt8), 39] := by
    have hq := hheld.quote
    simp only [isQuote, Bool.or_eq_true, beq_iff_eq] at hq
    rcases hq with rfl | rfl <;> decide
  have hdefault := hheld.default
  rw [htarget] at hdefault hliteral
  obtain rfl := hquote v hv q hq hdefault
  exact absurd hliteral (by decide +kernel)

end GodotSurvey.Dependency
