import GodotSurvey.Text.Path
import GodotSurvey.Proofs.Text.Lines
import Mathlib.Data.List.TakeWhile

/-!
# Paths from names

A `rooted` path leads from the root along names. It is in its shortest form already, and joining a
name to it leads one step further. Whether a text looks like a path can be told from its bytes.
-/

namespace GodotSurvey.Path

open Text

/-- A text that can stand between slashes and names an entry of a directory. -/
def isName (s : Text) : Bool := !s.isEmpty && !hasByte s '/' && s != "." && s != ".."

/-- The absolute path along names. -/
def rooted (names : List Text) : Text := 47 :: Text.join "/" names

theorem isName_iff {s : Text} :
    isName s = true ↔ s ≠ [] ∧ 47 ∉ s ∧ s ≠ ofString "." ∧ s ≠ ofString ".." := by
  simp only [isName, hasByte, Bool.and_eq_true, Bool.not_eq_true', List.isEmpty_eq_false_iff,
    List.any_eq_false, beq_iff_eq, bne_iff_ne, ne_eq, and_assoc]
  constructor
  · rintro ⟨h₁, h₂, h₃, h₄⟩
    exact ⟨h₁, fun h => h₂ 47 h rfl, h₃, h₄⟩
  · rintro ⟨h₁, h₂, h₃, h₄⟩
    refine ⟨h₁, fun c hc h => h₂ ?_, h₃, h₄⟩
    rwa [h] at hc

theorem rooted_ne_nil (names : List Text) : rooted names ≠ [] := List.cons_ne_nil _ _

/-! ## Segments -/

theorem segments_append (a b : Text) : segments (a ++ 47 :: b) = segments a ++ segments b := by
  have hsplit : splitByte '/' (a ++ 47 :: b) = splitByte '/' a ++ splitByte '/' b :=
    splitByte_append_sep 47 a b
  rw [segments, hsplit, List.filter_append, segments, segments]

theorem segments_name {n : Text} (hn : isName n = true) : segments n = [n] := by
  obtain ⟨hne, hslash, -⟩ := isName_iff.mp hn
  have hsplit : splitByte '/' n = [n] := splitByte_of_not_mem hslash
  simp [segments, hsplit, hne]

theorem segments_join {names : List Text} (h : ∀ n ∈ names, isName n = true) :
    segments (Text.join "/" names) = names := by
  induction names with
  | nil => rfl
  | cons n names ih =>
    have hn := segments_name (h n List.mem_cons_self)
    have ih := ih fun m hm => h m (List.mem_cons_of_mem n hm)
    cases names with
    | nil => exact hn
    | cons m names =>
      have hcons : Text.join "/" (n :: m :: names) = n ++ 47 :: Text.join "/" (m :: names) := by
        rw [Text.join_cons _ _ (by simp), List.append_assoc]
        rfl
      rw [hcons, segments_append, hn, ih]
      rfl

theorem segments_rooted {names : List Text} (h : ∀ n ∈ names, isName n = true) :
    segments (rooted names) = names := by
  have happend := segments_append [] (Text.join "/" names)
  rw [List.nil_append, segments_join h] at happend
  exact happend

theorem of_mem_segments {p s : Text} (h : s ∈ segments p) : s ≠ [] ∧ 47 ∉ s := by
  obtain ⟨hmem, hne⟩ := List.mem_filter.mp h
  have hslash : ('/' : UInt8) ∉ s := not_mem_of_mem_splitByte hmem
  exact ⟨by simpa using hne, hslash⟩

/-! ## Cleaning -/

/-- Names are passed over. -/
theorem resolve_append (isRooted : Bool) {names : List Text} (h : ∀ n ∈ names, isName n = true)
    (done rest : List Text) :
    resolve isRooted done (names ++ rest) = resolve isRooted (names.reverse ++ done) rest := by
  induction names generalizing done with
  | nil => rfl
  | cons n names ih =>
    obtain ⟨-, -, hdot, hdots⟩ := isName_iff.mp (h n List.mem_cons_self)
    have ih := ih fun m hm => h m (List.mem_cons_of_mem n hm)
    simp [resolve, hdot, hdots, ih]

/-- Names have nothing to resolve. -/
theorem resolve_names (isRooted : Bool) {names : List Text} (h : ∀ n ∈ names, isName n = true)
    (done : List Text) : resolve isRooted done names = done.reverse ++ names := by
  have hpass := resolve_append isRooted h done []
  rw [List.append_nil] at hpass
  rw [hpass, resolve, List.reverse_append, List.reverse_reverse]

theorem clean_of_segments {p : Text} (hp : isAbsolute p = true) {names : List Text}
    (hnames : ∀ n ∈ names, isName n = true) (h : segments p = names) : clean p = rooted names := by
  rw [clean, cleanSegments, h, hp, resolve_names true hnames]
  simp only [List.reverse_nil, List.nil_append, if_true]
  rfl

theorem cleanSegments_rooted {names : List Text} (h : ∀ n ∈ names, isName n = true) :
    cleanSegments (rooted names) = names := by
  rw [cleanSegments, segments_rooted h, resolve_names _ h]
  rfl

theorem clean_rooted {names : List Text} (h : ∀ n ∈ names, isName n = true) :
    clean (rooted names) = rooted names :=
  clean_of_segments rfl h (segments_rooted h)

theorem join_pair {a b : Text} (ha : a ≠ []) (hb : b ≠ []) :
    join [a, b] = clean (a ++ 47 :: b) := by
  have hfilter : [a, b].filter (!·.isEmpty) = [a, b] := by simp [ha, hb]
  have hslash : ofString "/" = [47] := rfl
  rw [join, hfilter]
  simp [Text.join, hslash]

theorem join_rooted {names : List Text} (h : ∀ n ∈ names, isName n = true) {n : Text}
    (hn : isName n = true) : join [rooted names, n] = rooted (names ++ [n]) := by
  rw [join_pair (rooted_ne_nil names) (isName_iff.mp hn).1]
  apply clean_of_segments rfl
  · simpa using fun m hm => hm.elim (h m) (fun heq => heq ▸ hn)
  · rw [segments_append, segments_rooted h, segments_name hn]

/-! ## Extensions -/

theorem findLastByte?_eq_none_iff {s : Text} {c : UInt8} : findLastByte? s c = none ↔ c ∉ s := by
  simp only [findLastByte?, findLast?, Option.map_eq_none_iff, List.findIdx?_eq_none_iff,
    List.mem_reverse, beq_eq_false_iff_ne]
  exact ⟨fun h hc => h c hc rfl, fun h x hx hxc => h (hxc ▸ hx)⟩

theorem lt_of_findLastByte? {s : Text} {c : UInt8} {i : Nat} (h : findLastByte? s c = some i) :
    i < s.length := by
  obtain ⟨j, hj, rfl⟩ := Option.map_eq_some_iff.1 h
  have hlt := (List.findIdx?_eq_some_iff_getElem.1 hj).1
  rw [List.length_reverse] at hlt
  omega

theorem extension_eq_nil_iff {p : Text} : extension p = [] ↔ ('.' : UInt8) ∉ afterLastSlash p := by
  rw [← findLastByte?_eq_none_iff, extension]
  cases h : findLastByte? (afterLastSlash p) '.' with
  | none => exact iff_of_true rfl rfl
  | some i =>
    have hlt := lt_of_findLastByte? h
    refine iff_of_false (fun hnil => ?_) nofun
    have hlength := congrArg List.length hnil
    rw [List.length_drop, List.length_nil] at hlength
    omega

theorem afterLastSlash_of_not_mem {p : Text} (h : ('/' : UInt8) ∉ p) : afterLastSlash p = p := by
  have hall : ∀ c ∈ p.reverse, (!isSlash c) = true := by
    intro c hc
    have hne : c ≠ ('/' : UInt8) := fun hcs => h (hcs ▸ List.mem_reverse.1 hc)
    simpa [isSlash] using hne
  rw [afterLastSlash, List.takeWhile_eq_self_iff.2 hall, List.reverse_reverse]

/-- A text has an extension or a slash if there is a dot or a slash in it. -/
theorem extension_or_slash_iff {t : Text} :
    (!(extension t).isEmpty || hasByte t '/') = true ↔ ('.' : UInt8) ∈ t ∨ ('/' : UInt8) ∈ t := by
  have hslash : hasByte t '/' = true ↔ ('/' : UInt8) ∈ t := by simp [hasByte]
  have hdot : (!(extension t).isEmpty) = true ↔ ('.' : UInt8) ∈ afterLastSlash t := by
    rw [Bool.not_eq_true', List.isEmpty_eq_false_iff, Ne, extension_eq_nil_iff, Decidable.not_not]
  rw [Bool.or_eq_true, hslash, hdot]
  by_cases h : ('/' : UInt8) ∈ t
  · exact iff_of_true (.inr h) (.inr h)
  · rw [afterLastSlash_of_not_mem h]

end GodotSurvey.Path
