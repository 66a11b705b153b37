import GodotSurvey.Survey.Script
import GodotSurvey.Proofs.Text.Lines
import GodotSurvey.Proofs.Text.Number

/-!
# What the settings text tells

The settings that results depend on are put into one text. Loaders and thresholds can be read back
from it, since no separator occurs in them. How event handlers begin and which words mark a state
variable are free texts, and of them only the row that they make together can be told.

* `settingsText_eq_iff` — **two valid configurations have the same text exactly if they have the
  same loaders, the same thresholds and the same row of names.**
* `PrintsAlike.rules_eq` — if no name holds a blank, the text tells the rules.
-/

namespace GodotSurvey.Config

open Text

/-! ## Loaders -/

/-- The words between blanks in the text of a loader. -/
def loaderWords (l : Dependency.Loader) : List Text :=
  [123 :: l.name, l.kind.name, ScriptOptions.flagText l.allowDot ++ [125]]

theorem loaderText_eq (l : Dependency.Loader) : loaderText l = join [32] (loaderWords l) := by
  simp [loaderText, braced, loaderWords, join, Text.ofString, String.utf8EncodeChar]

theorem isIdent_of_isLoaderName {s : Text} (h : isLoaderName s = true) {c : UInt8} (hc : c ∈ s) :
    c = 46 ∨ isIdent c = true := by
  have hpiece {a : Text} (ha : isIdentifier a = true) (hc : c ∈ a) : isIdent c = true := by
    cases a with
    | nil => contradiction
    | cons d a =>
      simp only [isIdentifier, Bool.and_eq_true, List.all_eq_true] at ha
      exact ha.2 c hc
  rcases mem_splitByte 46 hc with hc | ⟨piece, hmem, hc⟩
  · exact .inl hc
  · right
    rw [isLoaderName] at h
    split at h
    · rename_i a hsplit
      have hsplit : splitByte 46 s = [a] := hsplit
      rw [hsplit, List.mem_singleton] at hmem
      exact hpiece h (hmem ▸ hc)
    · rename_i a b hsplit
      have hsplit : splitByte 46 s = [a, b] := hsplit
      rw [Bool.and_eq_true] at h
      rw [hsplit, List.mem_cons, List.mem_singleton] at hmem
      rcases hmem with rfl | rfl
      · exact hpiece h.1 hc
      · exact hpiece h.2 hc
    · contradiction

theorem kind_of_isValidLoader {l : Dependency.Loader} (hl : isValidLoader l = true) :
    l.kind = .preload ∨ l.kind = .load ∨ l.kind = .classDbReference := by
  simp only [isValidLoader, Bool.and_eq_true] at hl
  simpa using hl.2

/-- The words of a valid loader are not empty and hold no separator. -/
theorem loaderWords_bytes {l : Dependency.Loader} (hl : isValidLoader l = true) {w : Text}
    (hw : w ∈ loaderWords l) : w ≠ [] ∧ 32 ∉ w ∧ 124 ∉ w := by
  have hvalid : isLoaderName l.name = true := by
    simp only [isValidLoader, Bool.and_eq_true] at hl
    exact hl.1
  have hname (c : UInt8) (h : ¬(c = 46 ∨ isIdent c = true)) : c ∉ l.name :=
    fun hc => h (isIdent_of_isLoaderName hvalid hc)
  simp only [loaderWords, List.mem_cons, List.not_mem_nil, or_false] at hw
  rcases hw with rfl | rfl | rfl
  · simp [hname 32 (by decide), hname 124 (by decide)]
  · rcases kind_of_isValidLoader hl with h | h | h <;> rw [h] <;> decide
  · cases l.allowDot <;> decide

theorem loaderWords_inj {l l' : Dependency.Loader} (hl : isValidLoader l = true)
    (hl' : isValidLoader l' = true) (h : loaderWords l = loaderWords l') : l = l' := by
  obtain ⟨name, kind, allowDot⟩ := l
  obtain ⟨name', kind', allowDot'⟩ := l'
  simp only [loaderWords, List.cons.injEq, and_true, true_and] at h
  obtain ⟨rfl, hkind, hflag⟩ := h
  have hkind : kind = kind' := by
    rcases kind_of_isValidLoader hl with rfl | rfl | rfl <;>
      rcases kind_of_isValidLoader hl' with rfl | rfl | rfl <;>
        first | rfl | exact absurd hkind (by decide)
  have hflag : allowDot = allowDot' := by
    cases allowDot <;> cases allowDot' <;> first | rfl | exact absurd hflag (by decide)
  rw [hkind, hflag]

theorem flatMap_loaderWords_inj {ls ls' : List Dependency.Loader}
    (hls : ∀ l ∈ ls, isValidLoader l = true) (hls' : ∀ l ∈ ls', isValidLoader l = true)
    (h : ls.flatMap loaderWords = ls'.flatMap loaderWords) : ls = ls' := by
  induction ls generalizing ls' with
  | nil =>
    cases ls' with
    | nil => rfl
    | cons l' ls' => simp [loaderWords] at h
  | cons l ls ih =>
    cases ls' with
    | nil => simp [loaderWords] at h
    | cons l' ls' =>
      rw [List.flatMap_cons, List.flatMap_cons] at h
      obtain ⟨hwords, hrest⟩ := List.append_inj h rfl
      rw [loaderWords_inj (hls l List.mem_cons_self) (hls' l' List.mem_cons_self) hwords,
        ih (fun k hk => hls k (List.mem_cons_of_mem l hk))
          (fun k hk => hls' k (List.mem_cons_of_mem l' hk)) hrest]

/-- The loaders are one row of words. -/
theorem join_loaderText (ls : List Dependency.Loader) :
    join [32] (ls.map loaderText) = join [32] (ls.flatMap loaderWords) := by
  induction ls with
  | nil => rfl
  | cons l ls ih =>
    cases ls with
    | nil => simp [loaderText_eq, join]
    | cons k ls =>
      rw [List.flatMap_cons, join_append _ (by simp [loaderWords]) (by simp [loaderWords]), ← ih,
        ← loaderText_eq]
      rfl

/-- Valid loaders can be told from their text. -/
theorem join_loaderText_inj {ls ls' : List Dependency.Loader}
    (hls : ∀ l ∈ ls, isValidLoader l = true) (hls' : ∀ l ∈ ls', isValidLoader l = true)
    (h : join [32] (ls.map loaderText) = join [32] (ls'.map loaderText)) : ls = ls' := by
  have hwords {ls : List Dependency.Loader} (hls : ∀ l ∈ ls, isValidLoader l = true) :
      ∀ w ∈ ls.flatMap loaderWords, w ≠ [] ∧ 32 ∉ w := by
    intro w hw
    obtain ⟨l, hl, hw⟩ := List.mem_flatMap.mp hw
    obtain ⟨hne, hblank, -⟩ := loaderWords_bytes (hls l hl) hw
    exact ⟨hne, hblank⟩
  rw [join_loaderText, join_loaderText] at h
  exact flatMap_loaderWords_inj hls hls' (join_inj (hwords hls) (hwords hls') h)

theorem bar_notMem_loaders {ls : List Dependency.Loader} (hls : ∀ l ∈ ls, isValidLoader l = true) :
    124 ∉ join [32] (ls.map loaderText) := by
  rw [join_loaderText]
  intro h
  rcases mem_join h with h | ⟨w, hw, h⟩
  · revert h
    decide
  · obtain ⟨l, hl, hw⟩ := List.mem_flatMap.mp hw
    exact (loaderWords_bytes (hls l hl) hw).2.2 h

/-! ## Patterns -/

/-- How handlers begin and what marks state variables, in one row. -/
def Patterns.row (p : Patterns) : Text :=
  p.handlerStart ++ " [" ++ join " " (p.stateKeywords.getD [])

def thresholdWords (t : Behavior.Thresholds) : List Text :=
  [Text.ofInt t.highMethods, Text.ofInt t.highVariables, Text.ofInt t.mediumMethods,
    Text.ofInt t.mediumVariables]

theorem patternsText_eq (p : Patterns) : patternsText p =
    123 :: (p.row ++ [93, 32]) ++
      123 :: (join [32] (thresholdWords p.thresholds) ++ [125, 125]) := by
  simp [patternsText, Patterns.row, thresholdWords, braced, bracketed, join, Text.ofString,
    String.utf8EncodeChar]

theorem thresholdWords_bytes {t : Behavior.Thresholds} {w : Text} (hw : w ∈ thresholdWords t) :
    32 ∉ w ∧ 123 ∉ w := by
  have hint (n : Int) (c : UInt8) (h : ¬(c = 45 ∨ isDigit c = true)) : c ∉ Text.ofInt n :=
    fun hc => h (mem_ofInt hc)
  simp only [thresholdWords, List.mem_cons, List.not_mem_nil, or_false] at hw
  rcases hw with rfl | rfl | rfl | rfl <;>
    exact ⟨hint _ 32 (by decide), hint _ 123 (by decide)⟩

theorem thresholdWords_inj {t t' : Behavior.Thresholds} (h : thresholdWords t = thresholdWords t') :
    t = t' := by
  simp only [thresholdWords, List.cons.injEq, and_true] at h
  obtain ⟨h₁, h₂, h₃, h₄⟩ := h
  obtain ⟨a, b, c, d⟩ := t
  obtain ⟨a', b', c', d'⟩ := t'
  rw [Behavior.Thresholds.mk.injEq]
  exact ⟨ofInt_inj h₁, ofInt_inj h₂, ofInt_inj h₃, ofInt_inj h₄⟩

/-- The row of names and the thresholds can be told from the text of the patterns. -/
theorem patternsText_inj {p p' : Patterns} (h : patternsText p = patternsText p') :
    p.row = p'.row ∧ p.thresholds = p'.thresholds := by
  have hbytes (t : Behavior.Thresholds) : 123 ∉ join [32] (thresholdWords t) ++ [125, 125] := by
    intro hmem
    rcases List.mem_append.mp hmem with hmem | hmem
    · rcases mem_join hmem with hmem | ⟨w, hw, hmem⟩
      · revert hmem
        decide
      · exact (thresholdWords_bytes hw).2 hmem
    · revert hmem
      decide
  have hsplit (t : Behavior.Thresholds) :
      splitByte 32 (join [32] (thresholdWords t)) = thresholdWords t :=
    splitByte_join (by simp [thresholdWords]) fun w hw => (thresholdWords_bytes hw).1
  rw [patternsText_eq, patternsText_eq] at h
  obtain ⟨hrow, hlimits⟩ := append_last_inj (hbytes _) (hbytes _) h
  refine ⟨List.append_cancel_right (List.cons.inj hrow).2, thresholdWords_inj ?_⟩
  rw [← hsplit, List.append_cancel_right hlimits, hsplit]

/-! ## The whole text -/

/-- The settings text does not tell the configurations apart. -/
structure PrintsAlike (c c' : Config) : Prop where
  loaders : c.loaders.getD [] = c'.loaders.getD []
  thresholds : c.patterns.thresholds = c'.patterns.thresholds
  row : c.patterns.row = c'.patterns.row

theorem loaders_of_isValid {c : Config} (hc : c.isValid = true) :
    ∀ l ∈ c.loaders.getD [], isValidLoader l = true := by
  simp only [isValid, Bool.and_eq_true, List.all_eq_true] at hc
  exact hc.1.1.1.2

theorem settingsText_eq_iff {c c' : Config} (hc : c.isValid = true) (hc' : c'.isValid = true) :
    c.settingsText = c'.settingsText ↔ c.PrintsAlike c' := by
  have htext (c : Config) : c.settingsText =
      91 :: (join [32] ((c.loaders.getD []).map loaderText) ++ [93]) ++
        124 :: patternsText c.patterns := by
    simp [settingsText, bracketed, Text.ofString, String.utf8EncodeChar]
  have hbar {c : Config} (hc : c.isValid = true) :
      124 ∉ 91 :: (join [32] ((c.loaders.getD []).map loaderText) ++ [93]) := by
    simp [bar_notMem_loaders (loaders_of_isValid hc)]
  constructor
  · intro h
    rw [htext, htext] at h
    obtain ⟨hloaders, hpatterns⟩ := append_first_inj (hbar hc) (hbar hc') h
    obtain ⟨hrow, hthresholds⟩ := patternsText_inj hpatterns
    exact ⟨join_loaderText_inj (loaders_of_isValid hc) (loaders_of_isValid hc')
      (List.append_cancel_right (List.cons.inj hloaders).2), hthresholds, hrow⟩
  · intro h
    rw [htext, htext, patternsText_eq, patternsText_eq, h.loaders, h.thresholds, h.row]

/-- No name of the patterns holds a blank. -/
def Patterns.NoBlanks (p : Patterns) : Prop :=
  32 ∉ p.handlerStart ∧ ∀ k ∈ p.stateKeywords.getD [], 32 ∉ k

instance (p : Patterns) : Decidable p.NoBlanks :=
  inferInstanceAs (Decidable (32 ∉ p.handlerStart ∧ ∀ k ∈ p.stateKeywords.getD [], 32 ∉ k))

/-- Names without blanks can be told from their row. -/
theorem PrintsAlike.rules_eq {c c' : Config} (h : c.PrintsAlike c') (hc : c.isValid = true)
    (hc' : c'.isValid = true) (hb : c.patterns.NoBlanks) (hb' : c'.patterns.NoBlanks) :
    c.rules = c'.rules := by
  have hkeywords {c : Config} (hc : c.isValid = true) (hb : c.patterns.NoBlanks) :
      ∀ k ∈ c.patterns.stateKeywords.getD [], k ≠ [] ∧ 32 ∉ k := by
    intro k hk
    simp only [isValid, Patterns.isValid, Bool.and_eq_true, List.all_eq_true] at hc
    exact ⟨by simpa using hc.1.1.2.1.1.1.1.2 k hk, hb.2 k hk⟩
  have hrow (p : Patterns) :
      p.row = p.handlerStart ++ 32 :: 91 :: join [32] (p.stateKeywords.getD []) := by
    simp [Patterns.row, Text.ofString, String.utf8EncodeChar]
  have hnames := h.row
  rw [hrow, hrow] at hnames
  obtain ⟨hstart, hwords⟩ := append_first_inj hb.1 hb'.1 hnames
  have hwords := join_inj (hkeywords hc hb) (hkeywords hc' hb') (List.cons.inj hwords).2
  rw [rules, rules, hstart, hwords, h.thresholds]

end GodotSurvey.Config
