import GodotSurvey.Text.Space

/-!
# Trimming

A text is trimmed when neither of its ends is white space. Whether an end is white space is told
by at most three bytes there, and ASCII characters never belong to a longer white space character;
so a text between them can be trimmed on its own.

* `exists_trim` — a text is its trimmed form between white space, which has no visible byte.
* `isTrimmed_trim` — trimming once is enough.
* `White.trim_append`, `White.trim_append_right` — white space at the ends is trimmed off, and
  nothing else with it.
* `trim_solid` — trimming stops at visible bytes.
-/

namespace GodotSurvey.Text

/-! ## White space at either end -/

/-- A visible ASCII character. -/
def isSolid (c : UInt8) : Bool := 33 ≤ c && c < 128

theorem isSolid_of_isIdent {c : UInt8} (hc : isIdent c = true) : isSolid c = true := by
  have hletters : '_'.toUInt8 = 95 ∧ 'a'.toUInt8 = 97 ∧ 'z'.toUInt8 = 122 ∧ 'A'.toUInt8 = 65 ∧
      'Z'.toUInt8 = 90 ∧ '0'.toUInt8 = 48 ∧ '9'.toUInt8 = 57 := ⟨rfl, rfl, rfl, rfl, rfl, rfl, rfl⟩
  simp only [isIdent, isLower, isUpper, isDigit, isSolid, Bool.or_eq_true, Bool.and_eq_true,
    beq_iff_eq, decide_eq_true_eq] at hc ⊢
  grind

theorem isIdent_of_not_isSolid {c : UInt8} (hc : isSolid c = false) : isIdent c = false := by
  cases hident : isIdent c with
  | false => rfl
  | true => exact absurd (isSolid_of_isIdent hident) (by simp [hc])

theorem spaceWidth_of_isSolid {c : UInt8} (hc : isSolid c) (s : Text) :
    spaceWidth (c :: s) = 0 := by
  have hspace : ' '.toUInt8 = 32 := rfl
  unfold isSolid at hc
  unfold spaceWidth
  grind

theorem spaceWidthReversed_of_isSolid {c : UInt8} (hc : isSolid c) (r : Text) :
    spaceWidthReversed (c :: r) = 0 := by
  have hspace : ' '.toUInt8 = 32 := rfl
  have h₁ := spaceWidth_of_isSolid hc []
  have h₂ (d : UInt8) : spaceWidth [d, c] ≠ 2 := by
    unfold isSolid at hc
    unfold spaceWidth
    grind
  have h₃ (e d : UInt8) : spaceWidth [e, d, c] ≠ 3 := by
    unfold isSolid at hc
    unfold spaceWidth
    grind
  have h₂' (d : UInt8) : spaceWidth [d, c] ≠ 3 := by
    unfold spaceWidth
    grind
  match r with
  | [] => simp [spaceWidthReversed, h₁]
  | [d] => simp [spaceWidthReversed, h₁, h₂, h₂']
  | d :: e :: r => simp [spaceWidthReversed, h₁, h₂, h₃]

theorem ascii_of_isSolid {c : UInt8} (hc : isSolid c) : c < 128 := by
  rw [isSolid, Bool.and_eq_true, decide_eq_true_eq, decide_eq_true_eq] at hc
  exact hc.2

/-- The first byte of a character cannot complete a white space character. -/
theorem spaceWidth_append_first {s : Text} (hs : s ≠ []) {d : UInt8} (hd : d < 128 ∨ 192 ≤ d)
    (r : Text) : spaceWidth (s ++ d :: r) = spaceWidth s := by
  match s with
  | [] => contradiction
  | [a] => unfold spaceWidth; grind
  | [a, b] => unfold spaceWidth; grind
  | a :: b :: c :: s => unfold spaceWidth; grind

theorem spaceWidthReversed_append_ascii {s : Text} (hs : s ≠ []) {d : UInt8} (hd : d < 128)
    (r : Text) : spaceWidthReversed (s ++ d :: r) = spaceWidthReversed s := by
  have h₁ (t : Text) : spaceWidth (d :: t) ≠ 2 ∧ spaceWidth (d :: t) ≠ 3 := by
    unfold spaceWidth
    grind
  have h₃ (a b : UInt8) : spaceWidth [a, d, b] ≠ 3 := by unfold spaceWidth; grind
  have h₂ (a : UInt8) : spaceWidth [a] ≠ 2 ∧ spaceWidth [a] ≠ 3 := by unfold spaceWidth; grind
  have h₄ (a b : UInt8) : spaceWidth [a, b] ≠ 3 := by unfold spaceWidth; grind
  match s, r with
  | [], _ => exact absurd rfl hs
  | [a], [] => simp [spaceWidthReversed, h₁, h₂]
  | [a], b :: r => simp [spaceWidthReversed, h₁, h₂, h₃]
  | [a, b], r => simp [spaceWidthReversed, h₁, h₄]
  | a :: b :: c :: s, r => simp [spaceWidthReversed]

/-! ## Trimming one end -/

theorem trimStart_eq_self {s : Text} (h : spaceWidth s = 0) : trimStart s = s := by
  cases s with
  | nil => rfl
  | cons c s => simp [trimStart, trimStartFrom, h]

theorem trimEndFrom_eq_self {r : Text} (h : spaceWidthReversed r = 0) : trimEndFrom 0 r = r := by
  cases r with
  | nil => rfl
  | cons c r => rw [trimEndFrom, h]

theorem trimEnd_eq_self {s : Text} (h : spaceWidthReversed s.reverse = 0) : trimEnd s = s := by
  rw [trimEnd, trimEndFrom_eq_self h, List.reverse_reverse]

theorem trimStart_blank (s : Text) : trimStart (32 :: s) = trimStart s := by
  have hwidth : spaceWidth (32 :: s) = 1 := by simp [spaceWidth, Char.toUInt8]
  simp [trimStart, trimStartFrom, hwidth]

theorem trimEnd_blank (s : Text) : trimEnd (s ++ [32]) = trimEnd s := by
  have hwidth (r : Text) : spaceWidthReversed (32 :: r) = 1 := by
    simp [spaceWidthReversed, spaceWidth, Char.toUInt8]
  simp [trimEnd, trimEndFrom, hwidth]

theorem length_trimStartFrom_le (n : Nat) (s : Text) : (trimStartFrom n s).length ≤ s.length := by
  fun_induction trimStartFrom n s with
  | case1 => simp
  | case2 _ _ _ ih => simp only [List.length_cons]; omega
  | case3 => simp
  | case4 _ _ _ _ ih => simp only [List.length_cons]; omega

theorem length_trimEndFrom_le (n : Nat) (s : Text) : (trimEndFrom n s).length ≤ s.length := by
  fun_induction trimEndFrom n s with
  | case1 => simp
  | case2 _ _ _ ih => simp only [List.length_cons]; omega
  | case3 => simp
  | case4 _ _ _ _ ih => simp only [List.length_cons]; omega

theorem length_trimEnd_le (s : Text) : (trimEnd s).length ≤ s.length := by
  simpa [trimEnd] using length_trimEndFrom_le 0 s.reverse

theorem length_trim_le (s : Text) : (trim s).length ≤ s.length :=
  Nat.le_trans (length_trimEnd_le _) (length_trimStartFrom_le 0 s)

/-- Leading white space would make the trimmed text shorter. -/
theorem spaceWidth_of_length_trimStart {s : Text} (h : s.length ≤ (trimStart s).length) :
    spaceWidth s = 0 := by
  cases s with
  | nil => rfl
  | cons c s =>
    rw [trimStart, trimStartFrom] at h
    split at h
    · assumption
    · rename_i n _
      have := length_trimStartFrom_le n s
      rw [List.length_cons] at h
      omega

theorem spaceWidthReversed_of_length_trimEnd {s : Text} (h : s.length ≤ (trimEnd s).length) :
    spaceWidthReversed s.reverse = 0 := by
  rw [trimEnd, List.length_reverse, ← List.length_reverse] at h
  cases hr : s.reverse with
  | nil => rfl
  | cons c r =>
    rw [hr, trimEndFrom] at h
    split at h
    · assumption
    · rename_i n _
      have := length_trimEndFrom_le n r
      rw [List.length_cons] at h
      omega

/-! ## Trimming both ends -/

/-- Neither end of the text is white space. -/
def IsTrimmed (s : Text) : Prop := trim s = s

instance (s : Text) : Decidable (IsTrimmed s) := inferInstanceAs (Decidable (trim s = s))

theorem IsTrimmed.start {s : Text} (h : IsTrimmed s) : spaceWidth s = 0 := by
  apply spaceWidth_of_length_trimStart
  have hlen := length_trimEnd_le (trimStart s)
  rw [IsTrimmed, trim] at h
  rwa [h] at hlen

theorem IsTrimmed.finish {s : Text} (h : IsTrimmed s) : spaceWidthReversed s.reverse = 0 := by
  apply spaceWidthReversed_of_length_trimEnd
  have hstart := trimStart_eq_self h.start
  rw [IsTrimmed, trim, hstart] at h
  exact Nat.le_of_eq (congrArg List.length h).symm

theorem isTrimmed_of_widths {s : Text} (h₁ : spaceWidth s = 0)
    (h₂ : spaceWidthReversed s.reverse = 0) : IsTrimmed s := by
  rw [IsTrimmed, trim, trimStart_eq_self h₁, trimEnd_eq_self h₂]

theorem isTrimmed_of_forall_isSolid {s : Text} (h : ∀ c ∈ s, isSolid c = true) : IsTrimmed s := by
  apply isTrimmed_of_widths
  · cases s with
    | nil => rfl
    | cons c s => exact spaceWidth_of_isSolid (h c List.mem_cons_self) s
  · cases hr : s.reverse with
    | nil => rfl
    | cons c r =>
      have hc : c ∈ s := List.mem_reverse.1 (hr ▸ List.mem_cons_self)
      exact spaceWidthReversed_of_isSolid (h c hc) r

theorem isTrimmed_of_isSolid {c d : UInt8} (hc : isSolid c) (hd : isSolid d) (s : Text) :
    IsTrimmed (c :: s ++ [d]) :=
  isTrimmed_of_widths (spaceWidth_of_isSolid hc _)
    (by simpa using spaceWidthReversed_of_isSolid hd (s.reverse ++ [c]))

theorem trim_blank_append {s : Text} (h : IsTrimmed s) : trim (32 :: s) = s := by
  rw [trim, trimStart_blank]
  exact h

theorem trim_append_blank {s : Text} (h : IsTrimmed s) : trim (s ++ [32]) = s := by
  cases s with
  | nil => rfl
  | cons c s =>
    rw [trim, trimStart_eq_self, trimEnd_blank, trimEnd_eq_self h.finish]
    rw [spaceWidth_append_first (by simp) (by decide), h.start]

/-- Between trimmed texts, a blank stays. -/
theorem isTrimmed_append_blank {s t : Text} (hs : IsTrimmed s) (hs' : s ≠ []) (ht : IsTrimmed t)
    (ht' : t ≠ []) : IsTrimmed (s ++ 32 :: t) := by
  apply isTrimmed_of_widths
  · rw [spaceWidth_append_first hs' (by decide), hs.start]
  · rw [List.reverse_append, List.reverse_cons, List.append_assoc, List.singleton_append,
      spaceWidthReversed_append_ascii (by simpa using ht') (by decide), ht.finish]

/-! ## What is trimmed -/

theorem spaceWidth_append {s : Text} (h : spaceWidth s ≠ 0) (t : Text) :
    spaceWidth (s ++ t) = spaceWidth s := by
  match s with
  | [] => exact absurd rfl h
  | [a] => revert h; unfold spaceWidth; grind
  | [a, b] => revert h; unfold spaceWidth; grind
  | a :: b :: c :: s => unfold spaceWidth; grind

theorem spaceWidth_le (s : Text) : spaceWidth s ≤ s.length := by
  match s with
  | [] => exact Nat.le_refl 0
  | [a] => unfold spaceWidth; grind
  | [a, b] => unfold spaceWidth; grind
  | a :: b :: c :: s => unfold spaceWidth; grind

theorem spaceWidth_take (s : Text) : spaceWidth (s.take (spaceWidth s)) = spaceWidth s := by
  match s with
  | [] => rfl
  | [a] => unfold spaceWidth; grind
  | [a, b] => unfold spaceWidth; grind
  | a :: b :: c :: s => unfold spaceWidth; grind

/-- No byte of a white space character is a visible one. -/
theorem not_isSolid_of_spaceWidth {w : Text} (h : spaceWidth w = w.length) :
    ∀ c ∈ w, isSolid c = false := by
  have hspace : ' '.toUInt8 = 32 := rfl
  match w with
  | [] => simp
  | [a] => revert h; unfold spaceWidth isSolid; grind
  | [a, b] => revert h; unfold spaceWidth isSolid; grind
  | [a, b, c] => revert h; unfold spaceWidth isSolid; grind
  | a :: b :: c :: d :: s => revert h; unfold spaceWidth; grind

/-- White space characters, one after the other. -/
inductive White : Text → Prop
  | nil : White []
  | append {w s : Text} (hwidth : spaceWidth w = w.length) (hw : w ≠ []) (hs : White s) :
    White (w ++ s)

theorem White.not_isSolid {s : Text} (h : White s) : ∀ c ∈ s, isSolid c = false := by
  induction h with
  | nil => simp
  | append hwidth _ _ ih =>
    intro c hc
    exact (List.mem_append.1 hc).elim (not_isSolid_of_spaceWidth hwidth c) (ih c)

theorem White.trans {s t : Text} (hs : White s) (ht : White t) : White (s ++ t) := by
  induction hs with
  | nil => exact ht
  | append hwidth hw _ ih =>
    rw [List.append_assoc]
    exact .append hwidth hw ih

theorem white_of_spaceWidth {w : Text} (h : spaceWidth w = w.length) (hw : w ≠ []) : White w := by
  rw [← List.append_nil w]
  exact .append h hw .nil

theorem trimStartFrom_eq_drop (n : Nat) (s : Text) :
    trimStartFrom n s = trimStart (s.drop n) := by
  induction n generalizing s with
  | zero => rfl
  | succ n ih =>
    cases s with
    | nil => rfl
    | cons c s => exact ih s

theorem trimEndFrom_eq_drop (n : Nat) (r : Text) :
    trimEndFrom n r = trimEndFrom 0 (r.drop n) := by
  induction n generalizing r with
  | zero => rfl
  | succ n ih =>
    cases r with
    | nil => rfl
    | cons c r => exact ih r

/-- A white space character at the front is dropped. -/
theorem trimStart_drop (s : Text) : trimStart s = trimStart (s.drop (spaceWidth s)) := by
  cases s with
  | nil => rfl
  | cons c s =>
    cases h : spaceWidth (c :: s) with
    | zero => rfl
    | succ n =>
      rw [List.drop_succ_cons, ← trimStartFrom_eq_drop, trimStart, trimStartFrom, h]

theorem White.trimStart_append {s : Text} (h : White s) (t : Text) :
    trimStart (s ++ t) = trimStart t := by
  induction h with
  | nil => rfl
  | @append w s hwidth hw _ ih =>
    have hpos : spaceWidth w ≠ 0 := by simpa [hwidth] using hw
    rw [List.append_assoc, trimStart_drop, spaceWidth_append hpos, hwidth, List.drop_left, ih]

/-- What is dropped at the front is white space. -/
theorem exists_white_trimStart (s : Text) :
    ∃ w, White w ∧ s = w ++ trimStart s ∧ spaceWidth (trimStart s) = 0 := by
  by_cases h : spaceWidth s = 0
  · exact ⟨[], .nil, by rw [trimStart_eq_self h, List.nil_append], by rwa [trimStart_eq_self h]⟩
  · have hle := spaceWidth_le s
    have hlength : (s.take (spaceWidth s)).length = spaceWidth s := by simp [hle]
    obtain ⟨w, hw, hs, hwidth⟩ := exists_white_trimStart (s.drop (spaceWidth s))
    rw [← trimStart_drop] at hs hwidth
    refine ⟨s.take (spaceWidth s) ++ w, .append ?_ ?_ hw, ?_, hwidth⟩
    · rw [spaceWidth_take, hlength]
    · intro hnil
      rw [hnil] at hlength
      exact h hlength.symm
    · rw [List.append_assoc, ← hs, List.take_append_drop]
termination_by s.length
decreasing_by
  rw [List.length_drop]
  omega

theorem spaceWidthReversed_le (r : Text) : spaceWidthReversed r ≤ r.length := by
  have h₁ := spaceWidth_le (r.take 1)
  have h₂ := spaceWidth_le (r.take 2).reverse
  have h₃ := spaceWidth_le (r.take 3).reverse
  rw [List.length_reverse] at h₂ h₃
  simp only [List.length_take] at h₁ h₂ h₃
  unfold spaceWidthReversed
  grind

/-- The bytes of the white space character at the end are one. -/
theorem spaceWidth_reverse_take (r : Text) :
    spaceWidth (r.take (spaceWidthReversed r)).reverse = spaceWidthReversed r := by
  have hone : (r.take 1).reverse = r.take 1 := by
    cases r <;> rfl
  unfold spaceWidthReversed
  split
  · rw [hone]
    simp_all
  · split
    · simp_all
    · split
      · simp_all
      · rfl

theorem spaceWidthReversed_append {r : Text} (h : spaceWidthReversed r ≠ 0) (t : Text) :
    spaceWidthReversed (r ++ t) ≠ 0 := by
  have hle := spaceWidthReversed_le r
  have htake {n : Nat} (hn : n ≤ r.length) : (r ++ t).take n = r.take n :=
    List.take_append_of_le_length hn
  revert h hle
  unfold spaceWidthReversed
  grind

theorem trimEndFrom_drop (r : Text) :
    trimEndFrom 0 r = trimEndFrom 0 (r.drop (spaceWidthReversed r)) := by
  cases r with
  | nil => rfl
  | cons c r =>
    cases h : spaceWidthReversed (c :: r) with
    | zero => rfl
    | succ n => rw [List.drop_succ_cons, ← trimEndFrom_eq_drop, trimEndFrom, h]

theorem exists_trimEndFrom (r : Text) :
    ∃ w, White w ∧ r = w.reverse ++ trimEndFrom 0 r ∧
      spaceWidthReversed (trimEndFrom 0 r) = 0 := by
  by_cases h : spaceWidthReversed r = 0
  · have hself := trimEndFrom_eq_self h
    exact ⟨[], .nil, by rw [hself, List.reverse_nil, List.nil_append], by rwa [hself]⟩
  · have hle := spaceWidthReversed_le r
    have hlength : (r.take (spaceWidthReversed r)).reverse.length = spaceWidthReversed r := by
      simp [hle]
    obtain ⟨w, hw, hr, hwidth⟩ := exists_trimEndFrom (r.drop (spaceWidthReversed r))
    rw [← trimEndFrom_drop] at hr hwidth
    refine ⟨w ++ (r.take (spaceWidthReversed r)).reverse, hw.trans (white_of_spaceWidth ?_ ?_), ?_,
      hwidth⟩
    · rw [spaceWidth_reverse_take, hlength]
    · intro hnil
      rw [hnil] at hlength
      exact h hlength.symm
    · rw [List.reverse_append, List.reverse_reverse, List.append_assoc, ← hr,
        List.take_append_drop]
termination_by r.length
decreasing_by
  rw [List.length_drop]
  omega

/-- What is dropped at the end is white space. -/
theorem exists_white_trimEnd (s : Text) :
    ∃ w, White w ∧ s = trimEnd s ++ w ∧ spaceWidthReversed (trimEnd s).reverse = 0 := by
  obtain ⟨w, hw, hs, hwidth⟩ := exists_trimEndFrom s.reverse
  refine ⟨w, hw, ?_, by simpa [trimEnd] using hwidth⟩
  rw [trimEnd, ← List.reverse_reverse w, ← List.reverse_append, ← hs, List.reverse_reverse]

theorem trimEnd_trimEnd (s : Text) : trimEnd (trimEnd s) = trimEnd s := by
  obtain ⟨-, -, -, hwidth⟩ := exists_white_trimEnd s
  exact trimEnd_eq_self hwidth

theorem isTrimmed_trim (s : Text) : IsTrimmed (trim s) := by
  obtain ⟨-, -, -, hstart⟩ := exists_white_trimStart s
  obtain ⟨w, -, hs, hfinish⟩ := exists_white_trimEnd (trimStart s)
  rw [← trim] at hs hfinish
  refine isTrimmed_of_widths (Decidable.byContradiction fun h => ?_) hfinish
  rw [hs, spaceWidth_append h] at hstart
  exact h hstart

theorem White.trim_append {s : Text} (h : White s) (t : Text) : trim (s ++ t) = trim t := by
  rw [trim, h.trimStart_append, trim]

theorem white_of_isSpace {s : Text} (h : isSpace s) : White s := by
  obtain ⟨w, hw, hs, -⟩ := exists_white_trimStart s
  rw [isSpace, List.isEmpty_iff] at h
  rw [h, List.append_nil] at hs
  rwa [hs]

/-- A text that holds a solid byte is not blank. -/
theorem isSpace_of_mem {s : Text} {c : UInt8} (hc : isSolid c = true) (hmem : c ∈ s) :
    isSpace s = false := by
  rw [Bool.eq_false_iff]
  intro hspace
  rw [(white_of_isSpace hspace).not_isSolid c hmem] at hc
  cases hc

/-- A text is its trimmed form between white space. -/
theorem exists_trim (s : Text) : ∃ w w', White w ∧ White w' ∧ s = w ++ (trim s ++ w') := by
  obtain ⟨w, hw, hs, -⟩ := exists_white_trimStart s
  obtain ⟨w', hw', ht, -⟩ := exists_white_trimEnd (trimStart s)
  exact ⟨w, w', hw, hw', by rw [trim, ← ht, ← hs]⟩

/-- Behind anything, a trimmed text needs no trimming at its end. -/
theorem IsTrimmed.trim_of_append {s t : Text} (h : IsTrimmed (s ++ t)) :
    trim t = trimStart t := by
  obtain ⟨w, -, ht, -⟩ := exists_white_trimStart t
  rw [trim]
  refine trimEnd_eq_self (Decidable.byContradiction fun hwidth => ?_)
  refine spaceWidthReversed_append hwidth (s ++ w).reverse ?_
  rw [← List.reverse_append, List.append_assoc, ← ht]
  exact h.finish

/-! ## Trimming beside visible bytes -/

theorem trimEndFrom_append_solid {c : UInt8} (hc : isSolid c) (r q : Text) :
    trimEndFrom 0 (r ++ c :: q) = trimEndFrom 0 r ++ c :: q := by
  have hself : trimEndFrom 0 (c :: q) = c :: q :=
    trimEndFrom_eq_self (spaceWidthReversed_of_isSolid hc q)
  by_cases hr : r = []
  · rw [hr]
    exact hself
  · have hwidth := spaceWidthReversed_append_ascii hr (ascii_of_isSolid hc) q
    by_cases h : spaceWidthReversed r = 0
    · rw [trimEndFrom_eq_self h, trimEndFrom_eq_self (hwidth.trans h)]
    · rw [trimEndFrom_drop, hwidth, List.drop_append_of_le_length (spaceWidthReversed_le r),
        trimEndFrom_append_solid hc, ← trimEndFrom_drop]
termination_by r.length
decreasing_by
  have := spaceWidthReversed_le r
  rw [List.length_drop]
  omega

/-- Trimming the end stops at the last visible byte. -/
theorem trimEnd_append_solid {c : UInt8} (hc : isSolid c) (s t : Text) :
    trimEnd (s ++ c :: t) = s ++ c :: trimEnd t := by
  have hreverse : (s ++ c :: t).reverse = t.reverse ++ c :: s.reverse := by simp
  rw [trimEnd, hreverse, trimEndFrom_append_solid hc]
  simp [trimEnd]

/-- The text begins with a visible byte. -/
def StartsSolid (s : Text) : Prop := ∃ c ∈ s.head?, isSolid c = true

theorem StartsSolid.append {s : Text} (hs : StartsSolid s) (t : Text) : StartsSolid (s ++ t) := by
  obtain ⟨c, hc, hsolid⟩ := hs
  exact ⟨c, by rw [List.head?_append, hc]; rfl, hsolid⟩

/-- A text that begins with a visible byte and shows another one is trimmed behind that one. -/
theorem trim_solid {s : Text} (hs : StartsSolid s) {d : UInt8} (hd : isSolid d) (t : Text) :
    trim (s ++ d :: t) = s ++ d :: trimEnd t := by
  obtain ⟨c, hc, hsolid⟩ := hs
  obtain ⟨u, rfl⟩ := List.head?_eq_some_iff.1 hc
  rw [trim, List.cons_append, trimStart_eq_self (spaceWidth_of_isSolid hsolid _),
    ← List.cons_append, trimEnd_append_solid hd]

theorem isTrimmed_solid {s : Text} (hs : StartsSolid s) {d : UInt8} (hd : isSolid d) {t : Text}
    (ht : trimEnd t = t) : IsTrimmed (s ++ d :: t) := by
  rw [IsTrimmed, trim_solid hs hd, ht]

theorem isTrimmed_singleton {c : UInt8} (hc : isSolid c) : IsTrimmed [c] :=
  isTrimmed_of_widths (spaceWidth_of_isSolid hc []) (spaceWidthReversed_of_isSolid hc [])

theorem IsTrimmed.append_solid {s : Text} (hs : IsTrimmed s) (hne : s ≠ []) {c : UInt8}
    (hc : isSolid c) : IsTrimmed (s ++ [c]) := by
  apply isTrimmed_of_widths
  · rw [spaceWidth_append_first hne (.inl (ascii_of_isSolid hc)), hs.start]
  · rw [List.reverse_append]
    exact spaceWidthReversed_of_isSolid hc _

/-! ## White space behind a text -/

/-- A white space character at the end is found whatever precedes it. -/
theorem spaceWidthReversed_append_white {w : Text} (hwidth : spaceWidth w = w.length) (hw : w ≠ [])
    (s : Text) : spaceWidthReversed (s ++ w).reverse = w.length := by
  have hspace : ' '.toUInt8 = 32 := rfl
  match w with
  | [] => contradiction
  | [a] =>
    simp [spaceWidthReversed, hwidth]
  | [a, b] =>
    have h₁ : spaceWidth [b] ≠ 1 := by
      revert hwidth; unfold spaceWidth; grind
    simp [spaceWidthReversed, h₁, hwidth]
  | [a, b, c] =>
    have h₁ : spaceWidth [c] ≠ 1 := by
      revert hwidth; unfold spaceWidth; grind
    have h₂ : spaceWidth [b, c] ≠ 2 := by
      revert hwidth; unfold spaceWidth; grind
    simp [spaceWidthReversed, h₁, h₂, hwidth]
  | a :: b :: c :: d :: w => revert hwidth; unfold spaceWidth; grind

theorem White.trimEnd_append {w : Text} (h : White w) (s : Text) :
    trimEnd (s ++ w) = trimEnd s := by
  induction h generalizing s with
  | nil => rw [List.append_nil]
  | @append w t hwidth hw _ ih =>
    have hdrop : (s ++ w).reverse.drop w.length = s.reverse := by
      rw [List.reverse_append, ← List.length_reverse, List.drop_left]
    rw [← List.append_assoc, ih, trimEnd, trimEndFrom_drop,
      spaceWidthReversed_append_white hwidth hw, hdrop, ← trimEnd]

theorem spaceWidth_append_white {s : Text} (hs : s ≠ []) {w : Text} (hw : spaceWidth w ≠ 0) :
    spaceWidth (s ++ w) = spaceWidth s := by
  have hspace : ' '.toUInt8 = 32 := rfl
  cases w with
  | nil => rw [List.append_nil]
  | cons d w =>
    have hd : d < 128 ∨ 192 ≤ d := by
      revert hw
      unfold spaceWidth
      grind
    exact spaceWidth_append_first hs hd w

theorem White.trim_append_right {w : Text} (h : White w) (s : Text) : trim (s ++ w) = trim s := by
  obtain ⟨v, hv, hs, hstart⟩ := exists_white_trimStart s
  have hstarts : trimStart (s ++ w) = trimStart (trimStart s ++ w) := by
    rw [← hv.trimStart_append (trimStart s ++ w), ← List.append_assoc, ← hs]
  by_cases hnil : trimStart s = []
  · -- All of the text is white space.
    have hw : trimStart w = [] := by
      have hself := h.trimStart_append []
      rwa [List.append_nil] at hself
    rw [trim, hstarts, trim, hnil, List.nil_append, hw]
  · have hself : trimStart (trimStart s ++ w) = trimStart s ++ w := by
      apply trimStart_eq_self
      cases h with
      | nil => rwa [List.append_nil]
      | @append v t hwidth hv _ =>
        have hpos : spaceWidth v ≠ 0 := by simpa [hwidth] using hv
        have hwhite : spaceWidth (v ++ t) ≠ 0 := by rwa [spaceWidth_append hpos]
        rw [spaceWidth_append_white hnil hwhite, hstart]
    rw [trim, hstarts, hself, h.trimEnd_append, ← trim]

end GodotSurvey.Text
