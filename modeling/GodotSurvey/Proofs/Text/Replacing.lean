import GodotSurvey.Text.Basic
import Mathlib.Data.List.Infix
import Mathlib.Logic.Function.Defs

/-!
# Replacing bytes

A table whose left sides are single bytes replaces each byte of a text on its own: by the word that
the table has for it, or by the byte itself. So what a text holds afterwards is told from the words.
If no word begins another, and each begins with a byte that is replaced, the words can be told apart
wherever they stand, and the text can be read back.

* `replace_eq_flatMap` — each byte is replaced on its own.
* `not_mem_replace` — a byte that is replaced, and that no word holds, is gone.
* `replace_injective` — **different texts stay different.**
-/

namespace GodotSurvey.Text

variable {table : List (Text × Text)} {c d : UInt8}

/-- What a table writes for a byte. -/
def word (table : List (Text × Text)) (c : UInt8) : Text := (table.lookup [c]).getD [c]

/-- A byte is kept, or the table has a word for it. -/
theorem word_cases (table : List (Text × Text)) (c : UInt8) :
    (word table c = [c] ∧ ∀ p ∈ table, p.1 ≠ [c]) ∨ ([c], word table c) ∈ table := by
  cases hc : table.lookup [c] with
  | none =>
    left
    constructor
    · rw [word, hc, Option.getD_none]
    · intro p hp heq
      have hmiss := List.lookup_eq_none_iff.1 hc p hp
      simp [heq] at hmiss
  | some new =>
    right
    obtain ⟨before, after, htable, -⟩ := List.lookup_eq_some_iff.1 hc
    rw [word, hc, Option.getD_some, htable]
    simp

section SingleBytes

variable (hone : ∀ p ∈ table, p.1.length = 1)

include hone

/-- Where every left side is one byte, the first byte of a text decides which of them begins it. -/
theorem firstMatch?_cons (c : UInt8) (rest : Text) :
    firstMatch? table (c :: rest) = (table.lookup [c]).map fun new => ([c], new) := by
  induction table with
  | nil => rfl
  | cons p table ih =>
    obtain ⟨old, new⟩ := p
    obtain ⟨d, rfl⟩ := List.length_eq_one_iff.1 (hone _ List.mem_cons_self)
    have htable := ih fun p hp => hone p (List.mem_cons_of_mem _ hp)
    by_cases hc : c = d
    · simp [firstMatch?, startsWith, hc]
    · have hmiss : firstMatch? (([d], new) :: table) (c :: rest) =
          firstMatch? table (c :: rest) := by
        simp [firstMatch?, startsWith, Ne.symm hc]
      have hkey : ([c] == [d]) = false := by simpa using hc
      rw [hmiss, htable, List.lookup_cons, hkey]

/-- So each byte is replaced on its own. -/
theorem replace_eq_flatMap (s : Text) : replace table s = s.flatMap (word table) := by
  rw [replace]
  induction s with
  | nil => rfl
  | cons c rest ih =>
    rw [replaceFrom, firstMatch?_cons hone, List.flatMap_cons, word]
    cases hc : table.lookup [c] with
    | none => simp [ih]
    | some new => simp [ih]

/-- A byte that is replaced, and that no word holds, is gone. -/
theorem not_mem_replace (hold : ∃ p ∈ table, p.1 = [c]) (hnew : ∀ p ∈ table, c ∉ p.2) (s : Text) :
    c ∉ replace table s := by
  rw [replace_eq_flatMap hone, List.mem_flatMap]
  rintro ⟨d, -, hd⟩
  obtain ⟨hword, hkept⟩ | hentry := word_cases table d
  · obtain ⟨p, hp, hpc⟩ := hold
    rw [hword, List.mem_singleton] at hd
    exact hkept p hp (by rw [hpc, hd])
  · exact hnew _ hentry hd

/-! ## Reading back -/

variable (hapart : ∀ p ∈ table, ∀ q ∈ table, p.2 <+: q.2 → p.1 = q.1)
  (hfirst : ∀ p ∈ table, ∃ q ∈ table, q.1 <+: p.2)

include hfirst

/-- What is written for a byte begins with that byte if it is kept, else with one that is not. -/
theorem singleton_prefix_word (c : UInt8) :
    (word table c = [c] ∧ ∀ p ∈ table, p.1 ≠ [c]) ∨
      ([c], word table c) ∈ table ∧ ∃ d, [d] <+: word table c ∧ ∃ p ∈ table, p.1 = [d] := by
  obtain hkept | hentry := word_cases table c
  · exact .inl hkept
  · obtain ⟨q, hq, hprefix⟩ := hfirst _ hentry
    obtain ⟨d, hd⟩ := List.length_eq_one_iff.1 (hone q hq)
    exact .inr ⟨hentry, d, hd ▸ hprefix, q, hq, hd⟩

theorem word_ne_nil (c : UInt8) : word table c ≠ [] := by
  intro hnil
  obtain ⟨hword, -⟩ | ⟨-, d, hd, -⟩ := singleton_prefix_word hone hfirst c
  · simp [hword] at hnil
  · simp [hnil] at hd

include hapart

/-- No word begins another. -/
theorem eq_of_prefix_word (h : word table c <+: word table d) : c = d := by
  obtain ⟨hc, hkept⟩ | ⟨hc, x, hx, p, hp, hpx⟩ := singleton_prefix_word hone hfirst c
  · obtain ⟨hd, -⟩ | ⟨-, y, hy, p, hp, hpy⟩ := singleton_prefix_word hone hfirst d
    · simpa [hc, hd] using h
    · -- A word begins with a byte that is replaced, and `c` is kept.
      rw [hc] at h
      have hyc : [y] = [c] := (List.prefix_of_prefix_length_le hy h le_rfl).eq_of_length rfl
      exact absurd (hpy.trans hyc) (hkept p hp)
  · obtain ⟨hd, hkept⟩ | ⟨hd, -⟩ := singleton_prefix_word hone hfirst d
    · have hxd : [x] = [d] := (hd ▸ hx.trans h).eq_of_length rfl
      exact absurd (hpx.trans hxd) (hkept p hp)
    · simpa using hapart _ hc _ hd h

/-- **Different texts stay different** when their bytes are replaced by words of which none begins
another and each begins with a byte that is replaced. -/
theorem replace_injective : Function.Injective (replace table) := by
  intro s t h
  rw [replace_eq_flatMap hone, replace_eq_flatMap hone] at h
  induction s generalizing t with
  | nil =>
    cases t with
    | nil => rfl
    | cons d t =>
      have hnil := (List.append_eq_nil_iff.1 (List.flatMap_cons ▸ h.symm)).1
      exact absurd hnil (word_ne_nil hone hfirst d)
  | cons c s ih =>
    cases t with
    | nil =>
      have hnil := (List.append_eq_nil_iff.1 (List.flatMap_cons ▸ h)).1
      exact absurd hnil (word_ne_nil hone hfirst c)
    | cons d t =>
      rw [List.flatMap_cons, List.flatMap_cons] at h
      have hc : word table c <+: word table c ++ s.flatMap (word table) := List.prefix_append _ _
      have hd : word table d <+: word table c ++ s.flatMap (word table) := h ▸ List.prefix_append _ _
      -- Of two words that begin the same text, one begins the other.
      have hcd : c = d := by
        obtain hprefix | hprefix := List.prefix_or_prefix_of_prefix hc hd
        · exact eq_of_prefix_word hone hapart hfirst hprefix
        · exact (eq_of_prefix_word hone hapart hfirst hprefix).symm
      subst hcd
      rw [ih (List.append_cancel_left h)]

end SingleBytes

end GodotSurvey.Text
