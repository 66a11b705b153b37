import GodotSurvey.Proofs.Text.Search
import Mathlib.Data.List.Find
import Mathlib.Data.List.Infix
import Mathlib.Data.List.Nodup

/-!
# Replacing words at once and one after the other

Words that never overlap cut a text into pieces: between two of them nothing of a third can begin in
one piece and end in another. So all words of a table can be replaced at once, piece by piece, and
which of them comes first in the table does not matter.

Replacing them one after the other reads what was written for the earlier ones. That does no harm as
long as a text that is written cannot complete a later word, by what it holds itself or together with
the bytes on either side of it.

* `replace_append_word` — a word of the table cuts the text.
* `replace_append_inert` — so does a text that completes no word.
* `replace_cons` — the first word of a table can be replaced before the others.
* `replaceEach_eq`, `exists_replaceEach_ne` — when one after the other is at once, and when not.
-/

namespace GodotSurvey.Text

variable {table : List (Text × Text)} {p q v s t x y l r : Text}

/-! ## Texts that complete words -/

/-- Between a part that begins the word and one that ends it, both less than the word, the text makes
up the word. -/
def Completes (v p : Text) : Prop :=
  ∃ x y, (x <+: p ∧ x ≠ p) ∧ (y <:+ p ∧ y ≠ p) ∧ p <:+: x ++ v ++ y

instance (v p : Text) : Decidable (Completes v p) :=
  decidable_of_iff (∃ x ∈ p.inits, ∃ y ∈ p.tails, x ≠ p ∧ y ≠ p ∧ p <:+: x ++ v ++ y) <| by
    simp only [List.mem_inits, List.mem_tails, Completes]
    grind

/-- Wherever a word shares a byte with a text, or stands across it, the text completes it. -/
theorem completes_of_touch (hne : p ≠ []) (h : x ++ (v ++ y) = l ++ (p ++ r))
    (hl : l.length < x.length + v.length) (hx : x.length < l.length + p.length) :
    Completes v p := by
  have hnil : [] <+: p ∧ [] ≠ p := ⟨List.nil_prefix, hne.symm⟩
  have hnil' : [] <:+ p ∧ [] ≠ p := ⟨List.nil_suffix, hne.symm⟩
  obtain ⟨m, rfl, hm⟩ | ⟨x₁, rfl, hm⟩ := List.append_eq_append_iff.1 h
  · -- The word begins within the text.
    rw [List.length_append] at hl
    obtain ⟨v₁, rfl, -⟩ | ⟨v₁, rfl, hv⟩ := List.append_eq_append_iff.1 hm
    · rw [List.length_append] at hl
      omega
    · obtain ⟨y₁, rfl, -⟩ | ⟨y₁, rfl, -⟩ := List.append_eq_append_iff.1 hv
      · exact ⟨[], [], hnil, hnil', m, y₁, by simp⟩
      · have hv₁ : v₁ ≠ [] := by
          rintro rfl
          simp at hl
        exact ⟨[], y₁, hnil, ⟨List.suffix_append _ _, mt List.self_eq_append_left.1 hv₁⟩, m, [],
          by simp⟩
  · -- The word begins before the text.
    rw [List.length_append] at hl hx
    obtain ⟨p₁, rfl, -⟩ | ⟨p₁, rfl, hp⟩ := List.append_eq_append_iff.1 hm
    · rw [List.length_append] at hx
      omega
    · have hp₁ : p₁ ≠ [] := by
        rintro rfl
        simp at hx
      have hbegin : x₁ ≠ x₁ ++ p₁ := mt List.self_eq_append_right.1 hp₁
      obtain ⟨y₁, rfl, -⟩ | ⟨v₁, rfl, -⟩ := List.append_eq_append_iff.1 hp
      · have hxv : x₁ ++ v ≠ [] := by
          rw [Ne, List.append_eq_nil_iff]
          rintro ⟨rfl, rfl⟩
          simp at hl
        have hend : y₁ ≠ x₁ ++ v ++ y₁ := mt List.self_eq_append_left.1 hxv
        rw [List.append_assoc] at hend
        exact ⟨x₁, y₁, ⟨List.prefix_append _ _, hbegin⟩, ⟨⟨x₁ ++ v, by simp⟩, hend⟩, [], [],
          by simp⟩
      · exact ⟨x₁, [], ⟨List.prefix_append _ _, hbegin⟩, hnil', [], v₁, by simp⟩

/-! ## One pass -/

theorem replaceFrom_eq (table : List (Text × Text)) (n : Nat) (s : Text) :
    replaceFrom table n s = replace table (s.drop n) := by
  induction n generalizing s with
  | zero => rfl
  | succ n ih =>
    cases s with
    | nil => simp [replaceFrom, replace]
    | cons c s => rw [replaceFrom, ih, List.drop_succ_cons]

/-- Tables that find the same everywhere in a text write the same. -/
theorem replace_congr {other : List (Text × Text)}
    (h : ∀ u, u <:+ s → firstMatch? table u = firstMatch? other u) :
    replace table s = replace other s := by
  suffices hskip : ∀ n, replaceFrom table n s = replaceFrom other n s from hskip 0
  induction s with
  | nil => simp [replaceFrom]
  | cons c s ih =>
    have ih := ih fun u hu => h u (hu.trans (List.suffix_cons c s))
    intro n
    cases n with
    | zero =>
      rw [replaceFrom, replaceFrom, h _ List.suffix_rfl]
      cases firstMatch? other (c :: s) <;> simp [ih]
    | succ n => rw [replaceFrom, replaceFrom, ih]

theorem firstMatch?_eq_none_iff : firstMatch? table s = none ↔ ∀ e ∈ table, ¬ e.1 <+: s := by
  simp [firstMatch?, startsWith, List.isPrefixOf_iff_prefix]

theorem of_firstMatch?_eq_some {e : Text × Text} (h : firstMatch? table s = some e) :
    e ∈ table ∧ e.1 <+: s := by
  rw [firstMatch?] at h
  have hstart := List.find?_some h
  rw [startsWith, List.isPrefixOf_iff_prefix] at hstart
  exact ⟨List.mem_of_find?_eq_some h, hstart⟩

/-- A text that holds no word of the table stays as it is. -/
theorem replace_eq_self (h : ∀ e ∈ table, ¬ e.1 <:+: s) : replace table s = s := by
  have hempty (s : Text) : replace [] s = s := by
    rw [replace]
    induction s with
    | nil => rfl
    | cons c s ih => rw [replaceFrom, ih]; rfl
  have hnone (u : Text) (hu : u <:+ s) : firstMatch? table u = firstMatch? [] u :=
    firstMatch?_eq_none_iff.2 fun e he hstart => h e he (hstart.isInfix.trans hu.isInfix)
  rw [replace_congr hnone, hempty]

/-- No word of the table stands across the border between the texts. -/
def NoneAcross (table : List (Text × Text)) (s t : Text) : Prop :=
  ∀ e ∈ table, ∀ l r, s ++ t = l ++ (e.1 ++ r) → l.length < s.length →
    l.length + e.1.length ≤ s.length

theorem firstMatch?_append {c : UInt8} (h : NoneAcross table (c :: s) t) :
    firstMatch? table (c :: s ++ t) = firstMatch? table (c :: s) := by
  have hsame (e) (he : e ∈ table) : startsWith (c :: s ++ t) e.1 = startsWith (c :: s) e.1 := by
    rw [Bool.eq_iff_iff]
    constructor
    · intro hstart
      obtain ⟨r, hr⟩ := startsWith_iff.1 hstart
      have hlength := h e he [] r hr (by simp)
      rw [startsWith, List.isPrefixOf_iff_prefix]
      exact List.prefix_of_prefix_length_le ⟨r, hr.symm⟩ (List.prefix_append _ t)
        (by simpa using hlength)
    · intro hstart
      obtain ⟨r, hr⟩ := startsWith_iff.1 hstart
      exact startsWith_iff.2 ⟨r ++ t, by rw [hr, List.append_assoc]⟩
  rw [firstMatch?, firstMatch?]
  exact List.find?_congr hsame

/-- The texts are read apart where no word stands across their border. -/
theorem replace_append (h : NoneAcross table s t) :
    replace table (s ++ t) = replace table s ++ replace table t := by
  suffices hskip : ∀ n ≤ s.length,
      replaceFrom table n (s ++ t) = replaceFrom table n s ++ replace table t from
    hskip 0 (Nat.zero_le _)
  induction s with
  | nil =>
    intro n hn
    obtain rfl := Nat.le_zero.1 hn
    rfl
  | cons c s ih =>
    have hrest : NoneAcross table s t := fun e he l r hlr hl => by
      have hlonger := h e he (c :: l) r (by rw [List.cons_append, hlr]; rfl)
        (Nat.succ_lt_succ hl)
      simp only [List.length_cons] at hlonger
      omega
    intro n hn
    cases n with
    | succ n => exact ih hrest n (Nat.le_of_succ_le_succ hn)
    | zero =>
      have hmatch := firstMatch?_append h
      rw [List.cons_append] at hmatch ⊢
      rw [replaceFrom, replaceFrom, hmatch]
      cases hfound : firstMatch? table (c :: s) with
      | none => simp [ih hrest 0 (Nat.zero_le _)]
      | some e =>
        have hlength := (of_firstMatch?_eq_some hfound).2.length_le
        rw [List.length_cons] at hlength
        simp [ih hrest (e.1.length - 1) (by omega)]

/-- A text that completes no word of the table stays, and is read apart. -/
theorem replace_append_inert (hne : ∀ e ∈ table, e.1 ≠ [])
    (hv : ∀ e ∈ table, ¬ Completes v e.1) (x y : Text) :
    replace table (x ++ (v ++ y)) = replace table x ++ (v ++ replace table y) := by
  have hkept : replace table v = v := replace_eq_self fun e he ⟨l, r, hlr⟩ => by
    have hpos := List.length_pos_of_ne_nil (hne e he)
    have hlength := congrArg List.length hlr
    simp only [List.length_append] at hlength
    exact hv e he (completes_of_touch (x := []) (y := []) (l := l) (r := r) (hne e he)
      (by simpa using hlr.symm) (by simp; omega) (by simp; omega))
  have hbefore : NoneAcross table x (v ++ y) := fun e he l r hlr hl => by
    by_contra hacross
    exact hv e he (completes_of_touch (hne e he) hlr (by omega) (by omega))
  have hbehind : NoneAcross table v y := fun e he l r hlr hl => by
    have hpos := List.length_pos_of_ne_nil (hne e he)
    exact absurd (completes_of_touch (x := []) (hne e he) hlr (by simpa using hl)
      (by simp; omega)) (hv e he)
  rw [replace_append hbefore, replace_append hbehind, hkept]

/-! ## Words that never overlap -/

/-- Different words that can stand next to each other, but never share a byte. -/
structure Separate (words : List Text) : Prop where
  nodup : words.Nodup
  ne_nil : ∀ p ∈ words, p ≠ []
  apart : ∀ p ∈ words, ∀ q ∈ words, ∀ l r l' r', l ++ (p ++ r) = l' ++ (q ++ r') →
    l.length < l'.length + q.length → l'.length < l.length + p.length → l = l' ∧ p = q

namespace Separate

variable {words : List Text}

/-- Words never overlap if none begins where another one begins, or within it. -/
theorem of_within (nodup : words.Nodup) (ne_nil : ∀ p ∈ words, p ≠ [])
    (begins : ∀ p ∈ words, ∀ q ∈ words, ∀ r t, p ++ r = q ++ t → p = q)
    (within : ∀ p ∈ words, ∀ q ∈ words, ∀ c d r t, (c :: d).length < p.length →
      p ++ r ≠ c :: d ++ (q ++ t)) : Separate words where
  nodup := nodup
  ne_nil := ne_nil
  apart := by
    have hle : ∀ p ∈ words, ∀ q ∈ words, ∀ l r l' r', l ++ (p ++ r) = l' ++ (q ++ r') →
        l.length ≤ l'.length → l'.length < l.length + p.length → l = l' ∧ p = q := by
      intro p hp q hq l r l' r' h hl hl'
      obtain ⟨d, rfl⟩ : l <+: l' :=
        List.prefix_of_prefix_length_le ⟨p ++ r, h⟩ (List.prefix_append l' _) hl
      rw [List.append_assoc, List.append_cancel_left_eq] at h
      cases d with
      | nil => exact ⟨(List.append_nil l).symm, begins p hp q hq r r' h⟩
      | cons c d =>
        rw [List.length_append] at hl'
        exact absurd h (within p hp q hq c d r r' (by omega))
    intro p hp q hq l r l' r' h hl hl'
    obtain hll | hll := Nat.le_total l.length l'.length
    · exact hle p hp q hq l r l' r' h hll hl'
    · obtain ⟨hl, hpq⟩ := hle q hq p hp l' r' l r h.symm hll hl
      exact ⟨hl.symm, hpq.symm⟩

theorem sublist {some : List Text} (h : Separate words) (hsome : some.Sublist words) :
    Separate some where
  nodup := h.nodup.sublist hsome
  ne_nil p hp := h.ne_nil p (hsome.subset hp)
  apart p hp q hq := h.apart p (hsome.subset hp) q (hsome.subset hq)

theorem perm {other : List Text} (h : Separate words) (hperm : other.Perm words) :
    Separate other where
  nodup := hperm.nodup_iff.2 h.nodup
  ne_nil p hp := h.ne_nil p (hperm.subset hp)
  apart p hp q hq := h.apart p (hperm.subset hp) q (hperm.subset hq)

/-- No word lies in a part that begins another one. -/
theorem not_within_start (h : Separate words) (hp : p ∈ words) (hq : q ∈ words)
    (hx : x <+: q) (hne : x ≠ q) : ¬ p <:+: x := by
  rintro ⟨l, r, rfl⟩
  obtain ⟨z, rfl⟩ := hx
  have hlength := List.length_pos_of_ne_nil (h.ne_nil p hp)
  obtain ⟨rfl, hpq⟩ := h.apart p hp _ hq l (r ++ z) [] [] (by simp)
    (by simp; omega) (by simp; omega)
  exact hne (List.IsPrefix.eq_of_length_le (List.prefix_append _ z)
    (by rw [← hpq]; simp))

/-- Nor in one that ends another. -/
theorem not_within_end (h : Separate words) (hp : p ∈ words) (hq : q ∈ words)
    (hy : y <:+ q) (hne : y ≠ q) : ¬ p <:+: y := by
  rintro ⟨l, r, rfl⟩
  obtain ⟨z, rfl⟩ := hy
  have hlength := List.length_pos_of_ne_nil (h.ne_nil p hp)
  obtain ⟨hz, hpq⟩ := h.apart p hp _ hq (z ++ l) r [] [] (by simp)
    (by simp; omega) (by simp; omega)
  exact hne (List.IsSuffix.eq_of_length_le (List.suffix_append z _)
    (by rw [← hpq]; simp; omega))

/-- A word completes no other one. -/
theorem not_completes (h : Separate words) (hp : p ∈ words) (hq : q ∈ words) (hpq : p ≠ q) :
    ¬ Completes p q := by
  rintro ⟨x, y, ⟨hx, hxq⟩, ⟨hy, hyq⟩, l, r, hlr⟩
  have hlength := congrArg List.length hlr
  simp only [List.length_append] at hlength
  have hxlt := Nat.lt_of_le_of_ne hx.length_le fun heq => hxq (hx.eq_of_length heq)
  have hylt := Nat.lt_of_le_of_ne hy.length_le fun heq => hyq (hy.eq_of_length heq)
  -- The other word is longer than both parts, so it would share a byte with the word between them.
  exact hpq (h.apart p hp q hq x y l r (by simpa using hlr.symm) (by omega) (by omega)).2

end Separate

section Tables

variable {e : Text × Text} (hsep : Separate (table.map Prod.fst))

include hsep

/-- Where a word of the table stands, it is found. -/
theorem firstMatch?_word (he : e ∈ table) (t : Text) : firstMatch? table (e.1 ++ t) = some e := by
  cases hfound : firstMatch? table (e.1 ++ t) with
  | none => exact absurd (List.prefix_append e.1 t) (firstMatch?_eq_none_iff.1 hfound e he)
  | some f =>
    obtain ⟨hf, r, hr⟩ := of_firstMatch?_eq_some hfound
    have hpos := List.length_pos_of_ne_nil (hsep.ne_nil _ (List.mem_map_of_mem he))
    have hpos' := List.length_pos_of_ne_nil (hsep.ne_nil _ (List.mem_map_of_mem hf))
    obtain ⟨-, hword⟩ := hsep.apart _ (List.mem_map_of_mem hf) _ (List.mem_map_of_mem he)
      [] r [] t hr (by simpa using hpos) (by simpa using hpos')
    rw [List.inj_on_of_nodup_map hsep.nodup hf he hword]

/-- A word of the table is replaced, and the texts on either side are read apart. -/
theorem replace_append_word (he : e ∈ table) (x y : Text) :
    replace table (x ++ (e.1 ++ y)) = replace table x ++ (e.2 ++ replace table y) := by
  have hne := hsep.ne_nil _ (List.mem_map_of_mem he)
  have hborder : NoneAcross table x (e.1 ++ y) := fun f hf l r hlr hl => by
    by_contra hacross
    obtain ⟨rfl, -⟩ := hsep.apart _ (List.mem_map_of_mem he) _ (List.mem_map_of_mem hf) x y l r hlr
      (by omega) (by omega)
    exact Nat.lt_irrefl _ hl
  have hhead : replace table (e.1 ++ y) = e.2 ++ replace table y := by
    have hfound := firstMatch?_word hsep he y
    obtain ⟨c, p, hp⟩ := List.exists_cons_of_ne_nil hne
    rw [hp, List.cons_append] at hfound ⊢
    rw [replace, replaceFrom, hfound]
    simp [replaceFrom_eq, hp]
  rw [replace_append hborder, hhead]

/-- The order of the table does not matter. -/
theorem replace_perm {other : List (Text × Text)} (hperm : other.Perm table) (s : Text) :
    replace other s = replace table s := by
  refine replace_congr fun u _ => (List.find?_eq_find?_of_perm hperm.symm ?_).symm
  rintro e ⟨he, hestart⟩ f ⟨hf, hfstart⟩
  obtain ⟨r, hr⟩ := startsWith_iff.1 hestart
  obtain ⟨r', hr'⟩ := startsWith_iff.1 hfstart
  exact Option.some.inj <| (firstMatch?_word hsep he r).symm.trans <|
    hr ▸ hr' ▸ firstMatch?_word hsep hf r'

end Tables

/-! ## One word -/

/-- Induction over the places where a word stands in a text. -/
theorem word_induction {P : Text → Prop} (hne : p ≠ []) (without : ∀ s, ¬ p <:+: s → P s)
    (around : ∀ x y, P x → P y → P (x ++ (p ++ y))) (s : Text) : P s := by
  by_cases h : p <:+: s
  · obtain ⟨x, y, hxy⟩ := h
    have hpos := List.length_pos_of_ne_nil hne
    have hlength : x.length + p.length + y.length = s.length := by
      rw [← hxy, List.length_append, List.length_append]
    rw [← hxy, List.append_assoc]
    exact around x y (word_induction hne without around x) (word_induction hne without around y)
  · exact without s h
termination_by s.length

theorem replaceAll_of_absent (h : ¬ p <:+: s) (v : Text) : replaceAll s p v = s :=
  replace_eq_self (by simpa using h)

section Word

variable (hsep : Separate [p])

include hsep

theorem replaceAll_append_word (v x y : Text) :
    replaceAll (x ++ (p ++ y)) p v = replaceAll x p v ++ (v ++ replaceAll y p v) := by
  have hone : Separate ([(p, v)].map Prod.fst) := hsep
  exact replace_append_word hone List.mem_cons_self x y

theorem replaceAll_self (s : Text) : replaceAll s p p = s := by
  induction s using word_induction (hsep.ne_nil p (by simp)) with
  | without s h => exact replaceAll_of_absent h p
  | around x y hx hy => rw [replaceAll_append_word hsep, hx, hy]

/-- Each place where the word stands changes the length by the same amount. -/
theorem exists_length_replaceAll (v s : Text) :
    ∃ k, (replaceAll s p v).length + k * p.length = s.length + k * v.length := by
  induction s using word_induction (hsep.ne_nil p (by simp)) with
  | without s h => exact ⟨0, by rw [replaceAll_of_absent h]; simp⟩
  | around x y hx hy =>
    obtain ⟨j, hj⟩ := hx
    obtain ⟨k, hk⟩ := hy
    refine ⟨j + 1 + k, ?_⟩
    rw [replaceAll_append_word hsep]
    simp only [List.length_append, Nat.add_mul, Nat.one_mul]
    omega

/-- A text that holds the word is changed, unless the word is written for itself. -/
theorem replaceAll_ne_self (h : p <:+: s) (hv : v ≠ p) : replaceAll s p v ≠ s := by
  obtain ⟨x, y, rfl⟩ := h
  intro hself
  rw [List.append_assoc, replaceAll_append_word hsep] at hself
  obtain ⟨j, hj⟩ := exists_length_replaceAll hsep v x
  obtain ⟨k, hk⟩ := exists_length_replaceAll hsep v y
  have hlength := congrArg List.length hself
  simp only [List.length_append] at hlength
  have hsame : v.length = p.length := by
    have htotal : (j + 1 + k) * p.length = (j + 1 + k) * v.length := by
      simp only [Nat.add_mul, Nat.one_mul]
      omega
    exact (Nat.eq_of_mul_eq_mul_left (by omega) htotal).symm
  rw [hsame] at hj hk
  obtain ⟨-, hrest⟩ := List.append_inj hself (by omega)
  exact hv (List.append_inj hrest hsame).1

end Word

/-! ## One after the other -/

/-- The words of the table replaced one after the other. -/
def replaceEach (table : List (Text × Text)) (s : Text) : Text :=
  table.foldl (fun s e => replaceAll s e.1 e.2) s

@[simp] theorem replaceEach_nil (s : Text) : replaceEach [] s = s := rfl

@[simp] theorem replaceEach_cons (e : Text × Text) (table : List (Text × Text)) (s : Text) :
    replaceEach (e :: table) s = replaceEach table (replaceAll s e.1 e.2) := rfl

theorem replaceEach_append (before table : List (Text × Text)) (s : Text) :
    replaceEach (before ++ table) s = replaceEach table (replaceEach before s) :=
  List.foldl_append

theorem replaceEach_eq_self (h : ∀ e ∈ table, replaceAll s e.1 e.2 = s) :
    replaceEach table s = s := by
  induction table with
  | nil => rfl
  | cons e table ih =>
    rw [replaceEach_cons, h e List.mem_cons_self]
    exact ih fun f hf => h f (List.mem_cons_of_mem _ hf)

/-- A word whose text completes no other word can be replaced before the others. -/
theorem replace_cons (hsep : Separate (((p, v) :: table).map Prod.fst))
    (hv : ∀ e ∈ table, ¬ Completes v e.1) (s : Text) :
    replace ((p, v) :: table) s = replace table (replaceAll s p v) := by
  have hword : Separate [p] := hsep.sublist (by simp)
  have hne (e) (he : e ∈ table) : e.1 ≠ [] :=
    hsep.ne_nil _ (List.mem_cons_of_mem _ (List.mem_map_of_mem he))
  induction s using word_induction (hword.ne_nil p (by simp)) with
  | without s h =>
    rw [replaceAll_of_absent h]
    refine replace_congr fun u hu => List.find?_cons_of_neg ?_
    rw [startsWith, List.isPrefixOf_iff_prefix]
    exact fun hstart => h (hstart.isInfix.trans hu.isInfix)
  | around x y hx hy =>
    rw [replace_append_word (e := (p, v)) hsep List.mem_cons_self, hx, hy,
      replaceAll_append_word hword, replace_append_inert hne hv]

/-- Words that are written for themselves do not count. -/
theorem replace_append_same {same : List (Text × Text)} (hsame : ∀ e ∈ same, e.2 = e.1)
    (hsep : Separate ((same ++ table).map Prod.fst)) (s : Text) :
    replace (same ++ table) s = replace table s := by
  induction same with
  | nil => rfl
  | cons e same ih =>
    obtain ⟨p, v⟩ := e
    obtain rfl : v = p := hsame _ List.mem_cons_self
    have hrest := hsep.sublist (List.sublist_cons_self _ _)
    have hinert (e) (he : e ∈ same ++ table) : ¬ Completes v e.1 := by
      have hmem := List.mem_map_of_mem (f := Prod.fst) he
      refine hsep.not_completes List.mem_cons_self (List.mem_cons_of_mem _ hmem) ?_
      rintro rfl
      exact (List.nodup_cons.1 hsep.nodup).1 hmem
    rw [List.cons_append] at hsep ⊢
    rw [replace_cons hsep hinert, replaceAll_self (hsep.sublist (by simp)),
      ih (fun e he => hsame e (List.mem_cons_of_mem _ he)) hrest]

/-- Words that are written for themselves, left out. -/
def changing (table : List (Text × Text)) : List (Text × Text) := table.filter fun e => e.2 != e.1

theorem replace_changing (hsep : Separate (table.map Prod.fst)) (s : Text) :
    replace (changing table) s = replace table s := by
  have hperm := List.filter_append_perm (fun e : Text × Text => !(e.2 != e.1)) table
  have hsep' := hsep.perm (hperm.map Prod.fst)
  rw [← replace_perm hsep hperm, replace_append_same _ hsep']
  · simp [changing]
  · intro e he
    simpa using (List.mem_filter.1 he).2

theorem replaceEach_changing (hsep : Separate (table.map Prod.fst)) (s : Text) :
    replaceEach (changing table) s = replaceEach table s := by
  induction table generalizing s with
  | nil => rfl
  | cons e table ih =>
    have ih := ih (hsep.sublist (List.sublist_cons_self _ _))
    rw [changing, List.filter_cons]
    split
    · rw [replaceEach_cons, replaceEach_cons, ← changing, ih]
    · rename_i hsame
      have hword : e.2 = e.1 := by simpa using hsame
      rw [← changing, ih, replaceEach_cons, hword, replaceAll_self (hsep.sublist (by simp))]

/-- **One after the other is at once** if what is written for a word completes none of the words
that come later in the table; words that are written for themselves do not count. -/
theorem replaceEach_eq (hsep : Separate (table.map Prod.fst))
    (hinert : table.Pairwise fun e f => f.2 ≠ f.1 → ¬ Completes e.2 f.1) (s : Text) :
    replaceEach table s = replace table s := by
  have hsep' : Separate ((changing table).map Prod.fst) :=
    hsep.sublist (List.filter_sublist.map Prod.fst)
  have hinert' : (changing table).Pairwise fun e f => ¬ Completes e.2 f.1 :=
    (hinert.filter _).imp_of_mem fun {_ f} _ hf h => h (by simpa using (List.mem_filter.1 hf).2)
  rw [← replaceEach_changing hsep, ← replace_changing hsep]
  generalize changing table = table at hsep' hinert'
  induction table generalizing s with
  | nil => exact (replace_eq_self (by simp)).symm
  | cons e table ih =>
    obtain ⟨he, hrest⟩ := List.pairwise_cons.1 hinert'
    rw [replaceEach_cons, replace_cons hsep' he,
      ih _ (hsep'.sublist (List.sublist_cons_self _ _)) hrest]

/-- If it completes another word, which is not written for itself, there is a text that tells the
two apart, with the one word right before the other. -/
theorem exists_replaceEach_ne {e f : Text × Text} (hsep : Separate (table.map Prod.fst))
    (he : e ∈ table) (hf : f ∈ table) (hchange : f.2 ≠ f.1) (hcompletes : Completes e.2 f.1) :
    ∃ s, ∀ before, (before ++ [e, f]).Perm table →
      replaceEach (before ++ [e, f]) s ≠ replace table s := by
  obtain ⟨x, y, ⟨hx, hxne⟩, ⟨hy, hyne⟩, hmade⟩ := hcompletes
  have hword {g : Text × Text} (hg : g ∈ table) := List.mem_map_of_mem (f := Prod.fst) hg
  have hleft {g} (hg : g ∈ table) : ¬ g.1 <:+: x :=
    hsep.not_within_start (hword hg) (hword hf) hx hxne
  have hright {g} (hg : g ∈ table) : ¬ g.1 <:+: y :=
    hsep.not_within_end (hword hg) (hword hf) hy hyne
  have hone {g} (hg : g ∈ table) : Separate [g.1] := hsep.sublist (by simpa using hword hg)
  have hstep : replaceAll (x ++ (e.1 ++ y)) e.1 e.2 = x ++ (e.2 ++ y) := by
    rw [replaceAll_append_word (hone he), replaceAll_of_absent (hleft he),
      replaceAll_of_absent (hright he)]
  refine ⟨x ++ (e.1 ++ y), fun before hperm => ?_⟩
  have hnodup := (hsep.perm (hperm.map Prod.fst)).nodup
  rw [List.map_append, List.nodup_append] at hnodup
  -- The words before the two do not stand in the text.
  have hbefore : replaceEach before (x ++ (e.1 ++ y)) = x ++ (e.1 ++ y) :=
    replaceEach_eq_self fun g hg => by
      have hmem := hperm.subset (List.mem_append_left _ hg)
      have hge : e.1 ≠ g.1 := fun heq =>
        hnodup.2.2 _ (List.mem_map_of_mem hg) e.1 (by simp) heq.symm
      rw [replaceAll, replace_append_inert (by simpa using hsep.ne_nil _ (hword hmem))
        (by simpa using hsep.not_completes (hword he) (hword hmem) hge), ← replaceAll, ← replaceAll,
        replaceAll_of_absent (hleft hmem), replaceAll_of_absent (hright hmem)]
  rw [replaceEach_append, hbefore, replaceEach_cons, replaceEach_cons, replaceEach_nil, hstep,
    replace_append_word hsep he, replace_eq_self fun g => hleft,
    replace_eq_self fun g => hright]
  exact replaceAll_ne_self (hone hf) (by simpa using hmade) hchange

end GodotSurvey.Text
