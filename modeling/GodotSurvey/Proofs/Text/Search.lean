import GodotSurvey.Proofs.Text.Lines
import GodotSurvey.Proofs.Text.Trim

/-!
# Searching and cutting

A text is found behind anything that does not hold its first byte, and cutting there gives back what
was put together.

* `findFrom_append_of_not_mem`, `findByte?_append`, `cut?_append` — the first occurrence behind
  such a text.
* `findFrom_append_right` — what does not hold the last byte cannot complete an occurrence.
* `startsWith_first`, `span_append_of_head` — where a prefix and a run of bytes end.
* `stripEnd_append`, `stripEnd_of_ne` — a last byte is stripped if it is the one that is named.
-/

namespace GodotSurvey.Text

/-! ## Prefixes and suffixes -/

theorem dropStart?_eq_some_iff {s p r : Text} : dropStart? s p = some r ↔ s = p ++ r := by
  induction p generalizing s with
  | nil => simp [dropStart?]
  | cons d p ih =>
    cases s with
    | nil => simp [dropStart?]
    | cons c s =>
      rw [dropStart?]
      by_cases hc : c = d
      · simp [hc, ih]
      · simp [hc]

theorem startsWith_iff {s p : Text} : startsWith s p = true ↔ ∃ r, s = p ++ r := by
  rw [startsWith, List.isPrefixOf_iff_prefix]
  constructor
  · rintro ⟨r, rfl⟩
    exact ⟨r, rfl⟩
  · rintro ⟨r, rfl⟩
    exact ⟨r, rfl⟩

/-- A prefix goes on behind a text only with one of its own bytes. -/
theorem dropStart?_append_of_head {x p : Text} (hx : ∀ c ∈ x.head?, c ∉ p) (s : Text) :
    dropStart? (s ++ x) p = (dropStart? s p).map (· ++ x) := by
  induction p generalizing s with
  | nil => simp [dropStart?]
  | cons d p ih =>
    cases s with
    | nil =>
      cases x with
      | nil => rfl
      | cons c x =>
        have hc : (c == d) = false := by simpa using fun h => (hx c rfl) (by simp [h])
        simp [dropStart?, hc]
    | cons c s =>
      rw [List.cons_append, dropStart?, dropStart?, ih fun c hc hmem =>
        hx c hc (List.mem_cons_of_mem d hmem)]
      split <;> rfl

/-- A prefix whose last byte is its only one of that kind ends at the first such byte. -/
theorem startsWith_first {d : UInt8} {u p : Text} (hu : d ∉ u) (hp : d ∉ p) (t : Text) :
    startsWith (u ++ d :: t) (p ++ [d]) = true ↔ u = p := by
  constructor
  · intro h
    obtain ⟨r, hr⟩ := startsWith_iff.1 h
    rw [List.append_assoc, List.singleton_append] at hr
    exact (append_first_inj hu hp hr).1
  · rintro rfl
    exact startsWith_iff.2 ⟨t, by simp⟩

/-- A run of bytes ends where the next text begins, if that begins otherwise. -/
theorem span_append_of_head {p : UInt8 → Bool} {x : Text} (hx : ∀ c ∈ x.head?, p c = false)
    (s : Text) :
    (s ++ x).takeWhile p = s.takeWhile p ∧ (s ++ x).dropWhile p = s.dropWhile p ++ x := by
  induction s with
  | nil =>
    cases x with
    | nil => exact ⟨rfl, rfl⟩
    | cons c x =>
      have hc : p c = false := hx c rfl
      simp [hc]
  | cons c s ih =>
    rw [List.cons_append, List.takeWhile_cons, List.takeWhile_cons, List.dropWhile_cons,
      List.dropWhile_cons, ih.1, ih.2]
    cases p c <;> exact ⟨rfl, rfl⟩

theorem stripEnd_append (s p : Text) : stripEnd (s ++ p) p = s := by
  have hends : endsWith (s ++ p) p = true := by
    rw [endsWith, List.isSuffixOf_iff_suffix]
    exact List.suffix_append s p
  rw [stripEnd, dropEnd?, if_pos hends]
  simp

theorem stripEnd_of_ne {s : Text} {c : UInt8} (h : s.getLast? ≠ some c) : stripEnd s [c] = s := by
  have hends : endsWith s [c] = false := by
    rw [endsWith, Bool.eq_false_iff, Ne, List.isSuffixOf_iff_suffix]
    rintro ⟨t, rfl⟩
    exact h List.getLast?_concat
  rw [stripEnd, dropEnd?, hends]
  rfl

theorem length_stripEnd_le (s p : Text) : (stripEnd s p).length ≤ s.length := by
  rw [stripEnd, dropEnd?]
  split <;> simp

/-! ## Search -/

theorem findFrom_add (needle : Text) (i k : Nat) (s : Text) :
    findFrom needle (i + k) s = (findFrom needle i s).map (· + k) := by
  induction s generalizing i with
  | nil =>
    rw [findFrom, findFrom]
    split <;> rfl
  | cons c s ih =>
    rw [findFrom, findFrom, Nat.add_right_comm, ih]
    split <;> rfl

theorem findFrom_append_of_not_mem {d : UInt8} {s : Text} (h : d ∉ s) (needle : Text) (i : Nat)
    (t : Text) :
    findFrom (d :: needle) i (s ++ t) = findFrom (d :: needle) (i + s.length) t := by
  induction s generalizing i with
  | nil => rfl
  | cons c s ih =>
    rw [List.mem_cons, not_or] at h
    have hmiss : (d :: needle).isPrefixOf (c :: (s ++ t)) = false := by
      simp [List.isPrefixOf, h.1]
    rw [List.cons_append, findFrom, hmiss, if_neg (by simp), ih h.2, List.length_cons,
      Nat.add_right_comm, Nat.add_assoc]

/-- What goes on with a visible byte behind its first one does not begin in white space, unless at
its end. -/
theorem findFrom_append_of_not_isSolid {d e : UInt8} {needle w t : Text} (he : isSolid e = true)
    (hw : ∀ c ∈ w, isSolid c = false) (ht : startsWith t (e :: needle) = false) (i : Nat) :
    findFrom (d :: e :: needle) i (w ++ t) = findFrom (d :: e :: needle) (i + w.length) t := by
  induction w generalizing i with
  | nil => rfl
  | cons c w ih =>
    have hrest : (e :: needle).isPrefixOf (w ++ t) = false := by
      cases w with
      | nil => exact ht
      | cons b w =>
        have hb : e ≠ b := fun heb => by simp [hw b (by simp), heb] at he
        simp [List.isPrefixOf, hb]
    have hmiss : (d :: e :: needle).isPrefixOf (c :: (w ++ t)) = false := by
      rw [List.isPrefixOf, hrest, Bool.and_false]
    rw [List.cons_append, findFrom, hmiss, if_neg (by simp),
      ih fun b hb => hw b (List.mem_cons_of_mem c hb), List.length_cons, Nat.add_right_comm,
      Nat.add_assoc]

/-- What is found stands there. -/
theorem exists_of_findFrom {needle s : Text} {i j : Nat} (h : findFrom needle i s = some j) :
    ∃ u t, s = u ++ (needle ++ t) ∧ j = i + u.length := by
  induction s generalizing i with
  | nil =>
    rw [findFrom] at h
    split at h
    · rename_i hempty
      rw [List.isEmpty_iff] at hempty
      exact ⟨[], [], by simp [hempty], by simpa using h.symm⟩
    · cases h
  | cons c s ih =>
    rw [findFrom] at h
    split at h
    · rename_i hstart
      obtain ⟨t, ht⟩ := startsWith_iff.1 hstart
      exact ⟨[], t, ht, by simpa using h.symm⟩
    · obtain ⟨u, t, rfl, rfl⟩ := ih h
      exact ⟨c :: u, t, rfl, by rw [List.length_cons]; omega⟩

/-! ## What cannot complete an occurrence -/

/-- A prefix of an appended text ends in its first part, or that part is a prefix of it. -/
theorem startsWith_append_cases {s t p : Text} (h : startsWith (s ++ t) p = true) :
    (∃ b, s = p ++ b) ∨ ∃ a, p = s ++ a := by
  obtain ⟨r, hr⟩ := startsWith_iff.1 h
  rcases List.append_eq_append_iff.1 hr with ⟨a, ha, -⟩ | ⟨b, hb, -⟩
  · exact .inr ⟨a, ha⟩
  · exact .inl ⟨b, hb⟩

/-- A text that does not hold the last byte of a prefix cannot complete it. -/
theorem startsWith_append_right {e : UInt8} {w : Text} (h : e ∉ w) (p u : Text) :
    startsWith (u ++ w) (p ++ [e]) = startsWith u (p ++ [e]) := by
  induction p generalizing u with
  | nil =>
    cases u with
    | nil =>
      cases w with
      | nil => rfl
      | cons d w =>
        rw [List.mem_cons, not_or] at h
        simp [startsWith, List.isPrefixOf, h.1]
    | cons d u => simp [startsWith, List.isPrefixOf]
  | cons c p ih =>
    cases u with
    | nil =>
      have hfalse : startsWith w (c :: p ++ [e]) = false := by
        rw [Bool.eq_false_iff]
        intro hstart
        obtain ⟨r, rfl⟩ := startsWith_iff.1 hstart
        exact h (by simp)
      rw [List.nil_append, hfalse]
      rfl
    | cons d u =>
      have ih := ih u
      simp only [startsWith, List.cons_append, List.isPrefixOf] at ih ⊢
      rw [ih]

/-- A needle that holds its first byte `d` at its end only, and not in between, occurs across the
border to a text that begins with `d` only if that byte completes it. -/
theorem startsWith_border {d : UInt8} {mid u : Text} (hmid : d ∉ mid) (hu : u ≠ []) (t : Text) :
    startsWith (u ++ d :: t) (d :: (mid ++ [d])) = startsWith (u ++ [d]) (d :: (mid ++ [d])) := by
  rw [Bool.eq_iff_iff]
  constructor
  · intro h
    obtain ⟨r, hr⟩ := startsWith_iff.1 h
    apply startsWith_iff.2
    rcases List.append_eq_append_iff.1 hr with ⟨a, hneedle, ha⟩ | ⟨b, hb, -⟩
    · cases a with
      | nil => exact ⟨[d], by rw [hneedle, List.append_nil]⟩
      | cons e a =>
        obtain ⟨rfl, -⟩ := List.cons.inj ha
        obtain ⟨c, u, rfl⟩ := List.exists_cons_of_ne_nil hu
        rcases List.eq_nil_or_concat a with rfl | ⟨b, e, rfl⟩
        · exact ⟨[], by rw [hneedle, List.append_nil]⟩
        · -- Otherwise the needle would hold the byte in between.
          have hinner : mid ++ [d] = (u ++ d :: b) ++ [e] := by
            simpa using (List.cons.inj hneedle).2
          have hmem : d ∈ mid := by
            rw [(List.append_inj' hinner rfl).1]
            exact List.mem_append_right u List.mem_cons_self
          exact absurd hmem hmid
    · exact ⟨b ++ [d], by rw [hb, List.append_assoc]⟩
  · intro h
    obtain ⟨r, hr⟩ := startsWith_iff.1 h
    refine startsWith_iff.2 ⟨r ++ t, ?_⟩
    rw [← List.append_assoc, ← hr, List.append_assoc]
    rfl

theorem findFrom_append_right {e : UInt8} {w : Text} (h : e ∉ w) (needle : Text) (i : Nat)
    (s : Text) : findFrom (needle ++ [e]) i (s ++ w) = findFrom (needle ++ [e]) i s := by
  have hnil (j : Nat) : findFrom (needle ++ [e]) j [] = none := by
    have hempty : (needle ++ [e]).isEmpty = false := by simp
    rw [findFrom, hempty]
    rfl
  induction s generalizing i with
  | nil =>
    rw [List.nil_append, hnil]
    induction w generalizing i with
    | nil => exact hnil i
    | cons c w ih =>
      have hmiss : startsWith (c :: w) (needle ++ [e]) = false := by
        rw [← List.nil_append (c :: w), startsWith_append_right h]
        cases needle <;> rfl
      rw [startsWith] at hmiss
      rw [findFrom, hmiss, if_neg (by simp), ih fun hmem => h (List.mem_cons_of_mem c hmem)]
  | cons c s ih =>
    have hsame := startsWith_append_right h needle (c :: s)
    rw [startsWith, startsWith, List.cons_append] at hsame
    rw [List.cons_append, findFrom, findFrom, hsame, ih]

/-! ## Cutting -/

theorem slice_self (s : Text) (n : Nat) : slice s n n = [] := by
  rw [slice, Nat.sub_self, List.take_zero]

theorem length_slice {s : Text} {a b : Nat} (h : b ≤ s.length) : (slice s a b).length = b - a := by
  rw [slice, List.length_take, List.length_drop]
  omega

theorem slice_append (u v w : Text) : slice (u ++ (v ++ w)) u.length (u.length + v.length) = v := by
  rw [slice, List.drop_left, Nat.add_sub_cancel_left, List.take_left]

theorem head?_slice (s : Text) (i n : Nat) :
    (slice s i (i + n)).head? = if n = 0 then none else s[i]? := by
  rw [slice, Nat.add_sub_cancel_left, List.head?_take, List.head?_drop]

theorem exists_of_getElem? {s : Text} {i : Nat} {c : UInt8} (h : s[i]? = some c) :
    ∃ a b, s = a ++ c :: b ∧ a.length = i := by
  obtain ⟨hi, hc⟩ := List.getElem?_eq_some_iff.1 h
  refine ⟨s.take i, s.drop (i + 1), ?_, List.length_take_of_le (Nat.le_of_lt hi)⟩
  rw [← hc, List.getElem_cons_drop hi, List.take_append_drop]

theorem findByte?_append {c : UInt8} {s : Text} (h : c ∉ s) (t : Text) :
    findByte? (s ++ c :: t) c = some s.length := by
  induction s with
  | nil => rw [findByte?, List.nil_append, List.findIdx?_cons, beq_self_eq_true, if_pos rfl]; rfl
  | cons d s ih =>
    rw [List.mem_cons, not_or] at h
    have hd : (d == c) = false := by simpa using Ne.symm h.1
    rw [findByte?] at ih ⊢
    rw [List.cons_append, List.findIdx?_cons, hd, ih h.2]
    rfl

theorem exists_of_findByte? {c : UInt8} {s : Text} {i : Nat} (h : findByte? s c = some i) :
    ∃ u t, s = u ++ c :: t ∧ i = u.length ∧ c ∉ u := by
  have hmem : c ∈ s := by
    obtain ⟨hi, hc, -⟩ := List.findIdx?_eq_some_iff_getElem.1 h
    have hget : s[i] = c := by simpa using hc
    exact hget ▸ List.getElem_mem hi
  obtain ⟨u, t, rfl, hu⟩ := List.eq_append_cons_of_mem hmem
  rw [findByte?_append hu] at h
  exact ⟨u, t, rfl, (Option.some.inj h).symm, hu⟩

theorem not_mem_of_findByte? {c : UInt8} {s : Text} (h : findByte? s c = none) : c ∉ s := by
  intro hc
  have := List.findIdx?_eq_none_iff.1 h c hc
  simp at this

theorem find?_append_of_not_mem {d : UInt8} {s : Text} (h : d ∉ s) (needle t : Text) :
    find? (s ++ t) (d :: needle) = (find? t (d :: needle)).map (· + s.length) := by
  rw [find?, findFrom_append_of_not_mem h, findFrom_add, ← find?]

/-- The text is cut at the first separator. -/
theorem cut?_append {d : UInt8} {s : Text} (h : d ∉ s) (needle t : Text) :
    cut? (s ++ (d :: needle) ++ t) (d :: needle) = some (s, t) := by
  have hfirst : find? ((d :: needle) ++ t) (d :: needle) = some 0 := by
    have hprefix : (d :: needle).isPrefixOf ((d :: needle) ++ t) = true :=
      List.isPrefixOf_iff_prefix.2 (List.prefix_append _ t)
    rw [List.cons_append] at hprefix ⊢
    rw [find?, findFrom, if_pos hprefix]
  rw [cut?, List.append_assoc, find?_append_of_not_mem h, hfirst]
  simp

/-- What is passed over in the search does not matter for what follows the cut. -/
theorem cut?_of_find? {s t sep : Text}
    (h : find? (s ++ t) sep = (find? t sep).map (· + s.length)) :
    (cut? (s ++ t) sep).map (·.2) = (cut? t sep).map (·.2) := by
  rw [cut?, cut?, h, Option.map_map, Option.map_map, Option.map_map]
  congr 1
  funext i
  simp only [Function.comp_apply]
  rw [Nat.add_right_comm, Nat.add_comm, List.drop_length_add_append]

end GodotSurvey.Text
