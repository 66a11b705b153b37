import GodotSurvey.Text.Number

/-!
# Written numbers

An integer can be told from its decimal text, which holds digits and a sign only. Hexadecimal texts
hold digits and letters, and a natural number can be told from its own.
-/

namespace GodotSurvey.Text

theorem toNat_of_isDigit {c : Char} (h : c.isDigit = true) :
    48 ≤ c.val.toNat ∧ c.val.toNat ≤ 57 := by
  simp only [Char.isDigit, Bool.and_eq_true, decide_eq_true_eq] at h
  exact ⟨UInt32.le_iff_toNat_le.mp h.1, UInt32.le_iff_toNat_le.mp h.2⟩

theorem toUInt8_digit_inj {c d : Char} (hc : c.isDigit = true) (hd : d.isDigit = true)
    (h : c.toUInt8 = d.toUInt8) : c = d := by
  have hbyte := congrArg UInt8.toNat h
  simp only [Char.toUInt8, UInt32.toNat_toUInt8] at hbyte
  have hc := toNat_of_isDigit hc
  have hd := toNat_of_isDigit hd
  apply Char.ext
  apply UInt32.toNat.inj
  omega

theorem isDigit_toUInt8 {c : Char} (h : c.isDigit = true) : isDigit c.toUInt8 = true := by
  have hc := toNat_of_isDigit h
  have hbyte : c.toUInt8.toNat = c.val.toNat := by
    simp only [Char.toUInt8, UInt32.toNat_toUInt8]
    omega
  simp only [isDigit, Bool.and_eq_true, decide_eq_true_eq, UInt8.le_iff_toNat_le, hbyte]
  exact hc

theorem map_toUInt8_inj {cs ds : List Char} (hcs : ∀ c ∈ cs, c.isDigit = true)
    (hds : ∀ d ∈ ds, d.isDigit = true) (h : cs.map Char.toUInt8 = ds.map Char.toUInt8) :
    cs = ds := by
  induction cs generalizing ds with
  | nil => simpa [eq_comm] using h
  | cons c cs ih =>
    cases ds with
    | nil => simp at h
    | cons d ds =>
      obtain ⟨hhead, htail⟩ := List.cons.inj h
      rw [toUInt8_digit_inj (hcs c List.mem_cons_self) (hds d List.mem_cons_self) hhead,
        ih (fun e he => hcs e (List.mem_cons_of_mem c he))
          (fun e he => hds e (List.mem_cons_of_mem d he)) htail]

theorem ofNat_inj {m n : Nat} (h : ofNat m = ofNat n) : m = n := by
  have hdigit (k : Nat) : ∀ c ∈ Nat.toDigits 10 k, c.isDigit = true := fun c hc =>
    Nat.isDigit_of_mem_toDigits (by decide) (by decide) hc
  have hdigits := map_toUInt8_inj (hdigit m) (hdigit n) h
  rw [← Nat.ofDigitChars_ten_toDigits (n := m), hdigits, Nat.ofDigitChars_ten_toDigits]

theorem isDigit_of_mem_ofNat {n : Nat} {c : UInt8} (h : c ∈ ofNat n) :
    isDigit c = true := by
  obtain ⟨d, hd, rfl⟩ := List.mem_map.mp h
  exact isDigit_toUInt8 (Nat.isDigit_of_mem_toDigits (by decide) (by decide) hd)

/-- A number is written with digits and a sign. -/
theorem mem_ofInt {n : Int} {c : UInt8} (h : c ∈ ofInt n) :
    c = 45 ∨ isDigit c = true := by
  cases n with
  | ofNat n => exact .inr (isDigit_of_mem_ofNat h)
  | negSucc n =>
    rcases List.mem_append.mp h with h | h
    · have hminus : (ofString "-") = [45] := rfl
      rw [hminus] at h
      exact .inl (List.mem_singleton.mp h)
    · exact .inr (isDigit_of_mem_ofNat h)

theorem ofInt_inj {m n : Int} (h : ofInt m = ofInt n) : m = n := by
  have hsign (m n : Nat) : ofNat m ≠ ofString "-" ++ ofNat (n + 1) := by
    intro heq
    have hmem : 45 ∈ ofNat m := heq ▸ List.mem_append_left _ List.mem_cons_self
    exact absurd (isDigit_of_mem_ofNat hmem) (by decide)
  cases m with
  | ofNat m =>
    cases n with
    | ofNat n => rw [ofNat_inj h]
    | negSucc n => exact absurd h (hsign m n)
  | negSucc m =>
    cases n with
    | ofNat n => exact absurd h.symm (hsign n m)
    | negSucc n =>
      have hnat := ofNat_inj (List.append_cancel_left h)
      rw [Nat.succ.inj hnat]

theorem isIdent_of_mem_hexOfNat {n : Nat} {c : UInt8} (h : c ∈ hexOfNat n) : isIdent c = true := by
  have hdigit : ∀ k : Fin 16, isIdent (Nat.digitChar k).toUInt8 = true := by decide
  have hdigits (n : Nat) : ∀ d ∈ Nat.toDigits 16 n, isIdent d.toUInt8 = true := by
    induction n using Nat.strongRecOn with
    | ind n ih =>
      rw [Nat.toDigits_eq_if (by decide)]
      split
      · rename_i hn
        simpa using hdigit ⟨n, hn⟩
      · rename_i hn
        intro d hd
        rcases List.mem_append.mp hd with hd | hd
        · exact ih (n / 16) (by omega) d hd
        · rw [List.mem_singleton.mp hd]
          exact hdigit ⟨n % 16, Nat.mod_lt n (by decide)⟩
  obtain ⟨d, hd, rfl⟩ := List.mem_map.mp h
  exact hdigits n d hd

theorem hexOfNat_eq (n : Nat) :
    hexOfNat n = if n < 16 then [(Nat.digitChar n).toUInt8]
      else hexOfNat (n / 16) ++ [(Nat.digitChar (n % 16)).toUInt8] := by
  rw [hexOfNat, hexOfNat, Nat.toDigits_eq_if (by decide)]
  split
  · rfl
  · rw [List.map_append]
    rfl

theorem hexOfNat_ne_nil (n : Nat) : hexOfNat n ≠ [] := by
  rw [hexOfNat_eq]
  split <;> simp

theorem hexOfNat_inj {m n : Nat} (h : hexOfNat m = hexOfNat n) : m = n := by
  have hdigit : ∀ i j : Fin 16,
      (Nat.digitChar i).toUInt8 = (Nat.digitChar j).toUInt8 → i = j := by decide
  have hlone : ∀ (s : Text) (b c : UInt8), [b] = s ++ [c] → s = [] := fun s b c h =>
    (List.append_inj' (show [] ++ [b] = s ++ [c] from h) rfl).1.symm
  induction m using Nat.strongRecOn generalizing n with
  | ind m ih =>
    rw [hexOfNat_eq m, hexOfNat_eq n] at h
    split at h
    · rename_i hm
      split at h
      · rename_i hn
        exact Fin.mk.inj (hdigit ⟨m, hm⟩ ⟨n, hn⟩ (List.singleton_inj.mp h))
      · exact absurd (hlone _ _ _ h) (hexOfNat_ne_nil _)
    · rename_i hm
      split at h
      · exact absurd (hlone _ _ _ h.symm) (hexOfNat_ne_nil _)
      · obtain ⟨hhigh, hlow⟩ := List.append_inj' h rfl
        have hquot := ih (m / 16) (by omega) hhigh
        have hrem := Fin.mk.inj (hdigit ⟨m % 16, Nat.mod_lt m (by decide)⟩
          ⟨n % 16, Nat.mod_lt n (by decide)⟩ (List.singleton_inj.mp hlow))
        omega

end GodotSurvey.Text
