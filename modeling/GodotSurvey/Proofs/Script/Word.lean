import GodotSurvey.Proofs.Lexing.Header
import GodotSurvey.Proofs.Lexing.Operator
import GodotSurvey.Proofs.Text.Search
import GodotSurvey.Script.Line

/-!
# Names and keywords

A name is visible ASCII and holds no delimiter, so every scanner of a line passes over it, and
trimming leaves it alone. A keyword is read off the front of a line if what follows it is no part of
a name.
-/

namespace GodotSurvey.Script

open Text Lexing

/-- What is said of the bytes of a text is decided along the text, not over all bytes there are. -/
instance decidableForallMem (s : Text) (p : UInt8 → Prop) [DecidablePred p] :
    Decidable (∀ c ∈ s, p c) :=
  List.decidableBAll p s

/-! ## Names -/

theorem ne_of_isIdent {c d : UInt8} (hc : isIdent c = true) (hd : isIdent d = false) : c ≠ d := by
  rintro rfl
  exact Bool.noConfusion (hd.symm.trans hc)

theorem isBlank_of_isIdent {c : UInt8} (hc : isIdent c = true) : isBlank c = false := by
  cases hblank : isBlank c with
  | false => rfl
  | true =>
    simp only [isBlank, Bool.or_eq_true, beq_iff_eq] at hblank
    rcases hblank with rfl | rfl <;> cases hc

theorem not_mem_of_isIdent {c : UInt8} (hc : isIdent c = false) {s : Text}
    (hs : ∀ d ∈ s, isIdent d = true) : c ∉ s :=
  fun hmem => Bool.noConfusion (hc.symm.trans (hs c hmem))

section

variable {name : Text}

theorem ne_nil_of_isIdentifier (h : isIdentifier name) : name ≠ [] := by
  rintro rfl
  cases h

theorem isIdent_of_isIdentifier (h : isIdentifier name) : ∀ c ∈ name, isIdent c = true := by
  cases name with
  | nil => cases h
  | cons c s =>
    rw [isIdentifier, Bool.and_eq_true] at h
    exact List.all_eq_true.1 h.2

theorem isTrimmed_of_isIdentifier (h : isIdentifier name) : IsTrimmed name :=
  isTrimmed_of_forall_isSolid fun c hc => isSolid_of_isIdent (isIdent_of_isIdentifier h c hc)

theorem startsSolid_of_isIdentifier (h : isIdentifier name) : StartsSolid name := by
  obtain ⟨c, s, hname⟩ := List.exists_cons_of_ne_nil (ne_nil_of_isIdentifier h)
  have hc := isIdent_of_isIdentifier h c (hname ▸ List.mem_cons_self)
  exact ⟨c, by rw [hname]; rfl, isSolid_of_isIdent hc⟩

theorem not_mem_of_isIdentifier (h : isIdentifier name) {c : UInt8} (hc : isIdent c = false) :
    c ∉ name :=
  not_mem_of_isIdent hc (isIdent_of_isIdentifier h)

theorem shows_of_isIdentifier (h : isIdentifier name) : Shows name name :=
  shows_of_no_quote fun c hc => isQuote_of_isIdent (isIdent_of_isIdentifier h c hc)

theorem isCode_of_isIdentifier (h : isIdentifier name) : IsCode name :=
  isCode_of_forall fun c hc =>
    ⟨isQuote_of_isIdent (isIdent_of_isIdentifier h c hc), fun heq =>
      not_mem_of_isIdentifier h (c := 35) rfl (heq ▸ hc)⟩

end

/-! ## Names with a type -/

/-- A name, and its type behind a colon if there is one. -/
def typedName (name type : Text) : Text := name ++ onlyIf (!type.isEmpty) (": " ++ type)

theorem typedName_nil (name : Text) : typedName name [] = name := List.append_nil name

theorem typedName_of_ne {type : Text} (h : type ≠ []) (name : Text) :
    typedName name type = name ++ 58 :: 32 :: type := by
  have hempty : type.isEmpty = false := by simpa using h
  have hcolon : Text.ofString ": " = [58, 32] := by decide
  rw [typedName, hempty, hcolon]
  rfl

section

variable {name type : Text}

/-- The colon behind the name is found. -/
theorem findTypeColon?_typedName (hname : isIdentifier name) :
    findTypeColon? (typedName name type) = if type = [] then none else some name.length := by
  have hshows := shows_of_isIdentifier hname
  have hcolon : (58 : UInt8) ∉ name := not_mem_of_isIdentifier hname rfl
  by_cases h : type = []
  · rw [h, typedName_nil, if_pos rfl, findTypeColon?_eq_none (by rwa [hshows.seen])]
  · rw [typedName_of_ne h, if_neg h, findTypeColon?_append hshows hcolon (by decide)]

/-- A name with a type is taken apart at its colon; without a type there is none. -/
theorem typedName_cases (hname : isIdentifier name) (htype : IsTrimmed type) :
    (findTypeColon? (typedName name type) = none ∧ typedName name type = name ∧ type = []) ∨
      ∃ i, findTypeColon? (typedName name type) = some i ∧ (typedName name type).take i = name ∧
        trim ((typedName name type).drop (i + 1)) = type := by
  have hcolon : findTypeColon? (typedName name type) = _ := findTypeColon?_typedName hname
  by_cases h : type = []
  · rw [if_pos h] at hcolon
    exact .inl ⟨hcolon, by rw [h, typedName_nil], h⟩
  · rw [if_neg h] at hcolon
    refine .inr ⟨name.length, hcolon, ?_, ?_⟩ <;> rw [typedName_of_ne h]
    · exact List.take_left
    · rw [List.drop_length_add_append]
      exact trim_blank_append htype

theorem isTrimmed_typedName (hname : isIdentifier name) (htype : IsTrimmed type) :
    IsTrimmed (typedName name type) := by
  have hnil := ne_nil_of_isIdentifier hname
  by_cases h : type = []
  · rw [h, typedName_nil]
    exact isTrimmed_of_isIdentifier hname
  · have hfront : IsTrimmed (name ++ [58]) := by
      refine isTrimmed_of_forall_isSolid fun c hc => ?_
      rcases List.mem_append.1 hc with hc | hc
      · exact isSolid_of_isIdent (isIdent_of_isIdentifier hname c hc)
      · rw [List.mem_singleton.1 hc]
        rfl
    have hsplit : name ++ 58 :: 32 :: type = (name ++ [58]) ++ 32 :: type := by simp
    rw [typedName_of_ne h, hsplit]
    exact isTrimmed_append_blank hfront (by simp) htype h

theorem typedName_ne_nil (hname : isIdentifier name) (type : Text) : typedName name type ≠ [] :=
  fun h => ne_nil_of_isIdentifier hname (List.append_eq_nil_iff.1 h).1

theorem length_typedName_le (name type : Text) :
    (typedName name type).length ≤ name.length + type.length + 2 := by
  by_cases h : type = []
  · rw [h, typedName_nil]
    omega
  · rw [typedName_of_ne h]
    simp only [List.length_append, List.length_cons]
    omega

/-- What holds of the bytes of names and of those of the type, and of the colon and the blank
between them, holds of all bytes. -/
theorem forall_typedName {P : UInt8 → Prop} (hname : isIdentifier name)
    (hident : ∀ c, isIdent c = true → P c) (htype : ∀ c ∈ type, P c) (hcolon : P 58)
    (hblank : P 32) : ∀ c ∈ typedName name type, P c := by
  have hparts : ∀ c ∈ name, P c := fun c hc => hident c (isIdent_of_isIdentifier hname c hc)
  intro c hc
  by_cases h : type = []
  · rw [h, typedName_nil] at hc
    exact hparts c hc
  · rw [typedName_of_ne h] at hc
    simp only [List.mem_append, List.mem_cons] at hc
    rcases hc with hc | rfl | rfl | hc
    · exact hparts c hc
    · exact hcolon
    · exact hblank
    · exact htype c hc

/-- A head, taken apart at its type colon. -/
def nameAndType (head : Text) : Text × Text :=
  match findTypeColon? head with
  | some i => (trim (head.take i), trim (head.drop (i + 1)))
  | none => (head, [])

theorem nameAndType_typedName (hname : isIdentifier name) (htype : IsTrimmed type) :
    nameAndType (typedName name type) = (name, type) := by
  have htrim : trim name = name := isTrimmed_of_isIdentifier hname
  rcases typedName_cases hname htype with ⟨hcolon, hhead, rfl⟩ | ⟨i, hcolon, htake, hdrop⟩
  · rw [hhead] at hcolon ⊢
    simp only [nameAndType, hcolon]
  · simp only [nameAndType, hcolon, htake, hdrop, htrim]

theorem length_nameAndType_le (head : Text) :
    (nameAndType head).1.length + (nameAndType head).2.length ≤ head.length := by
  unfold nameAndType
  cases findTypeColon? head with
  | none => exact Nat.le_refl _
  | some i =>
    have htake := length_trim_le (head.take i)
    have hdrop := length_trim_le (head.drop (i + 1))
    rw [List.length_take] at htake
    rw [List.length_drop] at hdrop
    dsimp only
    omega

end

/-! ## Keywords -/

theorem dropStart?_append (p r : Text) : dropStart? (p ++ r) p = some r :=
  dropStart?_eq_some_iff.2 rfl

/-- What is read behind a keyword stands behind it. -/
theorem eq_append_of_afterKeyword? {s keyword rest : Text}
    (h : afterKeyword? s keyword = some rest) : s = keyword ++ rest := by
  unfold afterKeyword? at h
  split at h
  · rename_i hdrop
    split at h
    · cases h
    · rw [← Option.some.inj h]
      exact dropStart?_eq_some_iff.1 hdrop
  · cases h

/-- A keyword is read if no byte of a name follows it. -/
theorem afterKeyword?_append {c : UInt8} (hc : isIdent c = false) (keyword rest : Text) :
    afterKeyword? (keyword ++ c :: rest) keyword = some (c :: rest) := by
  have hhead : ((c :: rest).head?.any isIdent) = false := hc
  rw [afterKeyword?, dropStart?_append]
  simp only [hhead, Bool.false_eq_true, if_false]

theorem afterKeyword?_white {w : Text} (hw : White w) (hne : w ≠ []) (keyword rest : Text) :
    afterKeyword? (keyword ++ (w ++ rest)) keyword = some (w ++ rest) := by
  obtain ⟨c, w, rfl⟩ := List.exists_cons_of_ne_nil hne
  have hc := isIdent_of_not_isSolid (hw.not_isSolid c List.mem_cons_self)
  exact afterKeyword?_append hc keyword (w ++ rest)

/-- A keyword is read if it is the whole first word. -/
theorem takeWhile_of_afterKeyword? {s keyword rest : Text}
    (hkeyword : ∀ c ∈ keyword, isIdent c = true) (h : afterKeyword? s keyword = some rest) :
    s.takeWhile isIdent = keyword := by
  have hs := eq_append_of_afterKeyword? h
  rw [afterKeyword?, hs, dropStart?_append] at h
  have hrest : rest.takeWhile isIdent = [] := by
    cases rest with
    | nil => rfl
    | cons c rest =>
      have hc : isIdent c = false := by
        cases hident : isIdent c with
        | false => rfl
        | true => simp [hident] at h
      rw [List.takeWhile_cons, hc]
      rfl
  rw [hs, List.takeWhile_append_of_pos hkeyword, hrest, List.append_nil]

/-- Where another word stands first, a keyword is not read. -/
theorem afterKeyword?_of_takeWhile_ne {s keyword : Text}
    (hkeyword : ∀ c ∈ keyword, isIdent c = true) (h : s.takeWhile isIdent ≠ keyword) :
    afterKeyword? s keyword = none :=
  Option.eq_none_iff_forall_ne_some.2 fun _ hrest => h (takeWhile_of_afterKeyword? hkeyword hrest)

/-- A keyword that begins otherwise is not read. -/
theorem afterKeyword?_of_ne {c d : UInt8} (h : c ≠ d) (s keyword : Text) :
    afterKeyword? (c :: s) (d :: keyword) = none := by
  have hc : (c == d) = false := by simpa using h
  rw [afterKeyword?, dropStart?, hc]
  rfl

end GodotSurvey.Script
