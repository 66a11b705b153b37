import GodotSurvey.Proofs.Script.Signature
import GodotSurvey.Report.Script

/-!
# Methods as they are declared

A report writes the parameters of a method as they are declared, and reading the written list gives
them back. A list is split at every comma and a parameter at its first assignment and type colon, so
types and defaults may hold neither; parentheses may be nested in them.

* `parameters_parametersText` — a written parameter list is read as it was written.
* `methodDecl?_signatureText` — **so is the whole signature of a method.**
-/

namespace GodotSurvey

open Text Lexing

/-! ## Well-formed methods -/

/-- A type or a default value that can stand in a parameter list; nothing stands for its absence. -/
structure IsFragment (s : Text) : Prop where
  trimmed : IsTrimmed s
  plain : ∀ c ∈ s, isQuote c = false ∧ c ∉ Text.ofString ",#:="
  balanced : IsBalanced 40 41 s

instance (s : Text) : Decidable (IsFragment s) :=
  decidable_of_iff (IsTrimmed s ∧ (∀ c ∈ s, isQuote c = false ∧ c ∉ Text.ofString ",#:=") ∧
      IsBalanced 40 41 s)
    ⟨fun ⟨h₁, h₂, h₃⟩ => ⟨h₁, h₂, h₃⟩, fun ⟨h₁, h₂, h₃⟩ => ⟨h₁, h₂, h₃⟩⟩

theorem IsFragment.visible {s : Text} (hs : IsFragment s) :
    ∀ c ∈ s, isQuote c = false ∧ c ≠ 35 ∧ c ≠ 44 ∧ c ≠ 61 := by
  have hmarks : 35 ∈ Text.ofString ",#:=" ∧ 44 ∈ Text.ofString ",#:=" ∧
      61 ∈ Text.ofString ",#:=" := by decide
  intro c hc
  obtain ⟨hquote, hmark⟩ := hs.plain c hc
  exact ⟨hquote, fun h => hmark (h ▸ hmarks.1), fun h => hmark (h ▸ hmarks.2.1),
    fun h => hmark (h ▸ hmarks.2.2)⟩

/-- The parameter can be written in a list. -/
structure Parameter.WellFormed (p : Parameter) : Prop where
  name : isIdentifier p.name
  type : IsFragment p.type
  default : IsFragment p.default

instance (p : Parameter) : Decidable p.WellFormed :=
  decidable_of_iff (isIdentifier p.name ∧ IsFragment p.type ∧ IsFragment p.default)
    ⟨fun ⟨h₁, h₂, h₃⟩ => ⟨h₁, h₂, h₃⟩, fun ⟨h₁, h₂, h₃⟩ => ⟨h₁, h₂, h₃⟩⟩

/-- The method can be written as a signature. -/
structure MethodDecl.WellFormed (m : MethodDecl) : Prop where
  name : isIdentifier m.name
  parameters : ∀ p ∈ m.parameters, p.WellFormed
  returnTrimmed : IsTrimmed m.returnType
  returnPlain : ∀ c ∈ m.returnType, isQuote c = false ∧ c ∉ Text.ofString "#:"

instance (m : MethodDecl) : Decidable m.WellFormed :=
  decidable_of_iff (isIdentifier m.name ∧ (∀ p ∈ m.parameters, p.WellFormed) ∧
      IsTrimmed m.returnType ∧ ∀ c ∈ m.returnType, isQuote c = false ∧ c ∉ Text.ofString "#:")
    ⟨fun ⟨h₁, h₂, h₃, h₄⟩ => ⟨h₁, h₂, h₃, h₄⟩, fun ⟨h₁, h₂, h₃, h₄⟩ => ⟨h₁, h₂, h₃, h₄⟩⟩

/-- The parameter with the type that stands for none, if it has none. -/
def Parameter.typed (p : Parameter) : Parameter :=
  { p with type := if p.type.isEmpty then inferredType else p.type }

/-- The signature of the method as it is declared. -/
def MethodDecl.signatureText (m : MethodDecl) : Text :=
  onlyIf m.isStatic "static " ++ "func " ++ m.name ++ "(" ++ Report.parametersText m.parameters
    ++ ")" ++ onlyIf (!m.returnType.isEmpty) (" -> " ++ m.returnType) ++ ":"

namespace Script

open Report

/-! ## One parameter -/

section

variable {p : Parameter}

/-- The type that is written. -/
def shownType (p : Parameter) : Text := if p.type = inferredType then [] else p.type

theorem parameterText_eq (p : Parameter) :
    parameterText p =
      typedName p.name (shownType p) ++ onlyIf (!p.default.isEmpty) (" = " ++ p.default) := by
  have hshown : onlyIf (!p.type.isEmpty && p.type != inferredType) (": " ++ p.type) =
      onlyIf (!(shownType p).isEmpty) (": " ++ shownType p) := by
    unfold shownType
    by_cases h : p.type = inferredType <;> simp [h, onlyIf]
  rw [parameterText, hshown, typedName]

theorem isFragment_nil : IsFragment [] := ⟨rfl, by simp, rfl⟩

theorem isFragment_shownType (hp : p.WellFormed) : IsFragment (shownType p) := by
  unfold shownType
  split
  · exact isFragment_nil
  · exact hp.type

theorem visible_typedName (hp : p.WellFormed) :
    ∀ c ∈ typedName p.name (shownType p), isQuote c = false ∧ c ≠ 35 ∧ c ≠ 44 ∧ c ≠ 61 :=
  forall_typedName hp.name
    (fun _ hc => ⟨isQuote_of_isIdent hc, ne_of_isIdent hc rfl, ne_of_isIdent hc rfl,
      ne_of_isIdent hc rfl⟩)
    (isFragment_shownType hp).visible (by decide) (by decide)

theorem shows_typedName (hp : p.WellFormed) :
    Shows (typedName p.name (shownType p)) (typedName p.name (shownType p)) :=
  shows_of_no_quote fun c hc => (visible_typedName hp c hc).1

/-- A parameter of which the head and the default are known. -/
def headed (head default : Text) : Parameter where
  name := (nameAndType head).1
  type := if (nameAndType head).2.isEmpty then inferredType else (nameAndType head).2
  default := default

theorem parameter_of_none {s : Text} (h : findAssignment? s = none) :
    parameter true s = headed (trim s) [] := by
  simp only [parameter, h, headed, nameAndType, untypedParameter, Option.any_none, Bool.and_true,
    Bool.false_eq_true, if_false]
  rfl

theorem parameter_of_plain {s : Text} {i : Nat} (h : findAssignment? s = some ⟨i, false⟩) :
    parameter true s = headed (trim (s.take i)) (trim (s.drop (i + 1))) := by
  simp only [parameter, h, headed, nameAndType, untypedParameter, Assignment.width, Option.any_some,
    Bool.and_true, Bool.false_eq_true, if_false]
  rfl

theorem headed_typedName (hp : p.WellFormed) :
    headed (typedName p.name (shownType p)) p.default = p.typed := by
  have htype : (if (shownType p).isEmpty then inferredType else shownType p) = p.typed.type := by
    unfold shownType Parameter.typed
    by_cases h : p.type = inferredType <;> simp [h]
  rw [headed, nameAndType_typedName hp.name (isFragment_shownType hp).trimmed]
  simp only [htype]
  rfl

/-- A written parameter is read as it was written, with the type that stands for none. -/
theorem parameter_parameterText (hp : p.WellFormed) :
    parameter true (parameterText p) = p.typed := by
  have hshows := shows_typedName hp
  have hequals : 61 ∉ typedName p.name (shownType p) := fun hc =>
    (visible_typedName hp 61 hc).2.2.2 rfl
  have hhead := isTrimmed_typedName hp.name (isFragment_shownType hp).trimmed
  rw [parameterText_eq, ← headed_typedName hp]
  by_cases hdefault : p.default = []
  · have hnone : findAssignment? (typedName p.name (shownType p)) = none :=
      findAssignment?_eq_none (by rwa [hshows.seen])
    have happend : typedName p.name (shownType p) ++
        onlyIf (!p.default.isEmpty) (" = " ++ p.default) = typedName p.name (shownType p) := by
      rw [hdefault]
      exact List.append_nil _
    rw [happend, parameter_of_none hnone, hhead, hdefault]
  · have hwalrus : findUnquoted? p.default ":=" = none := by
      have hcolon : Text.ofString ":=" = [58, 61] := by decide
      have hshows := shows_of_no_quote fun c hc => (hp.default.plain c hc).1
      rw [hcolon, findUnquoted?_eq_none]
      rw [hshows.seen]
      exact fun hc => (hp.default.plain 58 hc).2 (by decide)
    have happend : typedName p.name (shownType p) ++
        onlyIf (!p.default.isEmpty) (" = " ++ p.default) =
          typedName p.name (shownType p) ++ " = " ++ p.default := by
      simp [hdefault, onlyIf]
    obtain ⟨htake, hdrop⟩ := cut_plain (typedName p.name (shownType p)) p.default
    rw [happend, parameter_of_plain (findAssignment?_plain hshows hequals hwalrus), htake, hdrop,
      trim_append_blank hhead, trim_blank_append hp.default.trimmed]

/-! ## The bytes of a written parameter -/

theorem visible_parameterText (hp : p.WellFormed) :
    ∀ c ∈ parameterText p, isQuote c = false ∧ c ≠ 35 ∧ c ≠ 44 := by
  have hequals : ∀ c ∈ Text.ofString " = ", isQuote c = false ∧ c ≠ 35 ∧ c ≠ 44 := by
    decide +kernel
  intro c hc
  rw [parameterText_eq, List.mem_append] at hc
  rcases hc with hc | hc
  · obtain ⟨hquote, hhash, hcomma, -⟩ := visible_typedName hp c hc
    exact ⟨hquote, hhash, hcomma⟩
  · unfold onlyIf at hc
    split at hc
    · rcases List.mem_append.1 hc with hc | hc
      · exact hequals c hc
      · obtain ⟨hquote, hhash, hcomma, -⟩ := hp.default.visible c hc
        exact ⟨hquote, hhash, hcomma⟩
    · cases hc

theorem isCode_parameterText (hp : p.WellFormed) : IsCode (parameterText p) :=
  isCode_of_forall fun c hc =>
    have hvisible := visible_parameterText hp c hc
    ⟨hvisible.1, hvisible.2.1⟩

theorem isTrimmed_parameterText (hp : p.WellFormed) : IsTrimmed (parameterText p) := by
  have hhead := isTrimmed_typedName hp.name (isFragment_shownType hp).trimmed
  have hne := typedName_ne_nil hp.name (shownType p)
  rw [parameterText_eq]
  by_cases h : p.default = []
  · rw [h]
    exact (List.append_nil _).symm ▸ hhead
  · have hequals : Text.ofString " = " = [32, 61, 32] := by decide
    have hsplit : typedName p.name (shownType p) ++
        onlyIf (!p.default.isEmpty) (" = " ++ p.default) =
          (typedName p.name (shownType p) ++ 32 :: [61]) ++ 32 :: p.default := by
      simp [h, onlyIf, hequals]
    rw [hsplit]
    exact isTrimmed_append_blank
      (isTrimmed_append_blank hhead hne (isTrimmed_singleton rfl) (by simp)) (by simp)
      hp.default.trimmed h

theorem parameterText_ne_nil (hp : p.WellFormed) : parameterText p ≠ [] := by
  rw [parameterText, List.append_assoc]
  exact fun h => ne_nil_of_isIdentifier hp.name (List.append_eq_nil_iff.1 h).1

/-- Parentheses are balanced in a written parameter. -/
theorem isBalanced_parameterText (hp : p.WellFormed) : IsBalanced 40 41 (parameterText p) := by
  have honly {b : Bool} {s : Text} (hs : IsBalanced 40 41 s) : IsBalanced 40 41 (onlyIf b s) := by
    unfold onlyIf
    split
    · exact hs
    · rfl
  have hname : IsBalanced 40 41 p.name := by
    have hshows := shows_of_isIdentifier hp.name
    apply isBalanced_of_not_mem <;> rw [hshows.seen]
    · exact not_mem_of_isIdentifier hp.name rfl
    · exact not_mem_of_isIdentifier hp.name rfl
  have htype : IsBalanced 40 41 (": " ++ shownType p) :=
    IsBalanced.append (by decide) (by decide) (isFragment_shownType hp).balanced
  have hdefault : IsBalanced 40 41 (" = " ++ p.default) :=
    IsBalanced.append (by decide) (by decide) hp.default.balanced
  rw [parameterText_eq]
  exact (hname.append (shows_of_isIdentifier hp.name).run (honly htype)).append
    (shows_typedName hp).run (honly hdefault)

end

/-! ## Parameter lists -/

section

variable {ps : List Parameter}

theorem isCode_parametersText (hps : ∀ p ∈ ps, p.WellFormed) : IsCode (parametersText ps) := by
  have hsep : ∀ c ∈ Text.ofString ", ", isQuote c = false ∧ c ≠ 35 := by decide +kernel
  refine isCode_of_forall fun c hc => ?_
  rcases mem_join hc with hc | ⟨t, ht, hc⟩
  · exact hsep c hc
  · obtain ⟨p, hp, rfl⟩ := List.mem_map.1 ht
    have hvisible := visible_parameterText (hps p hp) c hc
    exact ⟨hvisible.1, hvisible.2.1⟩

theorem isBalanced_parametersText (hps : ∀ p ∈ ps, p.WellFormed) :
    IsBalanced 40 41 (parametersText ps) := by
  induction ps with
  | nil => rfl
  | cons p ps ih =>
    have hp := hps p List.mem_cons_self
    have hps' := fun q hq => hps q (List.mem_cons_of_mem p hq)
    by_cases hne : ps = []
    · rw [hne]
      exact isBalanced_parameterText hp
    · have hsep : IsBalanced 40 41 ", " := by decide
      have hmap : ps.map parameterText ≠ [] := by simpa using hne
      have hcons := join_cons ", " (parameterText p) hmap
      have hcode := isCode_parameterText hp
      rw [parametersText, List.map_cons, hcons]
      exact ((isBalanced_parameterText hp).append hcode.run hsep).append
        (hcode.append (t := ", ") (by decide)).run (ih hps')

/-- **A written parameter list is read as it was written**, with the type that stands for none. -/
theorem parameters_parametersText (hps : ∀ p ∈ ps, p.WellFormed) :
    parameters true (parametersText ps) = ps.map Parameter.typed := by
  cases ps with
  | nil => rfl
  | cons p ps =>
    have hsep : Text.ofString ", " = [44, 32] := by decide
    have hcomma : ','.toUInt8 = 44 := rfl
    have hnone : ∀ t ∈ ps.map parameterText, (44 : UInt8) ∉ t := by
      intro t ht hc
      obtain ⟨q, hq, rfl⟩ := List.mem_map.1 ht
      exact (visible_parameterText (hps q (List.mem_cons_of_mem p hq)) 44 hc).2.2 rfl
    have hfirst : (44 : UInt8) ∉ parameterText p := fun hc =>
      (visible_parameterText (hps p List.mem_cons_self) 44 hc).2.2 rfl
    have htrim : (parameterText p :: (ps.map parameterText).map (32 :: ·)).map trim =
        (p :: ps).map parameterText := by
      rw [List.map_cons, List.map_cons, List.map_map, List.map_map]
      congr 1
      · exact isTrimmed_parameterText (hps p List.mem_cons_self)
      · refine List.map_congr_left fun q hq => ?_
        exact trim_blank_append (isTrimmed_parameterText (hps q (List.mem_cons_of_mem p hq)))
    have hfilter : ((p :: ps).map parameterText).filter (!·.isEmpty) =
        (p :: ps).map parameterText := by
      rw [List.filter_eq_self]
      intro t ht
      obtain ⟨q, hq, rfl⟩ := List.mem_map.1 ht
      simpa using parameterText_ne_nil (hps q hq)
    rw [parameters, hcomma, parametersText, hsep, List.map_cons, splitByte_join_blank hfirst hnone
      (by decide), htrim, hfilter, List.map_map]
    exact List.map_congr_left fun q hq => parameter_parameterText (hps q hq)

end

end Script

/-! ## Methods -/

namespace MethodDecl

open Script Report

variable {m : MethodDecl}

/-- The written signature of the method, with its white space. -/
def signature (m : MethodDecl) : Signature where
  isStatic := m.isStatic
  name := m.name
  params := parametersText m.parameters
  type := if m.returnType.isEmpty then none else some (" " ++ m.returnType)
  afterParams := onlyIf (!m.returnType.isEmpty) " "

theorem signatureText_eq (m : MethodDecl) : m.signatureText = m.signature.print := by
  have hstatic : Text.ofString "static " = "static" ++ " " := by decide
  have hfunc : Text.ofString "func " = "func" ++ " " := by decide
  have harrow : Text.ofString " -> " = " " ++ "->" ++ " " := by decide
  unfold signatureText Signature.print Signature.opening Signature.nameAndParams Signature.result
    signature
  rw [hstatic, hfunc, harrow]
  cases m.returnType.isEmpty <;> simp [onlyIf]

theorem WellFormed.signature (hm : m.WellFormed) : m.signature.WellFormed where
  name := hm.name
  params := ⟨isCode_parametersText hm.parameters, isBalanced_parametersText hm.parameters⟩
  type := by
    have hblank : ∀ c ∈ Text.ofString " ", isQuote c = false ∧ c ≠ 35 ∧ c ≠ 58 := by decide +kernel
    intro t ht c hc
    have hsome : t = " " ++ m.returnType := by
      unfold MethodDecl.signature at ht
      split at ht
      · cases ht
      · exact (Option.some.inj ht).symm
    rw [hsome] at hc
    rcases List.mem_append.1 hc with hc | hc
    · exact hblank c hc
    · have hplain := hm.returnPlain c hc
      exact ⟨hplain.1, by rintro rfl; exact hplain.2 (by decide),
        by rintro rfl; exact hplain.2 (by decide)⟩
  front := rfl
  afterStatic := ⟨rfl, List.cons_ne_nil 32 []⟩
  afterFunc := ⟨rfl, List.cons_ne_nil 32 []⟩
  afterName := rfl
  afterParams := by
    unfold MethodDecl.signature
    cases m.returnType.isEmpty <;> rfl

/-- **A written method signature is read as it was written**, with the type that stands for none. -/
theorem methodDecl?_signatureText (hm : m.WellFormed) :
    methodDecl? m.signatureText =
      some { m with parameters := m.parameters.map Parameter.typed, line := 0 } := by
  have htype : ((m.signature.type).map trim).getD [] = m.returnType := by
    unfold signature
    by_cases h : m.returnType = []
    · rw [h]
      rfl
    · have hempty : m.returnType.isEmpty = false := by simpa using h
      have hblank : trim (" " ++ m.returnType) = m.returnType :=
        trim_blank_append hm.returnTrimmed
      simp [hempty, hblank]
  rw [signatureText_eq, hm.signature.methodDecl?_print, Signature.decl, htype]
  simp only [signature, parameters_parametersText hm.parameters]

/-- The method `static func place(at: Vector2 = snap((start() + step)), on) -> Array[int]:`. -/
def placing : MethodDecl where
  name := "place"
  parameters := [
    { name := "at", type := "Vector2", default := "snap((start() + step))" }, { name := "on" }]
  returnType := "Array[int]"
  isStatic := true

theorem methodDecl?_signatureText_placing :
    placing.WellFormed ∧
      methodDecl? placing.signatureText =
        some { placing with parameters := placing.parameters.map Parameter.typed, line := 0 } :=
  have hm : placing.WellFormed := by decide +kernel
  ⟨hm, methodDecl?_signatureText hm⟩

end MethodDecl

end GodotSurvey
