import GodotSurvey.Proofs.Script.Word

/-!
# Method signatures

A `Signature` is a method signature before it is written, with the white space between its parts.
Reading it gives back its name, its parameter list and its type: the keywords are taken off the
front, the parameter list ends where its parenthesis is closed, and the type stands between the
arrow and the next colon.

The type is looked for in everything behind the parameter list, not only up to the colon of the
signature. So a body on the same line is searched for an arrow if the signature has none.

* `methodDecl?_print` — a written signature is read as it was written.
* `methodDecl?_body` — what is read if a body follows on the line.
* `methodDecl?_body_iff` — **a body leaves the declaration alone exactly if the signature has an
  arrow or nothing is read as a return type of the body.**
-/

namespace GodotSurvey.Script

open Text Lexing

/-! ## Written signatures -/

/-- A method signature before it is written: its parts as they stand on the line, and the white
space between them. -/
structure Signature where
  isStatic : Bool := false
  name : Text
  /-- What stands between the parentheses. -/
  params : Text := []
  /-- What stands between the arrow and the colon, if there is an arrow. -/
  type : Option Text := none
  front : Text := []
  afterStatic : Text := " "
  afterFunc : Text := " "
  afterName : Text := []
  afterParams : Text := []
  deriving DecidableEq, Repr

namespace Signature

variable {s : Signature}

/-- What stands before the name. -/
def opening (s : Signature) : Text :=
  onlyIf s.isStatic ("static" ++ s.afterStatic) ++ "func" ++ s.afterFunc

/-- The name and the parameter list. -/
def nameAndParams (s : Signature) : Text := s.name ++ s.afterName ++ "(" ++ s.params ++ ")"

/-- What stands between the parameter list and the colon. -/
def result (s : Signature) : Text :=
  match s.type with
  | none => s.afterParams
  | some t => s.afterParams ++ "->" ++ t

/-- The signature as it is written, up to its colon. -/
def print (s : Signature) : Text :=
  s.front ++ s.opening ++ s.nameAndParams ++ s.result ++ ":"

/-- The name is one, the parameter list is closed by its own parenthesis, and there is no other
colon behind it. -/
structure WellFormed (s : Signature) : Prop where
  name : isIdentifier s.name
  params : IsCode s.params ∧ IsBalanced 40 41 s.params
  type : ∀ t ∈ s.type, ∀ c ∈ t, isQuote c = false ∧ c ≠ 35 ∧ c ≠ 58
  front : isSpace s.front
  afterStatic : isSpace s.afterStatic ∧ s.afterStatic ≠ []
  afterFunc : isSpace s.afterFunc ∧ s.afterFunc ≠ []
  afterName : isSpace s.afterName
  afterParams : isSpace s.afterParams

/-- The declaration that is written. -/
def decl (s : Signature) : MethodDecl where
  name := s.name
  parameters := parameters true s.params
  returnType := (s.type.map trim).getD []
  isStatic := s.isStatic

/-! ## Return types -/

theorem returnType_eq (s : Text) :
    returnType s = match (cut? s "->").map (·.2) with
      | none => []
      | some type => match findUnquoted? type ":" with
        | some i => trim (type.take i)
        | none => trim type := by
  unfold returnType
  cases cut? s "->" <;> rfl

/-- What holds no `-` before the arrow does not matter. -/
theorem returnType_append {u : Text} (h : 45 ∉ u) (s : Text) :
    returnType (u ++ s) = returnType s := by
  have harrow : Text.ofString "->" = [45, 62] := by decide
  have hfind := find?_append_of_not_mem h [62] s
  rw [returnType_eq, returnType_eq, harrow, cut?_of_find? hfind]

/-- A type without quotes and colons is read up to the colon behind it. -/
theorem returnType_arrow {u t : Text} (hu : 45 ∉ u) (ht : ∀ c ∈ t, isQuote c = false ∧ c ≠ 58)
    (s : Text) : returnType (u ++ "->" ++ t ++ 58 :: s) = trim t := by
  have harrow : Text.ofString "->" = [45, 62] := by decide
  have hcolon : Text.ofString ":" = [58] := by decide
  have hshows := shows_of_no_quote fun c hc => (ht c hc).1
  have hcut := cut?_append hu [62] (t ++ 58 :: s)
  have hfind := findUnquoted?_append (d := 58) rfl hshows (fun hc => (ht 58 hc).2 rfl) s
  rw [returnType_eq, List.append_assoc, harrow, hcut, hcolon]
  simp only [Option.map_some, hfind, List.take_left]

/-- White space at the end does not matter. -/
theorem returnType_append_white {w : Text} (hw : White w) (s : Text) :
    returnType (s ++ w) = returnType s := by
  have harrow : Text.ofString "->" = [45] ++ [62] := by decide
  have hcolon : Text.ofString ":" = [] ++ [58] := by decide
  have hsolid {c : UInt8} (hc : isSolid c = true) : c ∉ w := fun hmem => by
    rw [hw.not_isSolid c hmem] at hc
    cases hc
  have hfind : find? (s ++ w) "->" = find? s "->" := by
    rw [harrow]
    exact findFrom_append_right (hsolid rfl) [45] 0 s
  rw [returnType_eq, returnType_eq, cut?, cut?, hfind]
  cases hi : find? s "->" with
  | none => rfl
  | some i =>
    obtain ⟨u, t, rfl, hu⟩ := exists_of_findFrom hi
    have hdrop (v : Text) : (u ++ (("->" : Text) ++ v)).drop (i + ("->" : Text).length) = v := by
      rw [hu, Nat.zero_add, List.drop_length_add_append, List.drop_left]
    have hcolons : findUnquoted? (t ++ w) ":" = findUnquoted? t ":" := by
      rw [hcolon]
      exact findUnquotedFrom_append_right (hsolid rfl) [] .outside 0 t
    simp only [Option.map_some, List.append_assoc, hdrop, hcolons]
    cases hj : findUnquoted? t ":" with
    | none => exact hw.trim_append_right t
    | some j =>
      rw [hcolon, List.nil_append, findUnquoted?_cons] at hj
      obtain ⟨v, r, rfl, hv, -⟩ := exists_of_findUnquotedFrom hj
      simp only [hv, Nat.zero_add, List.append_assoc, List.take_left]

theorem returnType_trimEnd (s : Text) : returnType (trimEnd s) = returnType s := by
  obtain ⟨w, hw, hs, -⟩ := exists_white_trimEnd s
  rw [hs, returnType_append_white hw, ← hs]

/-! ## Reading a written signature -/

/-- What is read of a line with a closed parameter list. -/
theorem methodDecl?_of_inner {line rest params : Text} {isStatic : Bool} {i j : Nat}
    (hfunc : funcKeyword? (trim (stripComment line)) = some (isStatic, rest))
    (hopen : findByte? (trim rest) 40 = some i) (hname : isIdentifier (trim ((trim rest).take i)))
    (hinner : inner (trim rest) i = (params, some j)) :
    methodDecl? line = some {
      name := trim ((trim rest).take i)
      parameters := parameters true params
      returnType := returnType ((trim rest).drop (j + 1))
      isStatic } := by
  have hparen : '('.toUInt8 = 40 := rfl
  simp [methodDecl?, readMethod, hfunc, hparen, hopen, hname, hinner]

theorem nameAndParams_append (s : Signature) (t : Text) :
    s.nameAndParams ++ t = s.name ++ s.afterName ++ 40 :: (s.params ++ 41 :: t) := by
  have hparens : Text.ofString "(" = [40] ∧ Text.ofString ")" = [41] := by decide
  simp [nameAndParams, hparens]

theorem print_append (s : Signature) (rest : Text) :
    s.print ++ rest = s.front ++ (s.opening ++ s.nameAndParams ++ s.result ++ 58 :: rest) := by
  have hcolon : Text.ofString ":" = [58] := by decide
  simp [print, hcolon]

theorem startsSolid_opening (s : Signature) : StartsSolid s.opening := by
  unfold opening
  cases s.isStatic with
  | false => exact ⟨102, rfl, rfl⟩
  | true => exact ⟨115, rfl, rfl⟩

namespace WellFormed

theorem isCode_result (hs : s.WellFormed) : IsCode s.result := by
  have hspace := isCode_of_white (white_of_isSpace hs.afterParams)
  unfold result
  cases htype : s.type with
  | none => exact hspace
  | some t =>
    have ht := hs.type t htype
    exact (hspace.append (by decide)).append
      (isCode_of_forall fun c hc => ⟨(ht c hc).1, (ht c hc).2.1⟩)

/-- The literals of a signature are closed, and no comment begins in it. -/
theorem isCode_print (hs : s.WellFormed) : IsCode s.print := by
  have hwhite {w : Text} (hw : isSpace w) : IsCode w := isCode_of_white (white_of_isSpace hw)
  have hstatic : IsCode (onlyIf s.isStatic ("static" ++ s.afterStatic)) := by
    cases s.isStatic with
    | false => exact isCode_nil
    | true => exact IsCode.append (by decide) (hwhite hs.afterStatic.1)
  have hopening : IsCode s.opening :=
    (hstatic.append (by decide)).append (hwhite hs.afterFunc.1)
  have hname := isCode_of_isIdentifier hs.name
  have hnamed : IsCode s.nameAndParams :=
    (((hname.append (hwhite hs.afterName)).append (by decide)).append hs.params.1).append
      (by decide)
  exact ((((hwhite hs.front).append hopening).append hnamed).append hs.isCode_result).append
    (by decide)

/-- The keywords are read off the front. -/
theorem funcKeyword?_opening (hs : s.WellFormed) {t : Text}
    (ht : IsTrimmed ("func" ++ (s.afterFunc ++ t))) :
    funcKeyword? (s.opening ++ t) = some (s.isStatic, s.afterFunc ++ t) := by
  have hfunc : afterKeyword? ("func" ++ (s.afterFunc ++ t)) "func" = some (s.afterFunc ++ t) :=
    afterKeyword?_white (white_of_isSpace hs.afterFunc.1) hs.afterFunc.2 "func" t
  unfold opening
  cases s.isStatic with
  | false =>
    have hnone : afterKeyword? ("func" ++ (s.afterFunc ++ t)) "static" = none :=
      afterKeyword?_of_ne (by decide) _ _
    simp [funcKeyword?, onlyIf, hnone, hfunc]
  | true =>
    have hwhite := white_of_isSpace hs.afterStatic.1
    have hstatic := afterKeyword?_white hwhite hs.afterStatic.2 "static"
      ("func" ++ (s.afterFunc ++ t))
    have htrim : trim (s.afterStatic ++ ("func" ++ (s.afterFunc ++ t))) =
        "func" ++ (s.afterFunc ++ t) := by
      rw [hwhite.trim_append]
      exact ht
    simp [funcKeyword?, onlyIf, hstatic, htrim, hfunc]

/-- The name and the parameter list are read behind the keywords. -/
theorem methodDecl?_nameAndParams (hs : s.WellFormed) {line rest t : Text} {isStatic : Bool}
    (hfunc : funcKeyword? (trim (stripComment line)) = some (isStatic, rest))
    (hrest : trim rest = s.nameAndParams ++ t) :
    methodDecl? line = some {
      name := s.name, parameters := parameters true s.params, returnType := returnType t,
      isStatic } := by
  have hafterName := white_of_isSpace hs.afterName
  rw [nameAndParams_append] at hrest
  have hopen : findByte? (trim rest) 40 = some (s.name ++ s.afterName).length := by
    rw [hrest]
    apply findByte?_append
    rw [List.mem_append, not_or]
    exact ⟨not_mem_of_isIdentifier hs.name rfl, fun h =>
      absurd (hafterName.not_isSolid 40 h) (by decide)⟩
  have hname : trim ((trim rest).take (s.name ++ s.afterName).length) = s.name := by
    rw [hrest, List.take_left, hafterName.trim_append_right]
    exact isTrimmed_of_isIdentifier hs.name
  have hinner : inner (trim rest) (s.name ++ s.afterName).length =
      (s.params, some ((s.name ++ s.afterName).length + (s.params.length + 1))) := by
    rw [hrest]
    exact inner_group rfl hs.params.1.run hs.params.2 _ t
  have hdrop : (trim rest).drop ((s.name ++ s.afterName).length + (s.params.length + 1) + 1) =
      t := by
    rw [hrest, Nat.add_assoc, List.drop_length_add_append, List.drop_succ_cons,
      List.drop_length_add_append]
    rfl
  rw [methodDecl?_of_inner hfunc hopen (by rw [hname]; exact hs.name) hinner, hname, hdrop]

/-- A written signature is read, whatever code follows it on the line; only the return type may
depend on what follows. -/
theorem methodDecl?_append (hs : s.WellFormed) {rest : Text}
    (hrest : 35 ∉ outerBytes .outside rest) :
    methodDecl? (s.print ++ rest) = some { s.decl with
      returnType := returnType (s.result ++ 58 :: trimEnd rest) } := by
  have hend := trimEnd_trimEnd rest
  have hfront := s.startsSolid_opening
  have hline : trim (stripComment (s.print ++ rest)) =
      s.opening ++ (s.nameAndParams ++ (s.result ++ 58 :: trimEnd rest)) := by
    rw [hs.isCode_print.stripComment_append hrest, print_append,
      (white_of_isSpace hs.front).trim_append,
      trim_solid ((hfront.append s.nameAndParams).append s.result) rfl]
    simp only [List.append_assoc]
  have hkeywords : funcKeyword? (trim (stripComment (s.print ++ rest))) =
      some (s.isStatic, s.afterFunc ++ (s.nameAndParams ++ (s.result ++ 58 :: trimEnd rest))) := by
    have hfunc : StartsSolid "func" := ⟨102, rfl, rfl⟩
    rw [hline]
    apply hs.funcKeyword?_opening
    have htrimmed := isTrimmed_solid
      (((hfunc.append s.afterFunc).append s.nameAndParams).append s.result) (d := 58) rfl hend
    simpa only [List.append_assoc] using htrimmed
  refine hs.methodDecl?_nameAndParams hkeywords ?_
  have hname := startsSolid_of_isIdentifier hs.name
  have hnamed : StartsSolid s.nameAndParams :=
    (((hname.append s.afterName).append "(").append s.params).append ")"
  rw [(white_of_isSpace hs.afterFunc.1).trim_append, ← List.append_assoc]
  exact isTrimmed_solid (hnamed.append s.result) rfl hend

/-- The type behind the arrow is read up to the colon of the signature; without an arrow there, the
first arrow of what follows is taken. -/
theorem returnType_result (hs : s.WellFormed) (t : Text) :
    returnType (s.result ++ 58 :: t) =
      if s.type.isSome then s.decl.returnType else returnType t := by
  have hspace : 45 ∉ s.afterParams := fun h =>
    absurd ((white_of_isSpace hs.afterParams).not_isSolid 45 h) (by decide)
  unfold result decl
  cases htype : s.type with
  | none =>
    have hcolon : 45 ∉ s.afterParams ++ [58] := by
      rw [List.mem_append, not_or]
      exact ⟨hspace, by decide⟩
    have happend := returnType_append hcolon t
    rw [List.append_assoc] at happend
    exact happend
  | some type =>
    have hplain := hs.type type htype
    exact returnType_arrow hspace (fun c hc => ⟨(hplain c hc).1, (hplain c hc).2.2⟩) t

/-- **A written signature is read as it was written.** -/
theorem methodDecl?_print (hs : s.WellFormed) : methodDecl? s.print = some s.decl := by
  have hnil : 35 ∉ outerBytes .outside [] := List.not_mem_nil
  have hread := hs.methodDecl?_append hnil
  have hnothing : returnType (trimEnd []) = [] := rfl
  have htype : (if s.type.isSome then s.decl.returnType else []) = s.decl.returnType := by
    unfold decl
    cases s.type <;> rfl
  rw [List.append_nil, hs.returnType_result, hnothing, htype] at hread
  exact hread

/-- A body on the same line gives the method its return type if the signature has none. -/
theorem methodDecl?_body (hs : s.WellFormed) {body : Text} (hbody : 35 ∉ outerBytes .outside body) :
    methodDecl? (s.print ++ " " ++ body) = some { s.decl with
      returnType := if s.type.isSome then s.decl.returnType else returnType body } := by
  have hblank : Text.ofString " " = [32] := by decide
  have hrest : 35 ∉ outerBytes .outside (" " ++ body : Text) := by
    rw [outerBytes_append, List.mem_append, not_or]
    exact ⟨by decide, hbody⟩
  have hreturn : returnType (trimEnd (" " ++ body)) = returnType body := by
    rw [returnType_trimEnd, returnType_append (by decide)]
  rw [List.append_assoc, hs.methodDecl?_append hrest, hs.returnType_result, hreturn]

/-- A body on the line of a signature does not change what is declared, exactly if the signature has
a type of its own or no type is read in the body. -/
theorem methodDecl?_body_iff (hs : s.WellFormed) {body : Text}
    (hbody : 35 ∉ outerBytes .outside body) :
    methodDecl? s.print = some s.decl ∧
      (methodDecl? (s.print ++ " " ++ body) = some s.decl ↔
        s.type.isSome ∨ returnType body = []) := by
  refine ⟨hs.methodDecl?_print, ?_⟩
  rw [hs.methodDecl?_body hbody, Option.some.injEq]
  cases htype : s.type with
  | some type => simp
  | none =>
    have hdecl : s.decl.returnType = [] := by rw [decl, htype]; rfl
    constructor
    · intro heq
      have hreturn := congrArg MethodDecl.returnType heq
      rw [hdecl] at hreturn
      exact .inr hreturn
    · rintro (h | h)
      · cases h
      · simp [h, ← hdecl]

end WellFormed

instance (s : Signature) : Decidable s.WellFormed :=
  decidable_of_iff
    (isIdentifier s.name ∧ (IsCode s.params ∧ IsBalanced 40 41 s.params) ∧
      (∀ t ∈ s.type, ∀ c ∈ t, isQuote c = false ∧ c ≠ 35 ∧ c ≠ 58) ∧ isSpace s.front ∧
      (isSpace s.afterStatic ∧ s.afterStatic ≠ []) ∧ (isSpace s.afterFunc ∧ s.afterFunc ≠ []) ∧
      isSpace s.afterName ∧ isSpace s.afterParams)
    ⟨fun ⟨h₁, h₂, h₃, h₄, h₅, h₆, h₇, h₈⟩ => ⟨h₁, h₂, h₃, h₄, h₅, h₆, h₇, h₈⟩,
      fun ⟨h₁, h₂, h₃, h₄, h₅, h₆, h₇, h₈⟩ => ⟨h₁, h₂, h₃, h₄, h₅, h₆, h₇, h₈⟩⟩

/-- The signature `static func move(by = Vector2(0, 1)) -> void:`. -/
def moving : Signature where
  isStatic := true
  name := "move"
  params := "by = Vector2(0, 1)"
  type := some " void"
  afterParams := " "

/-- With a type of its own, the signature is read the same before a body with an arrow. -/
theorem methodDecl?_body_iff_moving :
    moving.WellFormed ∧ 35 ∉ outerBytes .outside "call(func() -> int: return 1)" ∧
      methodDecl? moving.print = some moving.decl ∧
      (methodDecl? (moving.print ++ " " ++ "call(func() -> int: return 1)") = some moving.decl ↔
        moving.type.isSome ∨ returnType "call(func() -> int: return 1)" = []) :=
  have hs : moving.WellFormed := by decide +kernel
  have hbody : 35 ∉ outerBytes .outside "call(func() -> int: return 1)" := by decide +kernel
  ⟨hs, hbody, hs.methodDecl?_body_iff hbody⟩

/-- The signature `func make():`. -/
def making : Signature where
  name := "make"

/-- Without one, the return type of a lambda in the body becomes that of the method. -/
theorem body_type_read :
    making.WellFormed ∧ 35 ∉ outerBytes .outside "return func() -> int: return 1" ∧
      methodDecl? making.print = some { name := "make" } ∧
      methodDecl? (making.print ++ " " ++ "return func() -> int: return 1") =
        some { name := "make", returnType := "int" } := by
  decide +kernel

end Signature

end GodotSurvey.Script
