import GodotSurvey.Proofs.Script.Annotation
import GodotSurvey.Proofs.Script.Members

/-!
# Lines that declare a variable

What is read of a line at the top level is decided by its first word. Annotations and variables
begin with words of their own, so nothing else is read of their lines: an annotation on a line of
its own waits, and a variable takes the annotations that wait and those on its line.

* `variableDecl?_printAnnotations` — annotations that are written before a variable belong to it.
* `declare_print`, `declare_variable` — **what the lines of annotations and variables do.**
-/

namespace GodotSurvey.Script

open Text Lexing

/-! ## What a line begins with -/

/-- The code is read as annotations or a variable: no other declaration begins so. -/
structure BeginsMember (code : Text) : Prop where
  func : funcKeyword? code = none
  className : afterKeyword? code "class_name" = none
  base : afterKeyword? code "extends" = none
  innerClass : afterKeyword? code "class" = none
  signal : afterKeyword? code "signal" = none
  enum : afterKeyword? code "enum" = none

/-- The words with which a variable begins; an annotation with `@` begins with none. -/
def memberWords : List Text := ["", "export", "onready", "const", "static", "var"]

theorem beginsMember_of_mem {code : Text} (h : code.takeWhile isIdent ∈ memberWords)
    (hstatic : ∀ rest, afterKeyword? code "static" = some rest →
      afterKeyword? (trim rest) "func" = none) : BeginsMember code := by
  have hnone {keyword : Text} (hident : ∀ c ∈ keyword, isIdent c = true)
      (hkeyword : keyword ∉ memberWords) : afterKeyword? code keyword = none :=
    afterKeyword?_of_takeWhile_ne hident fun heq => hkeyword (heq ▸ h)
  have hfunc : funcKeyword? code = none := by
    have hplain : afterKeyword? code "func" = none := hnone (by decide) (by decide)
    unfold funcKeyword?
    cases hrest : afterKeyword? code "static" with
    | none => simp only [hplain, Option.map_none]
    | some rest => simp only [hstatic rest hrest, Option.map_none]
  exact ⟨hfunc, hnone (by decide) (by decide), hnone (by decide) (by decide),
    hnone (by decide) (by decide), hnone (by decide) (by decide), hnone (by decide) (by decide)⟩

/-- An annotation is no keyword of a declaration. -/
theorem beginsMember_of_annotationLength {s : Text} (h : annotationLength s ≠ 0) :
    BeginsMember s := by
  have hword : s.takeWhile isIdent ∈ memberWords ∧ s.takeWhile isIdent ≠ "static" := by
    unfold annotationLength at h
    split at h
    · exact absurd rfl h
    · rename_i c rest
      split at h
      · rename_i hat
        obtain rfl : c = 64 := eq_of_beq hat
        have hnil : (64 :: rest).takeWhile isIdent = [] := rfl
        rw [hnil]
        decide
      · split at h
        · rename_i hexport
          rw [takeWhile_of_afterKeyword? (by decide) hexport]
          decide
        · split at h
          · rename_i honready
            obtain ⟨after, hafter⟩ := Option.isSome_iff_exists.1 honready
            rw [takeWhile_of_afterKeyword? (by decide) hafter]
            decide
          · exact absurd rfl h
  refine beginsMember_of_mem hword.1 fun rest hrest => ?_
  exact absurd (takeWhile_of_afterKeyword? (by decide) hrest) hword.2

theorem beginsMember_of_keyword {code : Text} (h : (variableKeyword? code).isSome = true) :
    BeginsMember code := by
  obtain ⟨read, hread⟩ := Option.isSome_iff_exists.1 h
  unfold variableKeyword? at hread
  split at hread
  · rename_i hconst
    have hword := takeWhile_of_afterKeyword? (by decide) hconst
    refine beginsMember_of_mem (by rw [hword]; decide) fun rest hrest => ?_
    have hstatic := takeWhile_of_afterKeyword? (by decide) hrest
    exact absurd (hword.symm.trans hstatic) (by decide)
  · split at hread
    · rename_i rest hstatic
      have hword := takeWhile_of_afterKeyword? (by decide) hstatic
      obtain ⟨body, hvar, -⟩ := Option.map_eq_some_iff.1 hread
      have hvar := takeWhile_of_afterKeyword? (by decide) hvar
      refine beginsMember_of_mem (by rw [hword]; decide) fun rest' hrest => ?_
      obtain rfl := Option.some.inj (hstatic.symm.trans hrest)
      exact afterKeyword?_of_takeWhile_ne (by decide) (by rw [hvar]; decide)
    · rename_i hstatic
      obtain ⟨body, hvar, -⟩ := Option.map_eq_some_iff.1 hread
      have hword := takeWhile_of_afterKeyword? (by decide) hvar
      refine beginsMember_of_mem (by rw [hword]; decide) fun rest hrest => ?_
      rw [hstatic] at hrest
      cases hrest

/-! ## Reading a variable with its annotations -/

theorem annotate_append (xs ys : List Text) (v : VariableDecl) :
    annotate (xs ++ ys) v = annotate xs (annotate ys v) := by
  have hexport : (v.isExport || (xs ++ ys).any isExportAnnotation) =
      (v.isExport || ys.any isExportAnnotation || xs.any isExportAnnotation) := by
    rw [List.any_append, Bool.or_assoc, Bool.or_comm (xs.any _)]
  have honready : (v.isOnready || (xs ++ ys).any isOnreadyAnnotation) =
      (v.isOnready || ys.any isOnreadyAnnotation || xs.any isOnreadyAnnotation) := by
    rw [List.any_append, Bool.or_assoc, Bool.or_comm (xs.any _)]
  unfold annotate
  simp only [List.append_assoc, hexport, honready]
  cases v.isOnready || ys.any isOnreadyAnnotation <;> cases v.isConstant <;>
    cases xs.any isOnreadyAnnotation <;> rfl

/-- Annotations that are written before the line of a variable are those of the variable. -/
theorem variableDecl?_printAnnotations {as : List Annotation} (has : ∀ a ∈ as, a.WellFormed)
    (d : Text) :
    variableDecl? (printAnnotations as ++ d) =
      (variableDecl? d).map (annotate (as.map (·.print))) := by
  unfold variableDecl?
  rw [(isCode_printAnnotations has).stripComment_front, splitAnnotations_append has]
  dsimp only
  cases variableKeyword? (splitAnnotations (stripComment d)).2 with
  | none => rfl
  | some keyword =>
    obtain ⟨isConstant, rest⟩ := keyword
    dsimp only
    rw [Option.map_map]
    congr 1
    funext v
    exact annotate_append _ _ v

namespace Line

theorem trim_stripComment_code (l : Line) : trim (stripComment l.code) = l.code := by
  rw [code_eq, trim_stripComment_trim, stripComment_stripComment]

theorem splitAnnotations_code (l : Line) :
    splitAnnotations (stripComment l.code) = splitAnnotations l.code := by
  rw [← splitAnnotations_trim, trim_stripComment_code]

/-- A variable is declared by the code of its line. -/
theorem variableDecl?_code (l : Line) : variableDecl? l.code = variableDecl? l.text := by
  have hsplit :
      splitAnnotations (stripComment l.code) = splitAnnotations (stripComment l.text) := by
    rw [splitAnnotations_code, code_eq, splitAnnotations_trim]
  unfold variableDecl?
  rw [hsplit]

section

variable {l : Line} {v : VariableDecl}

theorem isSome_variableKeyword? (h : variableDecl? l.text = some v) :
    (variableKeyword? (splitAnnotations l.code).2).isSome = true := by
  rw [← variableDecl?_code, variableDecl?, splitAnnotations_code] at h
  dsimp only at h
  cases hkeyword : variableKeyword? (splitAnnotations l.code).2 with
  | none =>
    rw [hkeyword] at h
    cases h
  | some keyword => rfl

theorem beginsMember (h : variableDecl? l.text = some v) : BeginsMember l.code := by
  have hkeyword := isSome_variableKeyword? h
  have htrim : trim l.code = l.code := isTrimmed_trim _
  by_cases hzero : annotationLength l.code = 0
  · rw [splitAnnotations_of_zero (by rwa [htrim]), htrim] at hkeyword
    exact beginsMember_of_keyword hkeyword
  · exact beginsMember_of_annotationLength hzero

/-- A line with a variable that is not indented is read at the top level. -/
theorem isTop_of_variableDecl? (h : variableDecl? l.text = some v) (hindent : indent l.text = 0) :
    l.IsTop := by
  have hne : l.code ≠ [] := by
    intro hnil
    have hkeyword := isSome_variableKeyword? h
    rw [hnil] at hkeyword
    exact absurd hkeyword (by decide)
  refine ⟨fun hblank => hne ?_, fun hcomment => hne ?_, hindent⟩
  · rw [Line.IsBlank] at hblank
    rw [code, hblank]
    rfl
  · obtain ⟨rest, hrest⟩ := List.isPrefixOf_iff_prefix.1 hcomment
    have hhash : Text.ofString "#" = [35] := by decide
    rw [code, ← hrest, hhash, stripComment_eq]
    rfl

end

end Line

/-! ## Lines before a variable, and its own -/

section

variable {l : Line} {v : VariableDecl}

/-- What is read of annotations or a variable. -/
theorem declare_member (h : BeginsMember l.code) (st : State) :
    st.declare l = st.variableLine l.number l.code := by
  have hsignal : hasKeyword l.code "signal" = false := by rw [hasKeyword, h.signal]; rfl
  have hinner : hasKeyword l.code "class" = false := by rw [hasKeyword, h.innerClass]; rfl
  have hfunc : (funcKeyword? l.code).isSome = false := by rw [h.func]; rfl
  unfold State.declare State.topLine
  dsimp only
  rw [← Line.code, hfunc, h.className, h.base, hinner, hsignal]
  rfl

theorem declare_variable (h : variableDecl? l.text = some v) (st : State) :
    st.declare l = State.updateDecl { st with pending := [] }
      (addVariable { annotate st.pending v with line := l.number }) := by
  have hbegins := Line.beginsMember h
  have hkeyword := Line.isSome_variableKeyword? h
  have henum : hasKeyword l.code "enum" = false := by rw [hasKeyword, hbegins.enum]; rfl
  have hrest : (splitAnnotations l.code).2.isEmpty = false := by
    cases hnil : (splitAnnotations l.code).2 with
    | cons => rfl
    | nil =>
      rw [hnil] at hkeyword
      exact absurd hkeyword (by decide)
  rw [declare_member hbegins, State.variableLine, henum, l.variableDecl?_code, h]
  simp only [hrest, Bool.false_and, Bool.false_eq_true, if_false]

/-- A variable opens no signature. -/
theorem topLinesFrom_cons {m : Bool} (htop : l.IsTop) (h : BeginsMember l.code) (ls : List Line) :
    topLinesFrom m none (l :: ls) = l :: topLinesFrom m none ls := by
  have hsig : nextSignature m none l = none := by
    have hfunc : (funcKeyword? l.code).isSome = false := by rw [h.func]; rfl
    unfold nextSignature
    rw [if_neg htop.nonblank, hfunc]
    simp
  rw [topLinesFrom, hsig]
  exact if_pos ⟨htop, rfl⟩

end

section

variable {l : Line} {a : Annotation}

theorem code_of_print (ha : a.WellFormed) (hl : l.text = a.print) : l.code = a.print := by
  have htrim : trim a.print = a.print := ha.isTrimmed
  rw [l.code_eq, hl, ha.isCode.stripComment, htrim]

theorem annotationLength_print (ha : a.WellFormed) : annotationLength a.print ≠ 0 := by
  have hlength : annotationLength (a.print ++ []) = a.print.length := ha.annotationLength (by simp)
  rw [List.append_nil] at hlength
  rw [hlength]
  simpa using a.print_ne_nil

theorem isTop_of_print (ha : a.WellFormed) (hl : l.text = a.print) : l.IsTop := by
  obtain ⟨s, hs⟩ := a.exists_print
  have htrim : trim l.text = 64 :: s := by rw [hl, ← hs]; exact ha.isTrimmed
  refine ⟨fun hblank => ?_, fun hcomment => ?_, ?_⟩
  · rw [Line.IsBlank, htrim] at hblank
    cases hblank
  · have hsharp : startsWith (64 :: s) "#" = false := rfl
    rw [Line.IsComment, htrim, hsharp] at hcomment
    cases hcomment
  · rw [hl, hs]
    rfl

theorem declare_print (ha : a.WellFormed) (hl : l.text = a.print) (st : State) :
    st.declare l = { st with pending := st.pending ++ [a.print].filter carriesOver } := by
  have hcode := code_of_print ha hl
  have hbegins : BeginsMember a.print :=
    beginsMember_of_annotationLength (annotationLength_print ha)
  have henum : hasKeyword a.print "enum" = false := by rw [hasKeyword, hbegins.enum]; rfl
  have hsplit : splitAnnotations a.print = ([a.print], []) := by
    have hblank : splitAnnotations (a.print ++ [32]) = ([a.print], []) :=
      ha.splitAnnotations_cons []
    rwa [← splitAnnotations_trim, trim_append_blank ha.isTrimmed] at hblank
  rw [declare_member (by rwa [hcode]), hcode, State.variableLine, henum, hsplit]
  rfl

end

end GodotSurvey.Script
