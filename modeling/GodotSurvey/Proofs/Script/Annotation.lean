import GodotSurvey.Proofs.Script.Word

/-!
# Annotations at the front of a line

An `Annotation` is an annotation before it is written: a name behind `@`, and its arguments in
parentheses if it has any. The reader takes annotations off the front of a line one by one; each
ends behind its name or where its list of arguments is closed, whatever stands in that list.

* `splitAnnotations_append` — annotations that are written before a text are taken off first.
* `splitAnnotations_print` — **the annotations that were written are taken off, and nothing else.**
-/

namespace GodotSurvey.Script

open Text Lexing

/-! ## Written annotations -/

/-- An annotation before it is written: its name, and its arguments if it has a list of them. -/
structure Annotation where
  name : Text
  args : Option Text := none
  deriving DecidableEq, Repr

def Annotation.print (a : Annotation) : Text :=
  match a.args with
  | none => "@" ++ a.name
  | some args => "@" ++ a.name ++ "(" ++ args ++ ")"

/-- The arguments end where their list is closed. -/
structure Annotation.WellFormed (a : Annotation) : Prop where
  name : ∀ c ∈ a.name, isIdent c = true
  args : ∀ t ∈ a.args, IsCode t ∧ IsBalanced 40 41 t

instance (a : Annotation) : Decidable a.WellFormed :=
  decidable_of_iff ((∀ c ∈ a.name, isIdent c = true) ∧ ∀ t ∈ a.args, IsCode t ∧ IsBalanced 40 41 t)
    ⟨fun ⟨h₁, h₂⟩ => ⟨h₁, h₂⟩, fun ⟨h₁, h₂⟩ => ⟨h₁, h₂⟩⟩

/-- The annotations, each with a blank behind it. -/
def printAnnotations (as : List Annotation) : Text := as.flatMap fun a => a.print ++ " "

namespace Annotation

variable {a : Annotation}

theorem exists_print (a : Annotation) : ∃ s, a.print = 64 :: s := by
  unfold print
  cases a.args <;> exact ⟨_, rfl⟩

theorem print_ne_nil (a : Annotation) : a.print ≠ [] := by
  obtain ⟨s, hs⟩ := a.exists_print
  rw [hs]
  exact List.cons_ne_nil 64 s

theorem WellFormed.isCode (ha : a.WellFormed) : IsCode a.print := by
  have hname : IsCode a.name := isCode_of_forall fun c hc =>
    ⟨isQuote_of_isIdent (ha.name c hc), fun h =>
      not_mem_of_isIdent (c := 35) rfl ha.name (h ▸ hc)⟩
  have hopen : IsCode ("@" ++ a.name) := IsCode.append (by decide) hname
  unfold print
  cases hargs : a.args with
  | none => exact hopen
  | some args => exact ((hopen.append (by decide)).append (ha.args args hargs).1).append (by decide)

theorem WellFormed.isTrimmed (ha : a.WellFormed) : IsTrimmed a.print := by
  have hopen : IsTrimmed ("@" ++ a.name) := by
    refine isTrimmed_of_forall_isSolid fun c hc => ?_
    rcases List.mem_cons.1 hc with rfl | hc
    · rfl
    · exact isSolid_of_isIdent (ha.name c hc)
  unfold print
  cases hargs : a.args with
  | none => exact hopen
  | some args =>
    have hfront : StartsSolid ("@" ++ a.name ++ "(" ++ args) := ⟨64, rfl, rfl⟩
    exact isTrimmed_solid hfront (d := 41) rfl (t := []) rfl

theorem argumentsLength_group {args : Text} (hcode : IsCode args)
    (hbalanced : IsBalanced 40 41 args) (unclosed : Nat) (rest : Text) :
    argumentsLength unclosed (40 :: (args ++ 41 :: rest)) = args.length + 2 := by
  have hclose : closeOfFirst? (40 :: (args ++ 41 :: rest)) = some (args.length + 1) :=
    closeOfFirst?_group rfl hcode.run hbalanced rest
  rw [argumentsLength, hclose]
  exact if_pos rfl

/-- An annotation reaches to the end of its name, or of the arguments behind it. -/
theorem annotationLength_at {name : Text} (hname : ∀ c ∈ name, isIdent c = true) {t : Text}
    (ht : t.takeWhile isIdent = []) :
    annotationLength (64 :: (name ++ t)) = 1 + name.length + argumentsLength t.length t := by
  have hat : (64 : UInt8) == '@' := rfl
  have htake : (name ++ t).takeWhile isIdent = name := by
    rw [List.takeWhile_append_of_pos hname, ht]
    exact List.append_nil _
  simp only [annotationLength, hat, if_true, htake, List.drop_left]

/-- The annotation ends where it was written to end, if the text ends there or a blank follows. -/
theorem WellFormed.annotationLength (ha : a.WellFormed) {rest : Text}
    (hrest : ∀ c ∈ rest.head?, c = 32) :
    annotationLength (a.print ++ rest) = a.print.length := by
  have hat : Text.ofString "@" = [64] := by decide
  have hparens : Text.ofString "(" = [40] ∧ Text.ofString ")" = [41] := by decide
  unfold print
  cases hargs : a.args with
  | none =>
    have hsplit : "@" ++ a.name ++ rest = 64 :: (a.name ++ rest) := by rw [hat]; rfl
    have hnone : rest.takeWhile isIdent = [] ∧ argumentsLength rest.length rest = 0 := by
      cases rest with
      | nil => exact ⟨rfl, rfl⟩
      | cons c rest =>
        obtain rfl : c = 32 := hrest c rfl
        exact ⟨rfl, rfl⟩
    rw [hsplit, annotationLength_at ha.name hnone.1, hnone.2, List.length_append, hat]
    rfl
  | some args =>
    obtain ⟨hcode, hbalanced⟩ := ha.args args hargs
    have hsplit : "@" ++ a.name ++ "(" ++ args ++ ")" ++ rest =
        64 :: (a.name ++ 40 :: (args ++ 41 :: rest)) := by
      simp [hat, hparens]
    simp only []
    rw [hsplit, annotationLength_at ha.name rfl, argumentsLength_group hcode hbalanced]
    simp [hat, hparens]
    omega

/-- No annotation is written in the old way, without `@`. -/
theorem isExportAnnotation_print (a : Annotation) :
    isExportAnnotation a.print = startsWith a.print "@export" := by
  have hat : startsWith a.print "export" = false := by
    unfold print
    cases a.args <;> rfl
  unfold isExportAnnotation
  rw [hat, Bool.or_false]

theorem isOnreadyAnnotation_print (a : Annotation) :
    isOnreadyAnnotation a.print = (a.print == Text.ofString "@onready") := by
  have hat : (a.print == Text.ofString "onready") = false := by
    unfold print
    cases a.args <;> rfl
  unfold isOnreadyAnnotation
  rw [hat, Bool.or_false]

end Annotation

/-! ## The front of a line -/

theorem printAnnotations_cons (a : Annotation) (as : List Annotation) (t : Text) :
    printAnnotations (a :: as) ++ t = a.print ++ 32 :: (printAnnotations as ++ t) := by
  have hblank : Text.ofString " " = [32] := by decide
  simp [printAnnotations, hblank]

theorem isCode_printAnnotations {as : List Annotation} (has : ∀ a ∈ as, a.WellFormed) :
    IsCode (printAnnotations as) := by
  induction as with
  | nil => exact isCode_nil
  | cons a as ih =>
    have ha := (has a List.mem_cons_self).isCode
    exact (ha.append (by decide)).append (ih fun b hb => has b (List.mem_cons_of_mem a hb))

/-! ## Annotations taken off -/

/-- Each annotation takes a byte, so the length of the text is enough fuel. -/
theorem splitAnnotationsFrom_congr {n m : Nat} {s : Text} (hn : s.length ≤ n) (hm : s.length ≤ m) :
    splitAnnotationsFrom n s = splitAnnotationsFrom m s := by
  have hnil (k : Nat) : splitAnnotationsFrom k [] = ([], []) := by cases k <;> rfl
  induction n generalizing m s with
  | zero =>
    obtain rfl : s = [] := List.length_eq_zero_iff.1 (Nat.le_zero.1 hn)
    rw [hnil, hnil]
  | succ n ih =>
    cases m with
    | zero =>
      obtain rfl : s = [] := List.length_eq_zero_iff.1 (Nat.le_zero.1 hm)
      rw [hnil, hnil]
    | succ m =>
      rw [splitAnnotationsFrom, splitAnnotationsFrom]
      cases annotationLength s with
      | zero => rfl
      | succ k =>
        have hlength := length_trim_le (s.drop (k + 1))
        rw [List.length_drop] at hlength
        have hrest : splitAnnotationsFrom n (trim (s.drop (k + 1))) =
            splitAnnotationsFrom m (trim (s.drop (k + 1))) := ih (by omega) (by omega)
        simp only [hrest]

theorem splitAnnotations_trim (s : Text) : splitAnnotations (trim s) = splitAnnotations s := by
  have htrim : trim (trim s) = trim s := isTrimmed_trim s
  rw [splitAnnotations, splitAnnotations, htrim]
  exact splitAnnotationsFrom_congr (Nat.le_refl _) (length_trim_le s)

theorem splitAnnotations_of_zero {s : Text} (h : annotationLength (trim s) = 0) :
    splitAnnotations s = ([], trim s) := by
  unfold splitAnnotations
  cases s.length with
  | zero => rfl
  | succ n => simp only [splitAnnotationsFrom, h]

theorem splitAnnotations_of_ne {s : Text} (hs : IsTrimmed s) (h : annotationLength s ≠ 0) :
    splitAnnotations s = (s.take (annotationLength s) ::
        (splitAnnotations (s.drop (annotationLength s))).1,
      (splitAnnotations (s.drop (annotationLength s))).2) := by
  obtain ⟨n, hn⟩ := Nat.exists_eq_succ_of_ne_zero h
  have htrim : trim s = s := hs
  cases s with
  | nil => exact absurd rfl h
  | cons c s =>
    have hlength := length_trim_le ((c :: s).drop (n + 1))
    rw [List.length_drop, List.length_cons] at hlength
    have hrest : splitAnnotationsFrom s.length (trim ((c :: s).drop (n + 1))) =
        splitAnnotations ((c :: s).drop (n + 1)) := by
      rw [← splitAnnotations_trim, splitAnnotations]
      have htwice : trim (trim ((c :: s).drop (n + 1))) = trim ((c :: s).drop (n + 1)) :=
        isTrimmed_trim _
      rw [htwice]
      exact splitAnnotationsFrom_congr (by omega) (Nat.le_refl _)
    rw [splitAnnotations, htrim, List.length_cons, splitAnnotationsFrom, hn]
    simp only [hrest]

namespace Annotation

variable {a : Annotation}

theorem WellFormed.exists_concat (ha : a.WellFormed) :
    ∃ u c, a.print = u ++ [c] ∧ isSolid c = true := by
  unfold print
  cases hargs : a.args with
  | some args => exact ⟨_, 41, rfl, rfl⟩
  | none =>
    rcases List.eq_nil_or_concat a.name with hname | ⟨u, c, hname⟩
    · exact ⟨[], 64, by rw [hname]; rfl, rfl⟩
    · have hc : c ∈ a.name := by simp [hname]
      exact ⟨"@" ++ u, c, by simp [hname], isSolid_of_isIdent (ha.name c hc)⟩

/-- Of what stands behind an annotation, only the white space at the end is trimmed. -/
theorem WellFormed.exists_trim_append (ha : a.WellFormed) (t : Text) :
    ∃ rest, trim (a.print ++ 32 :: t) = a.print ++ rest ∧ (∀ c ∈ rest.head?, c = 32) ∧
      trim rest = trim t := by
  obtain ⟨u, c, hu, hc⟩ := ha.exists_concat
  obtain ⟨w, hw, hrest, -⟩ := exists_white_trimEnd (32 :: t)
  have hblank : White [32] := white_of_isSpace rfl
  obtain ⟨v, hv⟩ := a.exists_print
  refine ⟨trimEnd (32 :: t), ?_, ?_, ?_⟩
  · have hstart : trimStart (a.print ++ 32 :: t) = a.print ++ 32 :: t := by
      rw [hv]
      exact trimStart_eq_self (spaceWidth_of_isSolid (c := 64) rfl _)
    rw [trim, hstart, hu, List.append_assoc, List.append_assoc]
    exact trimEnd_append_solid hc u (32 :: t)
  · intro e he
    obtain ⟨r, hr⟩ := List.head?_eq_some_iff.1 he
    rw [hr, List.cons_append] at hrest
    exact (List.cons.inj hrest).1.symm
  · have hright := hw.trim_append_right (trimEnd (32 :: t))
    rw [← hrest] at hright
    exact hright.symm.trans (hblank.trim_append t)

/-- The first annotation is taken off, whatever stands behind it. -/
theorem WellFormed.splitAnnotations_cons (ha : a.WellFormed) (t : Text) :
    splitAnnotations (a.print ++ 32 :: t) =
      (a.print :: (splitAnnotations t).1, (splitAnnotations t).2) := by
  obtain ⟨rest, htrim, hhead, hrest⟩ := ha.exists_trim_append t
  have hlength := ha.annotationLength hhead
  have htrimmed : IsTrimmed (a.print ++ rest) := htrim ▸ isTrimmed_trim _
  have hne : Script.annotationLength (a.print ++ rest) ≠ 0 := by
    rw [hlength]
    simpa using a.print_ne_nil
  have hbehind : splitAnnotations rest = splitAnnotations t := by
    rw [← splitAnnotations_trim, hrest, splitAnnotations_trim]
  rw [← splitAnnotations_trim, htrim, splitAnnotations_of_ne htrimmed hne, hlength,
    List.take_left, List.drop_left, hbehind]

end Annotation

/-- The annotations are taken off one after the other, and then those that follow them. -/
theorem splitAnnotations_append {as : List Annotation} (has : ∀ a ∈ as, a.WellFormed) (t : Text) :
    splitAnnotations (printAnnotations as ++ t) =
      (as.map (·.print) ++ (splitAnnotations t).1, (splitAnnotations t).2) := by
  induction as with
  | nil => rfl
  | cons a as ih =>
    have ha := has a List.mem_cons_self
    have hrest := ih fun b hb => has b (List.mem_cons_of_mem a hb)
    rw [printAnnotations_cons, ha.splitAnnotations_cons, hrest]
    rfl

/-- The front of the line is taken off. -/
theorem splitAnnotations_print {as : List Annotation} (has : ∀ a ∈ as, a.WellFormed) {t : Text}
    (ht : IsTrimmed t) (hlength : annotationLength t = 0) :
    splitAnnotations (printAnnotations as ++ t) = (as.map (·.print), t) := by
  have htrim : trim t = t := ht
  have hsplit : splitAnnotations t = ([], t) := by
    rw [splitAnnotations_of_zero (by rwa [htrim]), htrim]
  rw [splitAnnotations_append has, hsplit, List.append_nil]

end GodotSurvey.Script
