import GodotSurvey.Proofs.Script.Annotation

/-!
# Variables as they are declared

A `VariableText` is the line of a variable or constant before it is written: its annotations, its
keyword, its name with a type, what is assigned to it, and what may follow on the line. The reader
takes the line apart from the front: annotations one by one, then the keyword; of the rest it cuts
off the accessors, then it looks for the assignment, and for the type colon before that.

The accessors are cut off at the first ` setget ` that stands outside literals, whatever it belongs
to. So the line is read as it was written exactly if no ` setget ` comes about in what stands before
them.

* `variableDecl?_print_iff` — **a line is read as it was written exactly if no accessor is found
  before the one that was written.**
* `variableDecl?_setget` — a line on which the name of the type is taken for the accessors.
-/

namespace GodotSurvey.Script

open Text Lexing

/-! ## Written variables -/

/-- What declares a variable. -/
inductive VariableKeyword where
  | var
  | staticVar
  | const
  deriving DecidableEq, Repr

def VariableKeyword.print : VariableKeyword → Text
  | var => "var"
  | staticVar => "static var"
  | const => "const"

/-- What follows a variable on its line: nothing, the colon before accessors on the next lines, or
the name of an accessor. -/
inductive Ending where
  | none
  | colon
  | accessor (name : Text)
  deriving DecidableEq, Repr

namespace Ending

def print : Ending → Text
  | none => []
  | colon => ":"
  | accessor name => " setget " ++ name

/-- What the ending begins with: it may complete a ` setget ` that stands before the ending. -/
def border : Ending → Text
  | none | colon => []
  | accessor _ => " "

/-- The name of the accessor is one. -/
def WellFormed (e : Ending) : Prop := ∀ name, e = accessor name → isIdentifier name = true

instance : (e : Ending) → Decidable e.WellFormed
  | none => .isTrue fun _ h => nomatch h
  | colon => .isTrue fun _ h => nomatch h
  | accessor name =>
    decidable_of_iff (isIdentifier name = true)
      ⟨fun h _ hname => Ending.accessor.inj hname ▸ h, fun h => h name rfl⟩

end Ending

/-- A variable before it is written; an absent type or default is empty. -/
structure VariableText where
  annotations : List Annotation := []
  keyword : VariableKeyword := .var
  name : Text
  type : Text := []
  default : Text := []
  /-- The default is assigned with `:=`. -/
  infers : Bool := false
  ending : Ending := .none
  deriving DecidableEq, Repr

namespace VariableText

def operator (v : VariableText) : Text := if v.infers then " := " else " = "

/-- The name, the type and the default. -/
def core (v : VariableText) : Text :=
  typedName v.name v.type ++ onlyIf (!v.default.isEmpty) (v.operator ++ v.default)

/-- What stands behind the annotations. -/
def code (v : VariableText) : Text := v.keyword.print ++ " " ++ (v.core ++ v.ending.print)

/-- The line as it is written. -/
def print (v : VariableText) : Text := printAnnotations v.annotations ++ v.code

/-- Names and types are plain, arguments and literals are closed, and nothing in the default ends it
early but an accessor; an inferred type is that of a default. -/
structure WellFormed (v : VariableText) : Prop where
  annotations : ∀ a ∈ v.annotations, a.WellFormed
  name : isIdentifier v.name
  type : ∀ c ∈ v.type, isIdent c = true ∨ c ∈ Text.ofString ".,[]"
  trimmed : IsTrimmed v.default
  isCode : IsCode v.default
  noColon : v.default.getLast? ≠ some 58
  noAssignment : findUnquoted? v.default ":=" = none
  infers : v.infers = true → v.type = [] ∧ v.default ≠ []
  ending : v.ending.WellFormed

instance (v : VariableText) : Decidable v.WellFormed :=
  decidable_of_iff
    ((∀ a ∈ v.annotations, a.WellFormed) ∧ isIdentifier v.name ∧
      (∀ c ∈ v.type, isIdent c = true ∨ c ∈ Text.ofString ".,[]") ∧ IsTrimmed v.default ∧
      IsCode v.default ∧ v.default.getLast? ≠ some 58 ∧ findUnquoted? v.default ":=" = none ∧
      (v.infers = true → v.type = [] ∧ v.default ≠ []) ∧ v.ending.WellFormed)
    ⟨fun ⟨h₁, h₂, h₃, h₄, h₅, h₆, h₇, h₈, h₉⟩ => ⟨h₁, h₂, h₃, h₄, h₅, h₆, h₇, h₈, h₉⟩,
      fun ⟨h₁, h₂, h₃, h₄, h₅, h₆, h₇, h₈, h₉⟩ => ⟨h₁, h₂, h₃, h₄, h₅, h₆, h₇, h₈, h₉⟩⟩

/-- Before the ending, no accessor is found; what the ending begins with counts. -/
def NoAccessorWithin (v : VariableText) : Prop :=
  findUnquoted? (v.core ++ v.ending.border) " setget " = none

instance (v : VariableText) : Decidable v.NoAccessorWithin :=
  inferInstanceAs (Decidable (_ = _))

/-- The declaration that is written. -/
def decl (v : VariableText) : VariableDecl where
  name := v.name
  type := if v.infers then inferredType else v.type
  default := v.default
  isExport := v.annotations.any fun a => startsWith a.print "@export"
  isConstant := v.keyword == .const
  isOnready := v.annotations.any fun a => a.print == Text.ofString "@onready"
  scope :=
    if v.keyword == .const then .constant
    else if v.annotations.any fun a => a.print == Text.ofString "@onready" then .onready
    else .member
  annotations := v.annotations.map (·.print)

end VariableText

/-! ## The keyword -/

namespace VariableText

variable {v : VariableText}

theorem annotationLength_keyword (k : VariableKeyword) (t : Text) :
    annotationLength (k.print ++ t) = 0 := by
  cases k <;> rfl

theorem variableKeyword?_print (k : VariableKeyword) {t : Text} (ht : IsTrimmed t) (hne : t ≠ []) :
    variableKeyword? (k.print ++ 32 :: t) = some (k == .const, 32 :: t) := by
  cases k with
  | const => rfl
  | var => rfl
  | staticVar =>
    have htrim : trim (32 :: ("var" ++ 32 :: t)) = "var" ++ 32 :: t :=
      trim_blank_append (isTrimmed_append_blank (by decide) (List.cons_ne_nil 118 _) ht hne)
    change ((afterKeyword? (trim (32 :: ("var" ++ 32 :: t))) "var").map (false, ·)) = _
    rw [htrim]
    rfl

/-! ## The accessors -/

theorem setget_eq : Text.ofString " setget " = 32 :: (Text.ofString "setget" ++ [32]) := by decide

/-- The text before the first accessor. -/
def withoutAccessor (s : Text) : Text :=
  match findUnquoted? s " setget " with
  | some i => s.take i
  | none => s

/-- The accessor that was written is cut off, and nothing else, if none is found before it. -/
theorem withoutAccessor_ending {core : Text} (hcore : QuoteState.outside.run core = .outside)
    (e : Ending) (h : findUnquoted? (core ++ e.border) " setget " = none) :
    withoutAccessor (core ++ e.print) = core ++ onlyIf (e == .colon) ":" := by
  unfold withoutAccessor
  cases e with
  | none =>
    have hnone : findUnquoted? (core ++ Ending.none.print) " setget " = none := h
    rw [hnone]
    rfl
  | colon =>
    have hnone : findUnquoted? (core ++ Ending.colon.print) " setget " = none := by
      rw [Ending.border, List.append_nil, setget_eq, findUnquoted?_cons] at h
      rw [setget_eq, findUnquoted?_cons, ← List.cons_append, Ending.print,
        findUnquotedFrom_append_right (by decide)]
      exact h
    rw [hnone]
    rfl
  | accessor name =>
    have hfind : findUnquoted? (core ++ (Ending.accessor name).print) " setget " =
        some core.length := by
      have hblank : Text.ofString " " = [32] := by decide
      rw [Ending.border, setget_eq, findUnquoted?_cons, hblank] at h
      rw [Ending.print, setget_eq, findUnquoted?_cons,
        findUnquotedFrom_border rfl (by decide) hcore h, Nat.zero_add]
    rw [hfind]
    simp only [List.take_left]
    exact (List.append_nil core).symm

theorem border_append (e : Ending) : ∃ t, e.print = e.border ++ t := by
  cases e with
  | none => exact ⟨[], rfl⟩
  | colon => exact ⟨":", rfl⟩
  | accessor name => exact ⟨"setget " ++ name, rfl⟩

/-- An accessor that is found before the ending is cut off with all that follows. -/
theorem withoutAccessor_of_some {core : Text} (e : Ending) {i : Nat}
    (h : findUnquoted? (core ++ e.border) " setget " = some i) :
    ∃ t, core ++ e.border = withoutAccessor (core ++ e.print) ++ (" setget " ++ t) := by
  obtain ⟨r, hr⟩ := border_append e
  rw [setget_eq, findUnquoted?_cons] at h
  have hfind : findUnquoted? (core ++ e.print) " setget " = some i := by
    rw [setget_eq, findUnquoted?_cons, hr, ← List.append_assoc, findUnquotedFrom_append_some h]
  obtain ⟨u, t, hu, rfl, -⟩ := exists_of_findUnquotedFrom h
  have hcut : withoutAccessor (core ++ e.print) = u := by
    unfold withoutAccessor
    rw [hfind, hr, ← List.append_assoc, hu]
    simp
  exact ⟨t, by rw [hcut, hu, setget_eq]⟩

/-! ## Name, type and default -/

/-- A variable of which the parts are known. -/
def assigned (isConstant infers : Bool) (name type default : Text) : VariableDecl where
  name := name
  type := if type.isEmpty && infers then inferredType else type
  default := default
  isConstant := isConstant
  scope := if isConstant then .constant else .member

/-- What a head and a default declare. -/
def headed? (isConstant infers : Bool) (head default : Text) : Option VariableDecl :=
  let name := trim (nameAndType head).1
  if isIdentifier name then some (assigned isConstant infers name (nameAndType head).2 default)
  else none

section

variable {isConstant infers : Bool}

theorem variableBody?_of_none {body : Text} (h : findAssignment? body = none) :
    variableBody? isConstant body = headed? isConstant false (stripEnd (trim body) ":") [] := by
  have htrim (s : Text) : trim (trim s) = trim s := isTrimmed_trim s
  rcases Option.eq_none_or_eq_some (findTypeColon? (stripEnd (trim body) ":")) with hcolon |
    ⟨i, hcolon⟩
  · simp [variableBody?, h, headed?, nameAndType, hcolon, assigned]
  · simp [variableBody?, h, headed?, nameAndType, hcolon, assigned, htrim]

theorem variableBody?_of_some {body : Text} {a : Assignment} (h : findAssignment? body = some a) :
    variableBody? isConstant body =
      headed? isConstant a.inferring (stripEnd (trim (body.take a.index)) ":")
        (trim (stripEnd (trim (body.drop (a.index + a.width))) ":")) := by
  have htrim (s : Text) : trim (trim s) = trim s := isTrimmed_trim s
  rcases Option.eq_none_or_eq_some (findTypeColon? (stripEnd (trim (body.take a.index)) ":")) with
    hcolon | ⟨i, hcolon⟩
  · simp [variableBody?, h, headed?, nameAndType, hcolon, assigned]
  · simp [variableBody?, h, headed?, nameAndType, hcolon, assigned, htrim]

theorem headed?_typedName {name type : Text} (hname : isIdentifier name) (htype : IsTrimmed type)
    (default : Text) :
    headed? isConstant infers (typedName name type) default =
      some (assigned isConstant infers name type default) := by
  have htrim : trim name = name := isTrimmed_of_isIdentifier hname
  simp only [headed?, nameAndType_typedName hname htype, htrim, hname, if_true]

/-- A name and a type stand apart from each other in the head. -/
theorem length_of_headed? {head default : Text} {d : VariableDecl}
    (h : headed? isConstant infers head default = some d) :
    d.default = default ∧ (infers = false → d.name.length + d.type.length ≤ head.length) := by
  unfold headed? at h
  dsimp only at h
  split at h
  · obtain rfl := Option.some.inj h
    refine ⟨rfl, fun hinfers => ?_⟩
    have hname := length_trim_le (nameAndType head).1
    have hhead := length_nameAndType_le head
    simp only [assigned, hinfers, Bool.and_false, Bool.false_eq_true, if_false]
    omega
  · cases h

end

namespace WellFormed

/-- Behind the default, a colon may follow that is not its own. -/
theorem stripEnd_colon {s : Text} (hs : s.getLast? ≠ some 58) (b : Bool) :
    stripEnd (s ++ onlyIf b ":") ":" = s := by
  have hcolon : Text.ofString ":" = [58] := by decide
  cases b with
  | false =>
    have hnil : s ++ onlyIf false ":" = s := List.append_nil s
    rw [hnil, hcolon, stripEnd_of_ne hs]
  | true => exact stripEnd_append s ":"

theorem isTrimmed_colon {s : Text} (hs : IsTrimmed s) (hne : s ≠ []) (b : Bool) :
    IsTrimmed (s ++ onlyIf b ":") := by
  cases b with
  | false => exact (List.append_nil s).symm ▸ hs
  | true => exact hs.append_solid hne rfl

theorem plain_type (hv : v.WellFormed) :
    ∀ c ∈ v.type, isSolid c = true ∧ isQuote c = false ∧ c ≠ 35 ∧ c ≠ 58 ∧ c ≠ 61 := by
  have hmarks : ∀ c ∈ Text.ofString ".,[]",
      isSolid c = true ∧ isQuote c = false ∧ c ≠ 35 ∧ c ≠ 58 ∧ c ≠ 61 := by decide +kernel
  intro c hc
  rcases hv.type c hc with h | h
  · exact ⟨isSolid_of_isIdent h, isQuote_of_isIdent h, ne_of_isIdent h rfl, ne_of_isIdent h rfl,
      ne_of_isIdent h rfl⟩
  · exact hmarks c h

theorem isTrimmed_type (hv : v.WellFormed) : IsTrimmed v.type :=
  isTrimmed_of_forall_isSolid fun c hc => (hv.plain_type c hc).1

theorem isTrimmed_head (hv : v.WellFormed) : IsTrimmed (typedName v.name v.type) :=
  isTrimmed_typedName hv.name hv.isTrimmed_type

theorem plain_head (hv : v.WellFormed) :
    ∀ c ∈ typedName v.name v.type, isQuote c = false ∧ c ≠ 35 ∧ c ≠ 61 :=
  forall_typedName hv.name
    (fun _ hc => ⟨isQuote_of_isIdent hc, ne_of_isIdent hc rfl, ne_of_isIdent hc rfl⟩)
    (fun c hc =>
      have hplain := hv.plain_type c hc
      ⟨hplain.2.1, hplain.2.2.1, hplain.2.2.2.2⟩)
    (by decide) (by decide)

theorem shows_head (hv : v.WellFormed) :
    Shows (typedName v.name v.type) (typedName v.name v.type) :=
  shows_of_no_quote fun c hc => (hv.plain_head c hc).1

theorem getLast?_head (hv : v.WellFormed) : (typedName v.name v.type).getLast? ≠ some 58 := by
  intro hlast
  by_cases h : v.type = []
  · rw [h, typedName_nil] at hlast
    exact not_mem_of_isIdentifier hv.name rfl (List.mem_of_getLast? hlast)
  · obtain ⟨u, c, htype⟩ := (List.eq_nil_or_concat v.type).resolve_left h
    have hconcat : v.name ++ 58 :: 32 :: v.type = (v.name ++ 58 :: 32 :: u) ++ [c] := by
      simp [htype]
    rw [typedName_of_ne h, hconcat, List.getLast?_concat] at hlast
    have hc : c ∈ v.type := by simp [htype]
    exact (hv.plain_type c hc).2.2.2.1 (Option.some.inj hlast)

theorem isTrimmed_core (hv : v.WellFormed) : IsTrimmed v.core := by
  have hhead := hv.isTrimmed_head
  have hne := typedName_ne_nil hv.name v.type
  unfold core
  by_cases h : v.default = []
  · rw [h]
    exact (List.append_nil _).symm ▸ hhead
  · have hempty : v.default.isEmpty = false := by simpa using h
    obtain ⟨op, hoperator, hop, hop'⟩ : ∃ op, v.operator = 32 :: op ++ [32] ∧ IsTrimmed op ∧
        op ≠ [] := by
      unfold operator
      cases v.infers with
      | false => exact ⟨[61], by decide, by decide, by simp⟩
      | true => exact ⟨[58, 61], by decide, by decide, by simp⟩
    have hleft := isTrimmed_append_blank hhead hne hop hop'
    have hall := isTrimmed_append_blank hleft (by simp) hv.trimmed h
    rw [hempty, hoperator]
    simpa [onlyIf] using hall

theorem core_ne_nil (hv : v.WellFormed) : v.core ≠ [] := fun h =>
  typedName_ne_nil hv.name v.type (List.append_eq_nil_iff.1 h).1

theorem isCode_core (hv : v.WellFormed) : IsCode v.core := by
  have hhead : IsCode (typedName v.name v.type) :=
    isCode_of_forall fun c hc => ⟨(hv.plain_head c hc).1, (hv.plain_head c hc).2.1⟩
  have hoperator : IsCode v.operator := by
    unfold operator
    cases v.infers <;> decide
  exact hhead.append ((hoperator.append hv.isCode).onlyIf _)

/-- Without a default, all is head. -/
theorem variableBody?_head (hv : v.WellFormed) (isConstant colon : Bool) :
    variableBody? isConstant (typedName v.name v.type ++ onlyIf colon ":") =
      some (assigned isConstant false v.name v.type []) := by
  have hequals : 61 ∉ typedName v.name v.type := fun hc => (hv.plain_head 61 hc).2.2 rfl
  have hnone : findAssignment? (typedName v.name v.type ++ onlyIf colon ":") = none := by
    apply findAssignment?_eq_none
    rw [outerBytes_append, hv.shows_head.run, hv.shows_head.seen, List.mem_append, not_or]
    exact ⟨hequals, by cases colon <;> decide⟩
  have htrim : trim (typedName v.name v.type ++ onlyIf colon ":") =
      typedName v.name v.type ++ onlyIf colon ":" :=
    isTrimmed_colon hv.isTrimmed_head (typedName_ne_nil hv.name v.type) colon
  rw [variableBody?_of_none hnone, htrim, stripEnd_colon hv.getLast?_head,
    headed?_typedName hv.name hv.isTrimmed_type]

/-- The assignment that was written is found, and cuts the head from the default. -/
theorem findAssignment?_operator (hv : v.WellFormed) {colon : Bool} {body : Text}
    (hbody : body = typedName v.name v.type ++ v.operator ++ (v.default ++ onlyIf colon ":")) :
    ∃ a, findAssignment? body = some a ∧ a.inferring = v.infers ∧
      body.take a.index = typedName v.name v.type ++ [32] ∧
      body.drop (a.index + a.width) = 32 :: (v.default ++ onlyIf colon ":") := by
  subst hbody
  have hequals : 61 ∉ typedName v.name v.type := fun hc => (hv.plain_head 61 hc).2.2 rfl
  unfold operator
  cases v.infers with
  | false =>
    have hwalrus : findUnquoted? (v.default ++ onlyIf colon ":") ":=" = none := by
      have hsplit : Text.ofString ":=" = [58] ++ [61] := by decide
      have hcolon : (61 : UInt8) ∉ onlyIf colon ":" := by cases colon <;> decide
      have hnone := hv.noAssignment
      rw [hsplit] at hnone ⊢
      exact (findUnquotedFrom_append_right hcolon [58] .outside 0 v.default).trans hnone
    obtain ⟨htake, hdrop⟩ := cut_plain (typedName v.name v.type) (v.default ++ onlyIf colon ":")
    exact ⟨_, findAssignment?_plain hv.shows_head hequals hwalrus, rfl, htake, hdrop⟩
  | true =>
    obtain ⟨htake, hdrop⟩ :=
      cut_inferring (typedName v.name v.type) (v.default ++ onlyIf colon ":")
    exact ⟨_, findAssignment?_inferring hv.shows_head hequals _, rfl, htake, hdrop⟩

/-- Name, type and default are read as they were written. -/
theorem variableBody?_core (hv : v.WellFormed) (isConstant colon : Bool) :
    variableBody? isConstant (v.core ++ onlyIf colon ":") =
      some (assigned isConstant v.infers v.name v.type v.default) := by
  unfold core
  by_cases h : v.default = []
  · have hinfers : v.infers = false := by
      cases hinfers : v.infers with
      | false => rfl
      | true => exact absurd h (hv.infers hinfers).2
    simpa [h, hinfers, onlyIf] using hv.variableBody?_head isConstant colon
  · have hempty : v.default.isEmpty = false := by simpa using h
    have hhead : stripEnd (trim (typedName v.name v.type ++ [32])) ":" =
        typedName v.name v.type := by
      have hcolon : Text.ofString ":" = [58] := by decide
      rw [trim_append_blank hv.isTrimmed_head, hcolon, stripEnd_of_ne hv.getLast?_head]
    have hdefault : trim (stripEnd (trim (32 :: (v.default ++ onlyIf colon ":"))) ":") =
        v.default := by
      rw [trim_blank_append (isTrimmed_colon hv.trimmed h colon), stripEnd_colon hv.noColon]
      exact hv.trimmed
    have hbody : typedName v.name v.type ++
        onlyIf (!v.default.isEmpty) (v.operator ++ v.default) ++ onlyIf colon ":" =
          typedName v.name v.type ++ v.operator ++ (v.default ++ onlyIf colon ":") := by
      simp [hempty, onlyIf]
    obtain ⟨a, hfind, hinfers, htake, hdrop⟩ := hv.findAssignment?_operator hbody
    rw [variableBody?_of_some hfind, htake, hdrop, hhead, hdefault, hinfers,
      headed?_typedName hv.name hv.isTrimmed_type]

/-! ## The whole line -/

/-- The annotations are added to what is read behind them. -/
theorem annotate_assigned (hv : v.WellFormed) :
    annotate (v.annotations.map (·.print))
      (assigned (v.keyword == .const) v.infers v.name v.type v.default) = v.decl := by
  have hexport : (v.annotations.map (·.print)).any isExportAnnotation =
      v.annotations.any fun a => startsWith a.print "@export" := by
    rw [List.any_map]
    exact congrArg v.annotations.any (funext Annotation.isExportAnnotation_print)
  have honready : (v.annotations.map (·.print)).any isOnreadyAnnotation =
      v.annotations.any fun a => a.print == Text.ofString "@onready" := by
    rw [List.any_map]
    exact congrArg v.annotations.any (funext Annotation.isOnreadyAnnotation_print)
  have htype : (if v.type.isEmpty && v.infers then inferredType else v.type) =
      if v.infers then inferredType else v.type := by
    cases hinfers : v.infers with
    | false => rw [Bool.and_false]
    | true => rw [(hv.infers hinfers).1]; rfl
  unfold annotate assigned decl
  simp only [hexport, honready, htype, Bool.false_or, List.append_nil]
  cases v.keyword <;> cases v.annotations.any fun a => a.print == Text.ofString "@onready" <;> rfl

theorem isTrimmed_body (hv : v.WellFormed) : IsTrimmed (v.core ++ v.ending.print) := by
  have hending := hv.ending
  cases he : v.ending with
  | none => exact (List.append_nil v.core).symm ▸ hv.isTrimmed_core
  | colon => exact hv.isTrimmed_core.append_solid hv.core_ne_nil rfl
  | accessor name =>
    have hending := hending name he
    have hleft : IsTrimmed (v.core ++ 32 :: "setget") :=
      isTrimmed_append_blank hv.isTrimmed_core hv.core_ne_nil (by decide) (by decide)
    have hall := isTrimmed_append_blank hleft (by simp) (isTrimmed_of_isIdentifier hending)
      (ne_nil_of_isIdentifier hending)
    rw [Ending.print, setget_eq]
    simpa using hall

theorem isCode_ending (hv : v.WellFormed) : IsCode v.ending.print := by
  have hending := hv.ending
  cases he : v.ending with
  | none => exact isCode_nil
  | colon => exact show IsCode (Text.ofString ":") by decide
  | accessor name =>
    exact IsCode.append (by decide) (isCode_of_isIdentifier (hending name he))

/-- The annotations and the keyword are taken off, then the accessor. -/
theorem variableDecl?_eq (hv : v.WellFormed) :
    variableDecl? v.print =
      (variableBody? (v.keyword == .const) (withoutAccessor (v.core ++ v.ending.print))).map
        (annotate (v.annotations.map (·.print))) := by
  have hbody := hv.isTrimmed_body
  have hne : v.core ++ v.ending.print ≠ [] := fun h =>
    hv.core_ne_nil (List.append_eq_nil_iff.1 h).1
  have hcode : v.code = v.keyword.print ++ 32 :: (v.core ++ v.ending.print) := by
    have hblank : Text.ofString " " = [32] := by decide
    rw [code, hblank, List.append_assoc]
    rfl
  have hkeyword : IsTrimmed v.keyword.print ∧ v.keyword.print ≠ [] ∧ IsCode v.keyword.print := by
    cases v.keyword <;> decide
  have htrimmed : IsTrimmed v.code := by
    rw [hcode]
    exact isTrimmed_append_blank hkeyword.1 hkeyword.2.1 hbody hne
  have hcomment : stripComment v.print = v.print := by
    have hiscode : IsCode v.code :=
      (hkeyword.2.2.append (by decide)).append (hv.isCode_core.append hv.isCode_ending)
    exact ((isCode_printAnnotations hv.annotations).append hiscode).stripComment
  have hannotations : splitAnnotations v.print = (v.annotations.map (·.print), v.code) := by
    apply splitAnnotations_print hv.annotations htrimmed
    rw [hcode, annotationLength_keyword]
  have hread : variableKeyword? v.code =
      some (v.keyword == .const, 32 :: (v.core ++ v.ending.print)) := by
    rw [hcode, variableKeyword?_print v.keyword hbody hne]
  have htrim := trim_blank_append hbody
  unfold variableDecl?
  simp only [hcomment, hannotations, hread, htrim]
  rfl

/-- The line of a variable is read as it was written, if no accessor is found before the one that
was written. -/
theorem variableDecl?_print (hv : v.WellFormed) (h : v.NoAccessorWithin) :
    variableDecl? v.print = some v.decl := by
  rw [hv.variableDecl?_eq, withoutAccessor_ending hv.isCode_core.run v.ending h,
    hv.variableBody?_core, Option.map_some, hv.annotate_assigned]

theorem length_core_le (v : VariableText) :
    v.core.length ≤ (typedName v.name v.type).length + 4 + v.default.length := by
  have hoperator : v.operator.length ≤ 4 := by
    unfold operator
    cases v.infers <;> decide
  unfold core onlyIf
  split
  · simp only [List.length_append]
    omega
  · simp only [List.append_nil]
    omega

/-- What an accessor that is found before the ending leaves of the line is too short. -/
theorem withoutAccessor_short (h : ¬ v.NoAccessorWithin) :
    ∃ t, v.core ++ v.ending.border =
        withoutAccessor (v.core ++ v.ending.print) ++ (" setget " ++ t) ∧
      (withoutAccessor (v.core ++ v.ending.print)).length + 8 ≤ v.core.length + 1 := by
  obtain ⟨i, hi⟩ := Option.ne_none_iff_exists'.1 h
  obtain ⟨t, ht⟩ := withoutAccessor_of_some v.ending hi
  have hborder : v.ending.border.length ≤ 1 := by
    cases v.ending with
    | none | colon => exact Nat.zero_le 1
    | accessor name => exact Nat.le_refl 1
  have hsetget : (Text.ofString " setget ").length = 8 := by decide
  have hlength := congrArg List.length ht
  simp only [List.length_append, hsetget] at hlength
  exact ⟨t, ht, by omega⟩

/-- Name and type do not fit into what is left of them. -/
theorem variableBody?_ne_of_none (hv : v.WellFormed) {body : Text} {d : VariableDecl}
    (hlength : body.length + 8 ≤ v.core.length + 1) (ha : findAssignment? body = none)
    (hd : variableBody? (v.keyword == .const) body = some d) (hname : d.name = v.name)
    (hdefault : d.default = v.default)
    (htype : d.type = if v.infers then inferredType else v.type) : False := by
  rw [variableBody?_of_none ha] at hd
  obtain ⟨hempty, hparts⟩ := length_of_headed? hd
  have hnil : v.default = [] := hdefault.symm.trans hempty
  have hinfers : v.infers = false := by
    cases hinfers : v.infers with
    | false => rfl
    | true => exact absurd hnil (hv.infers hinfers).2
  have hcore : v.core = typedName v.name v.type := by
    rw [core, hnil]
    exact List.append_nil _
  have hhead := length_typedName_le v.name v.type
  have hstrip := length_stripEnd_le (trim body) ":"
  have htrim := length_trim_le body
  have hparts := hparts rfl
  rw [hname, htype, hinfers, if_neg (by simp)] at hparts
  rw [hcore] at hlength
  omega

/-- The default does not fit behind any place where an assignment can be. -/
theorem variableBody?_ne_of_some (hv : v.WellFormed) {body t : Text} {a : Assignment}
    {d : VariableDecl} (ht : v.core ++ v.ending.border = body ++ (" setget " ++ t))
    (hlength : body.length + 8 ≤ v.core.length + 1) (ha : findAssignment? body = some a)
    (hd : variableBody? (v.keyword == .const) body = some d) (hdefault : d.default = v.default) :
    False := by
  rw [variableBody?_of_some ha] at hd
  obtain ⟨hvalue, -⟩ := length_of_headed? hd
  obtain ⟨x, y, rfl, hx⟩ := exists_of_findAssignment? ha
  have hfits : v.default.length ≤ (x ++ 61 :: y).length - (x.length + 1) := by
    rw [← hdefault, hvalue, hx, ← List.length_drop]
    exact Nat.le_trans (length_trim_le _) (Nat.le_trans (length_stripEnd_le _ _)
      (length_trim_le _))
  have hcore := length_core_le v
  have hbefore : x.length < (typedName v.name v.type).length := by
    simp only [List.length_append, List.length_cons] at hfits hlength
    omega
  have hsplit : typedName v.name v.type ++
      (onlyIf (!v.default.isEmpty) (v.operator ++ v.default) ++ v.ending.border) =
        x ++ 61 :: (y ++ (ofString " setget " ++ t)) := by
    rw [← List.append_assoc, ← core, ht, List.append_assoc]
    rfl
  have hbyte := congrArg (·[x.length]?) hsplit
  simp only [List.getElem?_append_left hbefore] at hbyte
  have hmem : 61 ∈ typedName v.name v.type := List.mem_of_getElem? (hbyte.trans (by simp))
  exact (hv.plain_head 61 hmem).2.2 rfl

/-- **The line of a variable is read as it was written exactly if no accessor is found before the
one that was written.** -/
theorem variableDecl?_print_iff (hv : v.WellFormed) :
    variableDecl? v.print = some v.decl ↔ v.NoAccessorWithin := by
  constructor
  · intro hread
    rw [hv.variableDecl?_eq] at hread
    refine Decidable.byContradiction fun h => ?_
    obtain ⟨d, hd, hdecl⟩ := Option.map_eq_some_iff.1 hread
    have hname : d.name = v.name := congrArg VariableDecl.name hdecl
    have hdefault : d.default = v.default := congrArg VariableDecl.default hdecl
    obtain ⟨t, ht, hlength⟩ := withoutAccessor_short h
    generalize withoutAccessor (v.core ++ v.ending.print) = body at hd ht hlength
    cases ha : findAssignment? body with
    | none =>
      exact hv.variableBody?_ne_of_none hlength ha hd hname hdefault
        (congrArg VariableDecl.type hdecl)
    | some a => exact hv.variableBody?_ne_of_some ht hlength ha hd hdefault
  · exact hv.variableDecl?_print

end WellFormed

/-- The line
`@export_range(0, "(") @onready var speed: Array[int] = f({"a:=b": "#"}) setget change`. -/
def annotated : VariableText where
  annotations := [{ name := "export_range", args := some "0, \"(\"" }, { name := "onready" }]
  name := "speed"
  type := "Array[int]"
  default := "f(\x7b\"a:=b\": \"#\"\x7d)"
  ending := .accessor "change"

theorem variableDecl?_print_iff_annotated :
    annotated.WellFormed ∧ annotated.NoAccessorWithin ∧
      variableDecl? annotated.print = some annotated.decl :=
  have hv : annotated.WellFormed := by decide +kernel
  have h : annotated.NoAccessorWithin := by decide +kernel
  ⟨hv, h, hv.variableDecl?_print_iff.2 h⟩

/-- The line `var x: setget = 1`. -/
def setgetTyped : VariableText where
  name := "x"
  type := "setget"
  default := "1"

/-- The name of the type is taken for an accessor: no ` setget ` is in the default, and yet neither
the type nor the default is read. -/
theorem variableDecl?_setget :
    setgetTyped.WellFormed ∧ findUnquoted? setgetTyped.default " setget " = none ∧
      setgetTyped.print = "var x: setget = 1" ∧
      variableDecl? setgetTyped.print = some { name := "x" } ∧
      variableDecl? setgetTyped.print ≠ some setgetTyped.decl := by
  decide +kernel

end VariableText

end GodotSurvey.Script
