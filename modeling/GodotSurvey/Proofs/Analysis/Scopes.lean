import GodotSurvey.Analysis.Scope
import GodotSurvey.Proofs.Text.Table

/-!
# Which type a name has in a method

The parameters and the locals of a method are laid into one frame over the members of its class, one
after another. A parameter replaces what an earlier one of its name has left. A local does so only
if it shows a type: one without a type hides the members of the class, but nothing of its own frame.

* `lookup_setType` — an entry of a frame after a declaration.
* `Resolves` — the rule: the last local with a type, else the last parameter, else a local without a
  type, else the member of the class.
* `lookup?_ofMethod` — **names are looked up by this rule, and the class scope stays as it is.**
-/

namespace GodotSurvey.Scope

/-! ## Entries of a frame -/

theorem setType_eq_put (name type : Text) (frame : List (Text × Text)) :
    setType name type frame = Text.put name type frame := by
  induction frame with
  | nil => rfl
  | cons entry frame ih => rw [setType, Text.put, ih]

theorem lookup_setType (name type x : Text) (frame : List (Text × Text)) :
    (setType name type frame).lookup x = if x = name then some type else frame.lookup x := by
  rw [setType_eq_put, Text.lookup_put]

variable {s : Scope} {x : Text}

theorem inner_define (name type : Text) :
    (s.define name type).inner.lookup x = if x = name then some type else s.inner.lookup x :=
  lookup_setType name type x s.inner

theorem inner_defineLocal_of_ne {v : VariableDecl} (h : v.name ≠ x) :
    (defineLocal s v).inner.lookup x = s.inner.lookup x := by
  rw [defineLocal]
  split
  · rfl
  · rw [inner_define, if_neg (Ne.symm h)]

/-- A local with a type replaces what is there. -/
theorem inner_defineLocal_typed {v : VariableDecl} (h : v.type ≠ []) :
    (defineLocal s v).inner.lookup v.name = some v.type := by
  have hty : v.type.isEmpty = false := by simpa using h
  rw [defineLocal, hty, Bool.false_and, if_neg (by simp), inner_define, if_pos rfl]

/-- A local without a type leaves what is there. -/
theorem inner_defineLocal_untyped {v : VariableDecl} (hv : v.type = []) {t : Text}
    (h : s.inner.lookup x = some t) : (defineLocal s v).inner.lookup x = some t := by
  by_cases hname : v.name = x
  · rw [defineLocal, if_pos (by simp [hv, hname, h]), h]
  · rw [inner_defineLocal_of_ne hname, h]

/-- A local without a type hides what lies below if nothing is there. -/
theorem inner_defineLocal_first {v : VariableDecl} (hv : v.type = [])
    (h : s.inner.lookup v.name = none) : (defineLocal s v).inner.lookup v.name = some [] := by
  rw [defineLocal, if_neg (by simp [h]), inner_define, if_pos rfl, hv]

/-! ## Entries after several declarations -/

theorem inner_parameters_of_ne {ps : List Parameter} (h : ∀ p ∈ ps, p.name ≠ x) :
    (ps.foldl (fun s p => s.define p.name (parameterType p)) s).inner.lookup x =
      s.inner.lookup x := by
  induction ps generalizing s with
  | nil => rfl
  | cons p ps ih =>
    rw [List.foldl_cons, ih fun q hq => h q (List.mem_cons_of_mem p hq), inner_define,
      if_neg (Ne.symm (h p List.mem_cons_self))]

/-- The last parameter of a name is the one that counts. -/
theorem inner_parameters_last (before : List Parameter) (p : Parameter) {after : List Parameter}
    (h : ∀ q ∈ after, q.name ≠ p.name) :
    ((before ++ p :: after).foldl (fun s p => s.define p.name (parameterType p)) s).inner.lookup
      p.name = some (parameterType p) := by
  rw [List.foldl_append, List.foldl_cons, inner_parameters_of_ne h, inner_define, if_pos rfl]

theorem inner_locals_of_ne {vs : List VariableDecl} (h : ∀ v ∈ vs, v.name ≠ x) :
    (vs.foldl defineLocal s).inner.lookup x = s.inner.lookup x := by
  induction vs generalizing s with
  | nil => rfl
  | cons v vs ih =>
    rw [List.foldl_cons, ih fun w hw => h w (List.mem_cons_of_mem v hw),
      inner_defineLocal_of_ne (h v List.mem_cons_self)]

/-- Locals without a type leave the entry of their name. -/
theorem inner_locals_untyped {vs : List VariableDecl} (hvs : ∀ v ∈ vs, v.name = x → v.type = [])
    {t : Text} (h : s.inner.lookup x = some t) :
    (vs.foldl defineLocal s).inner.lookup x = some t := by
  induction vs generalizing s with
  | nil => exact h
  | cons v vs ih =>
    rw [List.foldl_cons]
    refine ih (fun w hw => hvs w (List.mem_cons_of_mem v hw)) ?_
    by_cases hname : v.name = x
    · exact inner_defineLocal_untyped (hvs v List.mem_cons_self hname) h
    · rw [inner_defineLocal_of_ne hname, h]

/-- The last local with a type is the one that counts. -/
theorem inner_locals_last (before : List VariableDecl) {v : VariableDecl} (hv : v.type ≠ [])
    {after : List VariableDecl} (h : ∀ w ∈ after, w.name = v.name → w.type = []) :
    ((before ++ v :: after).foldl defineLocal s).inner.lookup v.name = some v.type := by
  rw [List.foldl_append, List.foldl_cons]
  exact inner_locals_untyped h (inner_defineLocal_typed hv)

/-- Locals of which none has a type hide the name together. -/
theorem inner_locals_first {vs : List VariableDecl} (hvs : ∀ v ∈ vs, v.name = x → v.type = [])
    (hx : ∃ v ∈ vs, v.name = x) (h : s.inner.lookup x = none) :
    (vs.foldl defineLocal s).inner.lookup x = some [] := by
  induction vs generalizing s with
  | nil =>
    obtain ⟨v, hv, -⟩ := hx
    cases hv
  | cons v vs ih =>
    have hrest : ∀ w ∈ vs, w.name = x → w.type = [] := fun w hw =>
      hvs w (List.mem_cons_of_mem v hw)
    rw [List.foldl_cons]
    by_cases hname : v.name = x
    · subst hname
      exact inner_locals_untyped hrest
        (inner_defineLocal_first (hvs v List.mem_cons_self rfl) h)
    · obtain ⟨w, hw, hwx⟩ := hx
      have hlater : w ∈ vs := (List.mem_cons.1 hw).resolve_left fun heq => hname (heq ▸ hwx)
      refine ih hrest ⟨w, hlater, hwx⟩ ?_
      rw [inner_defineLocal_of_ne hname, h]

/-! ## The frames below -/

theorem outer_parameters (ps : List Parameter) :
    (ps.foldl (fun s p => s.define p.name (parameterType p)) s).outer = s.outer := by
  induction ps generalizing s with
  | nil => rfl
  | cons p ps ih => exact ih

theorem outer_defineLocal (v : VariableDecl) : (defineLocal s v).outer = s.outer := by
  rw [defineLocal]
  split <;> rfl

theorem outer_locals (vs : List VariableDecl) : (vs.foldl defineLocal s).outer = s.outer := by
  induction vs generalizing s with
  | nil => rfl
  | cons v vs ih => rw [List.foldl_cons, ih, outer_defineLocal]

/-! ## The rule -/

/-- The item is the last one of the list that satisfies the condition. -/
def IsLast {α : Type} (p : α → Prop) (as : List α) (a : α) : Prop :=
  ∃ before after, as = before ++ a :: after ∧ p a ∧ ∀ c ∈ after, ¬p c

theorem exists_isLast {α : Type} {p : α → Prop} {as : List α} (h : ∃ a ∈ as, p a) :
    ∃ a, IsLast p as a := by
  induction as with
  | nil =>
    obtain ⟨a, ha, -⟩ := h
    cases ha
  | cons c as ih =>
    by_cases hrest : ∃ a ∈ as, p a
    · obtain ⟨a, before, after, rfl, ha⟩ := ih hrest
      exact ⟨a, c :: before, after, rfl, ha⟩
    · have hnone : ∀ a ∈ as, ¬p a := fun a ha hpa => hrest ⟨a, ha, hpa⟩
      obtain ⟨a, ha, hpa⟩ := h
      obtain rfl : a = c := (List.mem_cons.1 ha).resolve_right fun ha => hnone a ha hpa
      exact ⟨a, [], as, rfl, hpa, hnone⟩

/-- The types that leave the type of a parameter open. -/
def IsOpenType (type : Text) : Prop := type = [] ∨ type = "inferred" ∨ type = "Variant"

instance : DecidablePred IsOpenType := fun _ => inferInstanceAs (Decidable (_ ∨ _ ∨ _))

section

variable (cls : Scope) (m : MethodDecl) (b : Script.Body) (x : Text)

/-- The type that a name has in the body of a method, if any. -/
inductive Resolves : Option Text → Prop
  | typedLocal {v : VariableDecl} :
      IsLast (fun w => w.name = x ∧ w.type ≠ []) (locals b) v → Resolves (some v.type)
  | parameter {p : Parameter} :
      (∀ v ∈ locals b, v.name = x → v.type = []) →
      IsLast (fun q => q.name = x) m.parameters p →
      Resolves (if IsOpenType p.type then none else some p.type)
  | untypedLocal :
      (∀ v ∈ locals b, v.name = x → v.type = []) → (∀ p ∈ m.parameters, p.name ≠ x) →
      (∃ v ∈ locals b, v.name = x) → Resolves none
  | member :
      (∀ v ∈ locals b, v.name ≠ x) → (∀ p ∈ m.parameters, p.name ≠ x) →
      Resolves (cls.lookup? x)

/-- The method has a parameter or a local of that name. -/
def Declares : Prop := (∃ p ∈ m.parameters, p.name = x) ∨ ∃ v ∈ locals b, v.name = x

/-- No parameter and no local of that name has a type. -/
def LeavesOpen : Prop :=
  (∀ p ∈ m.parameters, p.name = x → IsOpenType p.type) ∧ ∀ v ∈ locals b, v.name = x → v.type = []

instance : Decidable (Declares m b x) := inferInstanceAs (Decidable (_ ∨ _))

instance : Decidable (LeavesOpen m b x) := inferInstanceAs (Decidable (_ ∧ _))

end

section

variable {cls : Scope} {m : MethodDecl} {b : Script.Body} {x : Text}

/-- Some case of the rule applies. -/
theorem exists_resolves (cls : Scope) (m : MethodDecl) (b : Script.Body) (x : Text) :
    ∃ t, Resolves cls m b x t := by
  by_cases htyped : ∃ v ∈ locals b, v.name = x ∧ v.type ≠ []
  · obtain ⟨v, hv⟩ := exists_isLast htyped
    exact ⟨_, .typedLocal hv⟩
  have hopen : ∀ v ∈ locals b, v.name = x → v.type = [] := by
    intro v hv hname
    exact Classical.byContradiction fun htype => htyped ⟨v, hv, hname, htype⟩
  by_cases hparameter : ∃ p ∈ m.parameters, p.name = x
  · obtain ⟨p, hp⟩ := exists_isLast hparameter
    exact ⟨_, .parameter hopen hp⟩
  have hnone : ∀ p ∈ m.parameters, p.name ≠ x := fun p hp hname => hparameter ⟨p, hp, hname⟩
  by_cases hlocal : ∃ v ∈ locals b, v.name = x
  · exact ⟨_, .untypedLocal hopen hnone hlocal⟩
  · exact ⟨_, .member (fun v hv hname => hlocal ⟨v, hv, hname⟩) hnone⟩

/-! ## Looking up -/

theorem outer_ofMethod : (ofMethod cls m b).outer = cls.frames := by
  rw [ofMethod, outer_locals, outer_parameters]
  rfl

theorem lookup?_of_inner {s : Scope} {t : Text} (h : s.inner.lookup x = some t) :
    s.lookup? x = if t = [] then none else some t := by
  rw [lookup?, frames, entryIn?, h]
  cases t <;> rfl

theorem lookup?_of_inner_none {s : Scope} (h : s.inner.lookup x = none)
    (houter : s.outer = cls.frames) : s.lookup? x = cls.lookup? x := by
  rw [lookup?, frames, entryIn?, h, houter]
  rfl

theorem parameterType_eq (p : Parameter) :
    parameterType p = if IsOpenType p.type then [] else p.type := by
  rw [parameterType, inferredType, Script.variantType]
  by_cases hnil : p.type = []
  · simp [hnil]
  · by_cases hopen : p.type = "inferred" ∨ p.type = "Variant"
    · rw [if_pos (by simpa using hopen), if_pos (.inr hopen)]
    · rw [if_neg (by simpa using hopen), if_neg fun h => hopen (h.resolve_left hnil)]

/-- The rule says what is found. -/
theorem Resolves.lookup? {t : Option Text} (h : Resolves cls m b x t) :
    (ofMethod cls m b).lookup? x = t := by
  cases h with
  | @typedLocal v hv =>
    obtain ⟨before, after, hlocals, ⟨rfl, htype⟩, hafter⟩ := hv
    have hopen : ∀ w ∈ after, w.name = v.name → w.type = [] := by
      intro w hw hname
      exact Classical.byContradiction fun hne => hafter w hw ⟨hname, hne⟩
    have hentry : (ofMethod cls m b).inner.lookup v.name = some v.type := by
      rw [ofMethod, hlocals]
      exact inner_locals_last before htype hopen
    rw [lookup?_of_inner hentry, if_neg htype]
  | @parameter p hopen hp =>
    obtain ⟨before, after, hparameters, rfl, hafter⟩ := hp
    have hentry : (ofMethod cls m b).inner.lookup p.name = some (parameterType p) := by
      rw [ofMethod, hparameters]
      exact inner_locals_untyped hopen (inner_parameters_last before p hafter)
    rw [lookup?_of_inner hentry, parameterType_eq]
    by_cases htype : IsOpenType p.type
    · rw [if_pos htype, if_pos htype, if_pos rfl]
    · rw [if_neg htype, if_neg htype, if_neg fun hnil => htype (.inl hnil)]
  | untypedLocal hopen hparameters hlocal =>
    have hempty : (m.parameters.foldl (fun s p => s.define p.name (parameterType p))
        cls.push).inner.lookup x = none := inner_parameters_of_ne hparameters
    have hentry : (ofMethod cls m b).inner.lookup x = some [] :=
      inner_locals_first hopen hlocal hempty
    rw [lookup?_of_inner hentry, if_pos rfl]
  | member hlocals hparameters =>
    have hempty : (m.parameters.foldl (fun s p => s.define p.name (parameterType p))
        cls.push).inner.lookup x = none := inner_parameters_of_ne hparameters
    have hentry : (ofMethod cls m b).inner.lookup x = none :=
      (inner_locals_of_ne hlocals).trans hempty
    exact lookup?_of_inner_none hentry outer_ofMethod

theorem resolves_iff {t : Option Text} :
    (ofMethod cls m b).lookup? x = t ↔ Resolves cls m b x t := by
  constructor
  · rintro rfl
    obtain ⟨t, ht⟩ := exists_resolves cls m b x
    exact ht.lookup? ▸ ht
  · exact Resolves.lookup?

/-- A name that is declared without a type is unknown. -/
theorem Resolves.eq_none {t : Option Text} (h : Resolves cls m b x t) (hdeclares : Declares m b x)
    (hopen : LeavesOpen m b x) : t = none := by
  cases h with
  | typedLocal hv =>
    obtain ⟨before, after, hlocals, ⟨hname, htype⟩, -⟩ := hv
    refine absurd (hopen.2 _ ?_ hname) htype
    rw [hlocals]
    exact List.mem_append_right before List.mem_cons_self
  | parameter _ hp =>
    obtain ⟨before, after, hparameters, hname, -⟩ := hp
    refine if_pos (hopen.1 _ ?_ hname)
    rw [hparameters]
    exact List.mem_append_right before List.mem_cons_self
  | untypedLocal => rfl
  | member hlocals hparameters =>
    rcases hdeclares with ⟨p, hp, hname⟩ | ⟨v, hv, hname⟩
    · exact absurd hname (hparameters p hp)
    · exact absurd hname (hlocals v hv)

end

/-- **A name has the type of the last local that shows one, else that of the last parameter of the
name, else a local hides it, else it is the member of the class.** A name that the method declares
without a type is unknown whatever the class knows of it, and the scope of the class is what is
left when the frame of the method is taken away. -/
theorem lookup?_ofMethod (cls : Scope) (m : MethodDecl) (b : Script.Body) :
    (∀ x t, (ofMethod cls m b).lookup? x = t ↔ Resolves cls m b x t) ∧
      (∀ x, Declares m b x → LeavesOpen m b x → (ofMethod cls m b).lookup? x = none) ∧
      (ofMethod cls m b).pop = cls := by
  refine ⟨fun x t => resolves_iff, fun x hdeclares hopen => ?_, ?_⟩
  · exact (resolves_iff.1 rfl).eq_none hdeclares hopen
  · rw [pop, outer_ofMethod, frames]

/-- A parameter without a type hides a typed member, and a local shows its type though one without
a type follows. -/
theorem lookup?_ofMethod_attack :
    let cls : Scope := ⟨[("target", "Node2D"), ("timer", "Node")], []⟩
    let m : MethodDecl :=
      { name := "attack", parameters := [⟨"target", [], []⟩, ⟨"timer", "int", []⟩] }
    let b : Script.Body :=
      ⟨"attack", 1, [⟨2, "\tvar timer = Timer.new()"⟩, ⟨3, "\tvar timer"⟩]⟩
    Declares m b "target" ∧ LeavesOpen m b "target" ∧ (ofMethod cls m b).lookup? "target" = none ∧
      Resolves cls m b "timer" (some "Timer") ∧ (ofMethod cls m b).pop = cls := by
  intro cls m b
  have hdeclares : Declares m b "target" := by decide +kernel
  have hopen : LeavesOpen m b "target" := by decide +kernel
  have htimer : (ofMethod cls m b).lookup? "timer" = some "Timer" := by decide +kernel
  obtain ⟨hrule, hhidden, hpop⟩ := lookup?_ofMethod cls m b
  exact ⟨hdeclares, hopen, hhidden _ hdeclares hopen, (hrule _ _).1 htimer, hpop⟩

end GodotSurvey.Scope
