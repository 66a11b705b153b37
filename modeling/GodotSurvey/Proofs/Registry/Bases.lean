import GodotSurvey.Registry.Basic
import Mathlib.Data.List.Nodup
import Mathlib.Data.List.Perm.Subperm
import Mathlib.Logic.Relation

/-!
# The way through base classes

From the name of a class the registry goes to its base, and on to the base of that, until it is at
an engine class. What the project declares may lead nowhere: a base can be empty, nothing may be
known under it, or the bases can go round in a circle. The search takes a fixed number of steps, so
it may also give up on a way that is only long. But a way that ends at an engine class has no name
twice, and all names on it before the last are classes of the project, so with few classes no way is
too long.

* `Extends`, `IsLost` — a step, and the names from which no engine class is found.
* `Passes`, `engineBaseFrom_eq_some_iff` — **the search finds the engine class at the end of a way
  that goes through fewer classes than it has steps, and no other.**
* `Passes.length_le` — a way without a circle goes through as many names as there are classes at
  most.
* `exists_end` — every way comes to an engine class or is lost.
* `engineBase?_eq_iff` — **with up to 63 classes the search fails only where the way is lost.**
-/

namespace GodotSurvey.Registry

variable {r : Registry} {a b c e x name : Text} {visited : List Text} {fuel : Nat}

/-! ## Steps -/

/-- The project has the class `a` with the base `b`. Engine classes have no step here, as the way
ends at them also where the project has a class of the same name. -/
structure Extends (r : Registry) (a b : Text) : Prop where
  named : a ≠ []
  foreign : isEngineClass a = false
  declared : ∃ d, r.class? a = some d ∧ d.base = b

/-- The way through base classes that starts at `a` comes to `b`. -/
def Reaches (r : Registry) (a b : Text) : Prop := Relation.ReflTransGen r.Extends a b

/-- A name from which the way comes to no engine class: the empty one, one that nothing is known
under, and one that the way comes back to. -/
inductive IsLost (r : Registry) : Text → Prop
  | empty : IsLost r []
  | unknown (a : Text) : isEngineClass a = false → r.class? a = none → IsLost r a
  | circle (a : Text) : Relation.TransGen r.Extends a a → IsLost r a

theorem isEngineClass_nil : isEngineClass [] = false := by decide +kernel

theorem Extends.unique (hb : r.Extends a b) (hc : r.Extends a c) : b = c := by
  obtain ⟨d, hd, rfl⟩ := hb.declared
  obtain ⟨d', hd', rfl⟩ := hc.declared
  rw [Option.some.inj (hd.symm.trans hd')]

theorem Extends.mem_names (h : r.Extends a b) : a ∈ r.classes.map (·.name) := by
  obtain ⟨d, hd, -⟩ := h.declared
  have hname : d.name = a := by simpa using List.find?_some hd
  exact List.mem_map.2 ⟨d, List.mem_of_find?_eq_some hd, hname⟩

theorem not_extends_of_engine (he : isEngineClass e = true) : ¬ r.Extends e b :=
  fun h => Bool.false_ne_true (h.foreign.symm.trans he)

/-- At every name the way goes on, or is over. -/
theorem extends_or_end (r : Registry) (a : Text) :
    (∃ b, r.Extends a b) ∨ isEngineClass a = true ∨ r.IsLost a := by
  by_cases hnamed : a = []
  · exact .inr (.inr (hnamed ▸ .empty))
  · cases hengine : isEngineClass a with
    | true => exact .inr (.inl rfl)
    | false =>
      cases hclass : r.class? a with
      | none => exact .inr (.inr (.unknown a hengine hclass))
      | some d => exact .inl ⟨d.base, hnamed, hengine, d, hclass, rfl⟩

/-! ## Circles -/

theorem Reaches.not_circle (h : r.Reaches a e) (he : isEngineClass e = true) :
    ¬ Relation.TransGen r.Extends a a := by
  induction h using Relation.ReflTransGen.head_induction_on with
  | refl =>
    intro hcircle
    obtain ⟨b, hstep, -⟩ := Relation.TransGen.head'_iff.1 hcircle
    exact not_extends_of_engine he hstep
  | @head a b hstep _ ih =>
    -- There is one step from a name, so a circle through a name is one through its base.
    intro hcircle
    obtain ⟨b', hstep', hback⟩ := Relation.TransGen.head'_iff.1 hcircle
    obtain rfl := hstep.unique hstep'
    exact ih (Relation.TransGen.tail' hback hstep)

theorem Reaches.not_isLost (h : r.Reaches a e) (he : isEngineClass e = true) : ¬ r.IsLost a := by
  intro hlost
  have hstop : (∀ b, ¬ r.Extends a b) → isEngineClass a = true := by
    intro hnone
    obtain rfl | ⟨b, hstep, -⟩ := Relation.ReflTransGen.cases_head h
    · exact he
    · exact absurd hstep (hnone b)
  cases hlost with
  | empty =>
    have hengine := hstop fun b hstep => hstep.named rfl
    exact Bool.false_ne_true (isEngineClass_nil.symm.trans hengine)
  | unknown _ hforeign hclass =>
    have hengine := hstop fun b hstep => by
      obtain ⟨d, hd, -⟩ := hstep.declared
      simp [hclass] at hd
    exact Bool.false_ne_true (hforeign.symm.trans hengine)
  | circle _ hcircle => exact h.not_circle he hcircle

/-- What is on the way to an engine class is on the way before it. -/
theorem Reaches.of_engine (hx : r.Reaches a x) (h : r.Reaches a e) (he : isEngineClass e = true) :
    r.Reaches x e := by
  have hunique : Relator.RightUnique r.Extends := fun _ _ _ hb hc => hb.unique hc
  obtain hxe | hex := Relation.ReflTransGen.total_of_right_unique hunique hx h
  · exact hxe
  · obtain rfl | ⟨b, hstep, -⟩ := Relation.ReflTransGen.cases_head hex
    · exact .refl
    · exact absurd hstep (not_extends_of_engine he)

/-! ## Ways with the names on them -/

/-- The way from `a` to `e` goes through the names of the list, each of them before `e`. -/
inductive Passes (r : Registry) : Text → List Text → Text → Prop
  | here (a : Text) : Passes r a [] a
  | step {a b e : Text} {visited : List Text} :
      r.Extends a b → Passes r b visited e → Passes r a (a :: visited) e

namespace Passes

theorem reaches (h : r.Passes a visited e) : r.Reaches a e := by
  induction h with
  | here => exact .refl
  | step hstep _ ih => exact .head hstep ih

theorem exists_of_reaches (h : r.Reaches a e) : ∃ visited, r.Passes a visited e := by
  induction h using Relation.ReflTransGen.head_induction_on with
  | refl => exact ⟨[], .here e⟩
  | @head a b hstep _ ih =>
    obtain ⟨visited, h⟩ := ih
    exact ⟨a :: visited, .step hstep h⟩

theorem reaches_of_mem (h : r.Passes a visited e) (hx : x ∈ visited) : r.Reaches a x := by
  induction h with
  | here => exact absurd hx List.not_mem_nil
  | step hstep _ ih =>
    obtain rfl | hx := List.mem_cons.1 hx
    · exact .refl
    · exact .head hstep (ih hx)

theorem subset_names (h : r.Passes a visited e) : visited ⊆ r.classes.map (·.name) := by
  induction h with
  | here => exact List.nil_subset _
  | step hstep _ ih => exact List.cons_subset.2 ⟨hstep.mem_names, ih⟩

theorem nodup (h : r.Passes a visited e)
    (hcircle : ∀ x, r.Reaches a x → ¬ Relation.TransGen r.Extends x x) : visited.Nodup := by
  induction h with
  | here => exact List.nodup_nil
  | step hstep h ih =>
    refine List.nodup_cons.2 ⟨fun hmem => ?_, ih fun x hx => hcircle x (.head hstep hx)⟩
    exact hcircle _ .refl (.head' hstep (h.reaches_of_mem hmem))

theorem length_le (h : r.Passes a visited e)
    (hcircle : ∀ x, r.Reaches a x → ¬ Relation.TransGen r.Extends x x) :
    visited.length ≤ r.classes.length := by
  simpa using (List.subperm_of_subset (h.nodup hcircle) h.subset_names).length_le

end Passes

/-- Steps are taken as many times as wanted, unless the way is over before. -/
theorem exists_passes_or_end (r : Registry) (a : Text) (n : Nat) :
    (∃ visited b, r.Passes a visited b ∧ visited.length = n) ∨
      ∃ x, r.Reaches a x ∧ (isEngineClass x = true ∨ r.IsLost x) := by
  induction n generalizing a with
  | zero => exact .inl ⟨[], a, .here a, rfl⟩
  | succ n ih =>
    obtain ⟨b, hstep⟩ | hend := extends_or_end r a
    · obtain ⟨visited, b', h, hlength⟩ | ⟨x, hx, hend⟩ := ih b
      · exact .inl ⟨a :: visited, b', .step hstep h, by rw [List.length_cons, hlength]⟩
      · exact .inr ⟨x, .head hstep hx, hend⟩
    · exact .inr ⟨a, .refl, hend⟩

/-- Every way comes to an engine class or is lost. -/
theorem exists_end (r : Registry) (a : Text) :
    ∃ x, r.Reaches a x ∧ (isEngineClass x = true ∨ r.IsLost x) := by
  by_contra hnone
  -- A way that never ends is longer than the list of classes, so it is in a circle.
  obtain ⟨visited, b, h, hlength⟩ | hend := exists_passes_or_end r a (r.classes.length + 1)
  · have hle : visited.length ≤ r.classes.length :=
      h.length_le fun x hx hcircle => hnone ⟨x, hx, .inr (.circle x hcircle)⟩
    omega
  · exact hnone hend

/-! ## The search -/

theorem engineBaseFrom_of_engine (he : isEngineClass e = true) :
    r.engineBaseFrom (fuel + 1) e = some e := by
  have hnamed : e ≠ [] := by
    rintro rfl
    exact Bool.false_ne_true (isEngineClass_nil.symm.trans he)
  simp [engineBaseFrom, hnamed, he]

theorem engineBaseFrom_of_extends (h : r.Extends a b) :
    r.engineBaseFrom (fuel + 1) a = r.engineBaseFrom fuel b := by
  obtain ⟨d, hclass, rfl⟩ := h.declared
  simp [engineBaseFrom, h.named, h.foreign, hclass]

theorem engineBaseFrom_of_isLost (h : r.IsLost a) (hstop : ∀ b, ¬ r.Extends a b) :
    r.engineBaseFrom fuel a = none := by
  cases fuel with
  | zero => rfl
  | succ fuel =>
    cases h with
    | empty => rfl
    | unknown _ hforeign hclass => simp [engineBaseFrom, hforeign, hclass]
    | circle _ hcircle =>
      obtain ⟨b, hstep, -⟩ := Relation.TransGen.head'_iff.1 hcircle
      exact absurd hstep (hstop b)

/-- With `fuel` steps the search comes past fewer than `fuel` classes. -/
theorem engineBaseFrom_eq_some_iff :
    r.engineBaseFrom fuel a = some e ↔
      ∃ visited, r.Passes a visited e ∧ isEngineClass e = true ∧ visited.length < fuel := by
  constructor
  · intro h
    induction fuel generalizing a with
    | zero => simp [engineBaseFrom] at h
    | succ fuel ih =>
      by_cases hstep : ∃ b, r.Extends a b
      · obtain ⟨b, hstep⟩ := hstep
        rw [engineBaseFrom_of_extends hstep] at h
        obtain ⟨visited, hpasses, he, hlength⟩ := ih h
        exact ⟨a :: visited, .step hstep hpasses, he, Nat.succ_lt_succ hlength⟩
      · obtain ha | hlost := (extends_or_end r a).resolve_left hstep
        · rw [engineBaseFrom_of_engine ha] at h
          obtain rfl := Option.some.inj h
          exact ⟨[], .here a, ha, Nat.succ_pos fuel⟩
        · rw [engineBaseFrom_of_isLost hlost (not_exists.1 hstep)] at h
          cases h
  · rintro ⟨visited, hpasses, he, hlength⟩
    induction hpasses generalizing fuel with
    | here a =>
      obtain ⟨fuel, rfl⟩ := Nat.exists_eq_succ_of_ne_zero (Nat.ne_of_gt hlength)
      exact engineBaseFrom_of_engine he
    | @step a b e visited hstep _ ih =>
      obtain ⟨fuel, rfl⟩ := Nat.exists_eq_succ_of_ne_zero (Nat.ne_zero_of_lt hlength)
      rw [engineBaseFrom_of_extends hstep]
      exact ih he (Nat.lt_of_succ_lt_succ hlength)

/-- With up to 63 classes no way is too long. -/
theorem engineBase?_eq_some_iff (hsize : r.classes.length ≤ 63) :
    r.engineBase? name = some e ↔ r.Reaches name e ∧ isEngineClass e = true := by
  rw [engineBase?, engineBaseFrom_eq_some_iff]
  constructor
  · rintro ⟨visited, h, he, -⟩
    exact ⟨h.reaches, he⟩
  · rintro ⟨hreaches, he⟩
    obtain ⟨visited, h⟩ := Passes.exists_of_reaches hreaches
    have hle : visited.length ≤ r.classes.length :=
      h.length_le fun x hx => (hx.of_engine hreaches he).not_circle he
    exact ⟨visited, h, he, show visited.length < 64 by omega⟩

/-- **With up to 63 classes the search fails only where the way is lost.** It finds an engine class
if and only if the way through base classes comes to it, and nothing if and only if the way comes to
an empty base, to a name that nothing is known under, or into a circle. -/
theorem engineBase?_eq_iff (r : Registry) (hsize : r.classes.length ≤ 63) (name : Text) :
    (∀ e, r.engineBase? name = some e ↔ r.Reaches name e ∧ isEngineClass e = true) ∧
      (r.engineBase? name = none ↔ ∃ x, r.Reaches name x ∧ r.IsLost x) := by
  refine ⟨fun e => engineBase?_eq_some_iff hsize, ?_, ?_⟩
  · intro hnone
    obtain ⟨x, hx, hend⟩ := exists_end r name
    refine ⟨x, hx, hend.resolve_left fun he => ?_⟩
    rw [(engineBase?_eq_some_iff hsize).2 ⟨hx, he⟩] at hnone
    cases hnone
  · rintro ⟨x, hx, hlost⟩
    refine Option.eq_none_iff_forall_ne_some.2 fun e hsome => ?_
    obtain ⟨hreaches, he⟩ := (engineBase?_eq_some_iff hsize).1 hsome
    exact (hx.of_engine hreaches he).not_isLost he hlost

/-- A project with a class named like the engine class it leads to, two classes that extend each
other, and a class with an unknown base. -/
def knights : Registry where
  classes := [
    { name := "Even", base := "Odd" }, { name := "Hero", base := "Knight" },
    { name := "Knight", base := "Node" }, { name := "Node", base := "Odd" },
    { name := "Odd", base := "Even" }, { name := "Squire", base := "Nobody" }]

theorem engineBase?_eq_iff_knights :
    knights.classes.length ≤ 63 ∧
      (knights.engineBase? "Hero" = some "Node" ∧ knights.Reaches "Hero" "Node") ∧
      (knights.engineBase? "Odd" = none ∧ ∃ x, knights.Reaches "Odd" x ∧ knights.IsLost x) ∧
      knights.engineBase? "Squire" = none ∧ ∃ x, knights.Reaches "Squire" x ∧ knights.IsLost x := by
  have hsize : knights.classes.length ≤ 63 := by decide
  have hhero : knights.engineBase? "Hero" = some "Node" := by decide +kernel
  have hodd : knights.engineBase? "Odd" = none := by decide +kernel
  have hsquire : knights.engineBase? "Squire" = none := by decide +kernel
  exact ⟨hsize, ⟨hhero, (((engineBase?_eq_iff knights hsize "Hero").1 "Node").1 hhero).1⟩,
    ⟨hodd, (engineBase?_eq_iff knights hsize "Odd").2.1 hodd⟩,
    hsquire, (engineBase?_eq_iff knights hsize "Squire").2.1 hsquire⟩

end GodotSurvey.Registry
