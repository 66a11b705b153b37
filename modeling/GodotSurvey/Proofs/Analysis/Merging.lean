import GodotSurvey.Analysis.Behavior
import GodotSurvey.Proofs.Text.Distinct

/-!
# Taking insights together

The insights of a script keep their sets sorted and their signals distinct. On such insights
merging is associative and has the empty insights as neutral element, and its operands may be
swapped up to the order of the signals. So the insights of many scripts depend neither on how the
scripts are grouped nor, up to the order of the signals, on the order of the scripts.

* `Behavior.insights_wellFormed` — the insights of a script are well formed.
* `Behavior.total_insights` — their counters account for every variable.
* `Insights.merge_assoc`, `Insights.merge_swap` — the laws of merging.
* `Insights.Grouping.merged_eq` — grouping does not matter.
* `Insights.mergeAll_perm` — the order matters for the order of the signals only.
* `Insights.aggregation_monoid` — **all of this together.**
-/

namespace GodotSurvey

/-! ## Complexity -/

namespace Complexity

/-- One of the tiers that a script can belong to. -/
def IsTier (c : Complexity) : Prop := c = low ∨ c = medium ∨ c = high

instance (c : Complexity) : Decidable c.IsTier :=
  inferInstanceAs (Decidable (c = low ∨ c = medium ∨ c = high))

variable {a b : Complexity}

theorem max_assoc (a b c : Complexity) : (a.max b).max c = a.max (b.max c) := by
  unfold max
  grind

theorem low_max (ha : a.IsTier) : low.max a = a := by
  obtain rfl | rfl | rfl := ha <;> rfl

theorem max_low (ha : a.IsTier) : a.max low = a := by
  obtain rfl | rfl | rfl := ha <;> rfl

theorem max_comm (ha : a.IsTier) (hb : b.IsTier) : a.max b = b.max a := by
  obtain rfl | rfl | rfl := ha <;> obtain rfl | rfl | rfl := hb <;> rfl

theorem IsTier.max (ha : a.IsTier) (hb : b.IsTier) : (a.max b).IsTier := by
  unfold Complexity.max
  split <;> assumption

end Complexity

/-! ## Counters -/

namespace VariableCounts

/-- How many variables there are. -/
def total (c : VariableCounts) : Nat := c.exported + c.onready + c.constant + c.regular

theorem total_add (a b : VariableCounts) : (a.add b).total = a.total + b.total := by
  simp only [total, add]
  omega

theorem add_assoc (a b c : VariableCounts) : (a.add b).add c = a.add (b.add c) := by
  simp only [add, Nat.add_assoc]

theorem add_comm (a b : VariableCounts) : a.add b = b.add a := by
  simp only [add, Nat.add_comm]

theorem empty_add (a : VariableCounts) : add {} a = a := by
  simp only [add, Nat.zero_add]

end VariableCounts

namespace Insights

open Text

/-! ## Well-formed insights -/

/-- The sets ascend, no signal is listed twice and the complexity is a tier. -/
structure WellFormed (i : Insights) : Prop where
  patterns : Ascending i.patterns
  lifecycleMethods : Ascending i.lifecycleMethods
  signalsDefined : i.signalsDefined.Nodup
  signalsEmitted : i.signalsEmitted.Nodup
  complexity : i.complexity.IsTier

instance (i : Insights) : Decidable i.WellFormed :=
  decidable_of_iff
    (Ascending i.patterns ∧ Ascending i.lifecycleMethods ∧ i.signalsDefined.Nodup ∧
      i.signalsEmitted.Nodup ∧ i.complexity.IsTier)
    ⟨fun ⟨hp, hl, hd, he, hc⟩ => ⟨hp, hl, hd, he, hc⟩,
      fun h => ⟨h.patterns, h.lifecycleMethods, h.signalsDefined, h.signalsEmitted, h.complexity⟩⟩

variable {a b c i : Insights} {ps qs : List Text} {p : Text}

theorem wellFormed_empty : WellFormed {} where
  patterns := .nil
  lifecycleMethods := .nil
  signalsDefined := .nil
  signalsEmitted := .nil
  complexity := .inl rfl

/-! ## Sets of patterns -/

/-- Adding a pattern to a set is the sorted union with it. -/
theorem insertPattern_eq (h : Ascending ps) : insertPattern ps p = unionSorted ps [p] := by
  change _ = sort (insertNew ps p)
  rw [insertPattern, insertNew]
  split
  · exact h.sort_eq.symm
  · rfl

theorem foldl_insertPattern (h : Ascending ps) :
    qs.foldl insertPattern ps = unionSorted ps qs := by
  induction qs generalizing ps with
  | nil => exact (unionSorted_nil h).symm
  | cons q qs ih =>
    rw [List.foldl_cons, insertPattern_eq h, ih (ascending_unionSorted h.nodup), unionSorted_assoc h]
    exact unionSorted_eq h.nodup h.nodup fun t => by simp [mem_unionSorted]

/-- On sorted sets the patterns are merged like the lifecycle methods. -/
theorem patterns_merge (ha : a.WellFormed) :
    (a.merge b).patterns = unionSorted a.patterns b.patterns := foldl_insertPattern ha.patterns

/-! ## What single additions keep -/

namespace WellFormed

theorem addPattern (h : i.WellFormed) (p : Text) : (i.addPattern p).WellFormed :=
  { h with
    patterns := by
      rw [Insights.addPattern, insertPattern_eq h.patterns]
      exact ascending_unionSorted h.patterns.nodup }

theorem addPatternIf (h : i.WellFormed) (b : Bool) (p : Text) :
    (i.addPatternIf b p).WellFormed := by
  cases b
  · exact h
  · exact h.addPattern p

theorem addLifecycleMethod (h : i.WellFormed) (name : Text) :
    (i.addLifecycleMethod name).WellFormed :=
  { h with lifecycleMethods := ascending_unionSorted h.lifecycleMethods.nodup }

theorem merge (ha : a.WellFormed) (hb : b.WellFormed) : (a.merge b).WellFormed where
  patterns := patterns_merge ha ▸ ascending_unionSorted ha.patterns.nodup
  lifecycleMethods := ascending_unionSorted ha.lifecycleMethods.nodup
  signalsDefined := nodup_appendNew ha.signalsDefined
  signalsEmitted := nodup_appendNew ha.signalsEmitted
  complexity := ha.complexity.max hb.complexity

end WellFormed

@[simp] theorem variableCounts_addPatternIf (i : Insights) (b : Bool) (p : Text) :
    (i.addPatternIf b p).variableCounts = i.variableCounts := by
  cases b <;> rfl

/-! ## The laws of merging -/

theorem merge_assoc (ha : a.WellFormed) (hb : b.WellFormed) :
    (a.merge b).merge c = a.merge (b.merge c) := by
  have hp : ((a.merge b).merge c).patterns = (a.merge (b.merge c)).patterns := by
    rw [patterns_merge (ha.merge hb), patterns_merge ha, patterns_merge ha, patterns_merge hb,
      unionSorted_assoc ha.patterns]
  have hl : ((a.merge b).merge c).lifecycleMethods = (a.merge (b.merge c)).lifecycleMethods :=
    unionSorted_assoc ha.lifecycleMethods
  rw [mk.injEq]
  exact ⟨hp, hl, Nat.add_assoc _ _ _, appendNew_assoc, appendNew_assoc,
    VariableCounts.add_assoc _ _ _, Complexity.max_assoc _ _ _⟩

theorem merge_empty (ha : a.WellFormed) : a.merge {} = a := by
  have hl : (a.merge {}).lifecycleMethods = a.lifecycleMethods := unionSorted_nil ha.lifecycleMethods
  rw [mk.injEq]
  exact ⟨rfl, hl, rfl, rfl, rfl, rfl, Complexity.max_low ha.complexity⟩

theorem empty_merge (ha : a.WellFormed) : merge {} a = a := by
  have hp : (merge {} a).patterns = a.patterns := by
    rw [patterns_merge wellFormed_empty, nil_unionSorted ha.patterns]
  rw [mk.injEq]
  exact ⟨hp, nil_unionSorted ha.lifecycleMethods, Nat.zero_add _,
    appendNew_of_nodup ha.signalsDefined, appendNew_of_nodup ha.signalsEmitted,
    VariableCounts.empty_add _, Complexity.low_max ha.complexity⟩

/-! ## The order of the operands -/

/-- The insights differ at most in the order of their signals. -/
structure SameUpToSignalOrder (a b : Insights) : Prop where
  signalsDefined : a.signalsDefined.Perm b.signalsDefined
  signalsEmitted : a.signalsEmitted.Perm b.signalsEmitted
  others : a = { b with signalsDefined := a.signalsDefined, signalsEmitted := a.signalsEmitted }

namespace SameUpToSignalOrder

theorem refl (a : Insights) : a.SameUpToSignalOrder a := ⟨.refl _, .refl _, rfl⟩

theorem trans (hab : a.SameUpToSignalOrder b) (hbc : b.SameUpToSignalOrder c) :
    a.SameUpToSignalOrder c where
  signalsDefined := hab.signalsDefined.trans hbc.signalsDefined
  signalsEmitted := hab.signalsEmitted.trans hbc.signalsEmitted
  others := by
    have hb := hbc.others
    rw [hab.others, hb]

end SameUpToSignalOrder

theorem merge_swap (ha : a.WellFormed) (hb : b.WellFormed) :
    (a.merge b).SameUpToSignalOrder (b.merge a) where
  signalsDefined := perm_appendNew ha.signalsDefined hb.signalsDefined fun _ => or_comm
  signalsEmitted := perm_appendNew ha.signalsEmitted hb.signalsEmitted fun _ => or_comm
  others := by
    have hp : (a.merge b).patterns = (b.merge a).patterns := by
      rw [patterns_merge ha, patterns_merge hb, unionSorted_comm ha.patterns hb.patterns]
    rw [mk.injEq]
    exact ⟨hp, unionSorted_comm ha.lifecycleMethods hb.lifecycleMethods, Nat.add_comm _ _, rfl, rfl,
      VariableCounts.add_comm _ _, Complexity.max_comm ha.complexity hb.complexity⟩

namespace SameUpToSignalOrder

theorem merge_right (h : a.SameUpToSignalOrder b) (ha : a.WellFormed) (hb : b.WellFormed)
    (c : Insights) : (a.merge c).SameUpToSignalOrder (b.merge c) where
  signalsDefined := perm_appendNew ha.signalsDefined hb.signalsDefined fun _ =>
    or_congr_left h.signalsDefined.mem_iff
  signalsEmitted := perm_appendNew ha.signalsEmitted hb.signalsEmitted fun _ =>
    or_congr_left h.signalsEmitted.mem_iff
  others := by
    rw [h.others]
    rfl

theorem merge_left (h : b.SameUpToSignalOrder c) (ha : a.WellFormed) :
    (a.merge b).SameUpToSignalOrder (a.merge c) where
  signalsDefined := perm_appendNew ha.signalsDefined ha.signalsDefined fun _ =>
    or_congr_right h.signalsDefined.mem_iff
  signalsEmitted := perm_appendNew ha.signalsEmitted ha.signalsEmitted fun _ =>
    or_congr_right h.signalsEmitted.mem_iff
  others := by
    rw [h.others]
    rfl

end SameUpToSignalOrder

/-! ## Many together -/

section MergeAll

variable {is js : List Insights}

theorem foldl_merge_merge (ha : a.WellFormed) (hb : b.WellFormed) (his : ∀ i ∈ is, i.WellFormed) :
    is.foldl merge (a.merge b) = a.merge (is.foldl merge b) := by
  induction is generalizing b with
  | nil => rfl
  | cons i is ih =>
    obtain ⟨hi, his⟩ := List.forall_mem_cons.1 his
    rw [List.foldl_cons, merge_assoc ha hb, ih (hb.merge hi) his, List.foldl_cons]

theorem mergeAll_cons (hi : i.WellFormed) (his : ∀ j ∈ is, j.WellFormed) :
    mergeAll (i :: is) = i.merge (mergeAll is) := by
  rw [mergeAll, List.foldl_cons, empty_merge hi, mergeAll, ← foldl_merge_merge hi wellFormed_empty his,
    merge_empty hi]

theorem wellFormed_mergeAll (his : ∀ i ∈ is, i.WellFormed) : (mergeAll is).WellFormed := by
  induction is with
  | nil => exact wellFormed_empty
  | cons i is ih =>
    obtain ⟨hi, his⟩ := List.forall_mem_cons.1 his
    rw [mergeAll_cons hi his]
    exact hi.merge (ih his)

theorem mergeAll_append (his : ∀ i ∈ is, i.WellFormed) (hjs : ∀ j ∈ js, j.WellFormed) :
    mergeAll (is ++ js) = (mergeAll is).merge (mergeAll js) := by
  induction is with
  | nil => exact (empty_merge (wellFormed_mergeAll hjs)).symm
  | cons i is ih =>
    obtain ⟨hi, his⟩ := List.forall_mem_cons.1 his
    have hboth : ∀ j ∈ is ++ js, j.WellFormed := List.forall_mem_append.2 ⟨his, hjs⟩
    rw [List.cons_append, mergeAll_cons hi hboth, ih his, mergeAll_cons hi his,
      merge_assoc hi (wellFormed_mergeAll his)]

theorem mergeAll_perm (h : is.Perm js) (his : ∀ i ∈ is, i.WellFormed) :
    (mergeAll is).SameUpToSignalOrder (mergeAll js) := by
  induction h with
  | nil => exact .refl _
  | @cons i is js h ih =>
    obtain ⟨hi, his⟩ := List.forall_mem_cons.1 his
    rw [mergeAll_cons hi his, mergeAll_cons hi fun j hj => his j (h.mem_iff.2 hj)]
    exact (ih his).merge_left hi
  | swap i j is =>
    obtain ⟨hj, his⟩ := List.forall_mem_cons.1 his
    have hjs : ∀ k ∈ j :: is, k.WellFormed :=
      List.forall_mem_cons.2 ⟨hj, (List.forall_mem_cons.1 his).2⟩
    obtain ⟨hi, hrest⟩ := List.forall_mem_cons.1 his
    rw [mergeAll_cons hj his, mergeAll_cons hi hrest, mergeAll_cons hi hjs, mergeAll_cons hj hrest,
      ← merge_assoc hj hi, ← merge_assoc hi hj]
    exact (merge_swap hj hi).merge_right (hj.merge hi) (hi.merge hj) _
  | trans h _ ih₁ ih₂ => exact (ih₁ his).trans (ih₂ fun j hj => his j (h.mem_iff.2 hj))

end MergeAll

/-! ## Grouping -/

/-- A way to take the items of a list together, group by group. -/
inductive Grouping (α : Type) where
  | empty
  | single (x : α)
  | join (first second : Grouping α)

namespace Grouping

variable {α : Type}

/-- The items in order. -/
def members : Grouping α → List α
  | empty => []
  | single x => [x]
  | join g h => g.members ++ h.members

/-- The insights of all items, taken together as they are grouped. -/
def merged (f : α → Insights) : Grouping α → Insights
  | empty => {}
  | single x => f x
  | join g h => (g.merged f).merge (h.merged f)

/-- Every grouping of the same items gives the same insights. -/
theorem merged_eq {f : α → Insights} (hf : ∀ x, (f x).WellFormed) (g : Grouping α) :
    g.merged f = mergeAll (g.members.map f) := by
  have hall (xs : List α) : ∀ i ∈ xs.map f, i.WellFormed := List.forall_mem_map.2 fun x _ => hf x
  induction g with
  | empty => rfl
  | single x => exact (empty_merge (hf x)).symm
  | join g h ihg ihh =>
    rw [merged, ihg, ihh, members, List.map_append, mergeAll_append (hall _) (hall _)]

end Grouping

end Insights

/-! ## The insights of a script -/

namespace Behavior

open Text Insights

variable {r : Rules} {i : Insights}

theorem isTier_complexity (r : Rules) (methods vars : Int) : (r.complexity methods vars).IsTier := by
  unfold Rules.complexity
  dsimp only
  split_ifs
  · exact .inr (.inr rfl)
  · exact .inr (.inl rfl)
  · exact .inl rfl

theorem wellFormed_noteMethod (h : i.WellFormed) (m : MethodDecl) :
    (noteMethod r i m).WellFormed := by
  have hcounted {j : Insights} (hj : j.WellFormed) : (if r.isEventHandler m.name then
      { j with eventHandlerCount := j.eventHandlerCount + 1 } else j).WellFormed := by
    split_ifs
    · exact { hj with }
    · exact hj
  unfold noteMethod
  cases lifecyclePattern? m.name with
  | some p => exact hcounted ((h.addLifecycleMethod _).addPattern _)
  | none => exact hcounted h

theorem wellFormed_foldl_noteMethod (h : i.WellFormed) (ms : List MethodDecl) :
    (ms.foldl (noteMethod r) i).WellFormed := by
  induction ms generalizing i with
  | nil => exact h
  | cons m ms ih => exact ih (wellFormed_noteMethod h m)

theorem insights_wellFormed (r : Rules) (d : ScriptDecl) : (insights r d).WellFormed := by
  have hnoted : (d.methods.foldl (noteMethod r) {}).WellFormed :=
    wellFormed_foldl_noteMethod wellFormed_empty _
  have hdriven := hnoted.addPatternIf
    (0 < (d.methods.foldl (noteMethod r) {}).eventHandlerCount) "event_driven"
  unfold insights
  refine WellFormed.addPatternIf (.addPatternIf (.addPatternIf ?_ _ _) _ _) _ _
  exact { hdriven with
    signalsDefined := nodup_dedup
    signalsEmitted := nodup_dedup
    complexity := isTier_complexity r _ _ }

theorem total_variableCount (v : VariableDecl) : (variableCount v).total = 1 := by
  unfold variableCount
  split_ifs <;> rfl

theorem total_foldl_variableCount (c : VariableCounts) (vs : List VariableDecl) :
    (vs.foldl (fun c v => c.add (variableCount v)) c).total = c.total + vs.length := by
  induction vs generalizing c with
  | nil => rfl
  | cons v vs ih =>
    rw [List.foldl_cons, ih, VariableCounts.total_add, total_variableCount, List.length_cons]
    omega

/-- Every exported and every other variable is counted once. -/
theorem total_insights (r : Rules) (d : ScriptDecl) :
    (insights r d).variableCounts.total = d.exports.length + d.vars.length := by
  have hcounts : (insights r d).variableCounts =
      d.allVariables.foldl (fun c v => c.add (variableCount v)) {} := by
    simp only [insights, variableCounts_addPatternIf]
  rw [hcounts, total_foldl_variableCount, ScriptDecl.allVariables, List.length_append]
  exact Nat.zero_add _

end Behavior

/-! ## All together -/

namespace Insights

/-- **Insights form a monoid under merging, commutative up to the order of signals.** The insights
of a script are well formed and count every variable; well-formed insights are closed under the
laws of merging; and the insights of many scripts depend neither on their grouping nor, up to the
order of signals, on their order. -/
theorem aggregation_monoid (r : Behavior.Rules) (d : ScriptDecl) (g : Grouping ScriptDecl)
    {ds es : List ScriptDecl} (hes : ds.Perm es) {a b : Insights} (ha : a.WellFormed)
    (hb : b.WellFormed) (c : Insights) :
    ((Behavior.insights r d).WellFormed ∧
      (Behavior.insights r d).variableCounts.total = d.exports.length + d.vars.length) ∧
    (WellFormed {} ∧ (a.merge b).WellFormed) ∧
    (a.merge b).merge c = a.merge (b.merge c) ∧
    (merge {} a = a ∧ a.merge {} = a) ∧
    (a.merge b).SameUpToSignalOrder (b.merge a) ∧
    g.merged (Behavior.insights r) = mergeAll (g.members.map (Behavior.insights r)) ∧
    (mergeAll (ds.map (Behavior.insights r))).SameUpToSignalOrder
      (mergeAll (es.map (Behavior.insights r))) := by
  have hscripts : ∀ i ∈ ds.map (Behavior.insights r), i.WellFormed :=
    List.forall_mem_map.2 fun d _ => Behavior.insights_wellFormed r d
  exact ⟨⟨Behavior.insights_wellFormed r d, Behavior.total_insights r d⟩,
    ⟨wellFormed_empty, ha.merge hb⟩, merge_assoc ha hb, ⟨empty_merge ha, merge_empty ha⟩,
    merge_swap ha hb, g.merged_eq (Behavior.insights_wellFormed r),
    mergeAll_perm (hes.map _) hscripts⟩

/-- The insights of a door. -/
def sampleDoor : Insights where
  patterns := ["signal_emitter", "state_management"]
  signalsDefined := ["opened", "closed"]
  variableCounts := { exported := 1 }
  complexity := .medium

/-- The insights of a lever. -/
def sampleLever : Insights where
  patterns := ["input_handling", "signal_emitter"]
  lifecycleMethods := ["_input"]
  signalsDefined := ["pulled", "opened"]

/-- Two scripts that declare a signal in common. -/
def sampleScripts : List ScriptDecl :=
  [{ signals := [⟨"opened", [], 1⟩, ⟨"closed", [], 2⟩], vars := [{ name := "state" }] },
    { signals := [⟨"pulled", [], 1⟩, ⟨"opened", [], 2⟩] }]

/-- A door and a lever give the same insights in either order, but for the order of their signals. -/
theorem aggregation_monoid_door_lever :
    sampleDoor.WellFormed ∧ sampleLever.WellFormed ∧ sampleScripts.Perm sampleScripts.reverse ∧
    (sampleDoor.merge sampleLever).signalsDefined = ["opened", "closed", "pulled"] ∧
    (sampleLever.merge sampleDoor).signalsDefined = ["pulled", "opened", "closed"] ∧
    (sampleDoor.merge sampleLever).SameUpToSignalOrder (sampleLever.merge sampleDoor) ∧
    (sampleDoor.merge sampleLever).merge sampleDoor =
      sampleDoor.merge (sampleLever.merge sampleDoor) ∧
    (mergeAll (sampleScripts.map (Behavior.insights {}))).SameUpToSignalOrder
      (mergeAll (sampleScripts.reverse.map (Behavior.insights {}))) := by
  have hdoor : sampleDoor.WellFormed := by decide
  have hlever : sampleLever.WellFormed := by decide
  have hscripts : sampleScripts.Perm sampleScripts.reverse := .swap _ _ _
  obtain ⟨-, -, hassoc, -, hswap, -, hall⟩ :=
    aggregation_monoid {} {} .empty hscripts hdoor hlever sampleDoor
  exact ⟨hdoor, hlever, hscripts, by decide, by decide, hswap, hassoc, hall⟩

end Insights

end GodotSurvey
