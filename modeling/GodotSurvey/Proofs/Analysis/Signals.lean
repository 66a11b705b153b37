import GodotSurvey.Analysis.Interaction
import GodotSurvey.Proofs.Script.Bodies
import GodotSurvey.Proofs.Text.Distinct

/-!
# The signals of a script

The signals that a script emits are found in the bodies of its methods. They are reported in four
places: in the insights, in the interactions, in the flows, and method by method in the summaries.
Since bodies run parallel to methods, all of them can be told from the summaries alone.

* `dedup_emittedNames` — the emitted signals are those of the summaries, in first-seen order.
* `emitters_eq` — the methods that emit a signal are those whose summary has it.
* `signalFlows_signal` — the flows list the declared signals and then the others.
* `signals_agree` — **the insights, the interactions and the flows agree with the summaries.**
-/

namespace GodotSurvey

open Text

/-! ## Bodies and summaries -/

namespace Script

theorem names_parse (src : Text) (opts : Options) :
    (parse src opts).bodies.map (·.name) = (parse src opts).decl.methods.map (·.name) := by
  have hheads := (aligned_finalState src opts).heads
  rw [← parse_bodies, ← parse_methods] at hheads
  exact names_eq hheads

theorem emissions_parse (src : Text) (opts : Options) :
    (parse src opts).decl.emissions = emissions (parse src opts).bodies := rfl

/-- The names of the emitted signals, body by body. -/
theorem emissions_signal (bs : List Body) :
    (emissions bs).map (·.signal) =
      bs.flatMap fun b => b.lines.flatMap fun l => emittedSignals l.text := by
  simp [emissions, List.map_flatMap, Function.comp_def]

end Script

namespace MethodSummary

variable {p : Script.Parsed}

/-- The summaries name the methods and hold the signals of the bodies. -/
theorem ofScript_signals (hnames : p.bodies.map (·.name) = p.decl.methods.map (·.name))
    (r : Registry) (keep : Bool) :
    (ofScript p r keep).map (fun s => (s.name, s.signalsEmitted)) =
      p.bodies.map fun b => (b.name, bodySignals b) := by
  have hlength : p.bodies.length = p.decl.methods.length := by
    simpa using congrArg List.length hnames
  refine List.ext_getElem (by simp [ofScript, Scope.methodsWithBodies, hlength]) ?_
  intro i _ hi
  have hb : i < p.bodies.length := by simpa using hi
  have hm : i < p.decl.methods.length := hlength ▸ hb
  have hname : p.bodies[i].name = p.decl.methods[i].name := by
    simpa [hb, hm] using congrArg (·[i]?) hnames
  simp [ofScript, Scope.methodsWithBodies, ofMethod, hname]

theorem ofScript_name (hnames : p.bodies.map (·.name) = p.decl.methods.map (·.name))
    (r : Registry) (keep : Bool) :
    (ofScript p r keep).map (·.name) = p.decl.methods.map (·.name) := by
  have h := congrArg (List.map Prod.fst) (ofScript_signals hnames r keep)
  rw [List.map_map, List.map_map] at h
  exact h.trans hnames

end MethodSummary

namespace Behavior

/-! ## Emitted signals -/

/-- The methods of one body's emissions of a signal: its name, as often as it emits the signal. -/
theorem dedup_method_emissions (b : Script.Body) (signal : Text) :
    dedup (((Script.emissions [b]).filter (·.signal == signal)).map (·.method)) =
      if signal ∈ MethodSummary.bodySignals b then [b.name] else [] := by
  have hmethod : ((Script.emissions [b]).filter (·.signal == signal)).map (·.method) =
      List.replicate ((Script.emissions [b]).filter (·.signal == signal)).length b.name := by
    refine List.eq_replicate_iff.2 ⟨List.length_map _, ?_⟩
    intro name hname
    obtain ⟨e, he, rfl⟩ := List.mem_map.1 hname
    have hmem := List.mem_of_mem_filter he
    simp only [Script.emissions, List.flatMap_cons, List.flatMap_nil, List.append_nil,
      List.mem_flatMap, List.mem_map] at hmem
    obtain ⟨l, -, s, -, rfl⟩ := hmem
    rfl
  have hsignal : signal ∈ MethodSummary.bodySignals b ↔
      signal ∈ (Script.emissions [b]).map (·.signal) := by
    rw [Script.emissions_signal, MethodSummary.bodySignals, mem_dedup]
    simp
  rw [hmethod, dedup_replicate]
  by_cases hs : signal ∈ MethodSummary.bodySignals b
  · obtain ⟨e, he, hes⟩ := List.mem_map.1 (hsignal.1 hs)
    have hmem : e ∈ (Script.emissions [b]).filter (·.signal == signal) :=
      List.mem_filter.2 ⟨he, beq_iff_eq.2 hes⟩
    rw [if_pos hs, if_neg fun h => List.ne_nil_of_mem hmem (List.length_eq_zero_iff.1 h)]
  · have hnil : (Script.emissions [b]).filter (·.signal == signal) = [] := by
      refine List.filter_eq_nil_iff.2 fun e he hes => hs (hsignal.2 ?_)
      exact List.mem_map.2 ⟨e, he, beq_iff_eq.1 hes⟩
    rw [if_neg hs, hnil]
    rfl

theorem flatMap_ite_singleton {α β : Type} (p : α → Prop) [DecidablePred p] (f : α → β)
    (xs : List α) : (xs.flatMap fun x => if p x then [f x] else []) = (xs.filter p).map f := by
  induction xs with
  | nil => rfl
  | cons x xs ih =>
    rw [List.flatMap_cons, ih]
    by_cases hx : p x <;> simp [hx]

section Emitted

variable {p : Script.Parsed} (hnames : p.bodies.map (·.name) = p.decl.methods.map (·.name))
  (hemissions : p.decl.emissions = Script.emissions p.bodies) (r : Registry) (keep : Bool)

include hnames hemissions

theorem dedup_emittedNames :
    dedup p.decl.emittedNames =
      dedup ((MethodSummary.ofScript p r keep).flatMap (·.signalsEmitted)) := by
  have hsummaries : (MethodSummary.ofScript p r keep).map (·.signalsEmitted) =
      p.bodies.map MethodSummary.bodySignals := by
    have h := congrArg (List.map Prod.snd) (MethodSummary.ofScript_signals hnames r keep)
    rw [List.map_map, List.map_map] at h
    exact h
  calc dedup p.decl.emittedNames
      = dedup (p.bodies.flatMap fun b => b.lines.flatMap fun l => Script.emittedSignals l.text) := by
        rw [ScriptDecl.emittedNames, hemissions, Script.emissions_signal]
    _ = dedup (p.bodies.flatMap MethodSummary.bodySignals) := (dedup_flatMap_dedup _ _).symm
    _ = dedup ((MethodSummary.ofScript p r keep).flatMap (·.signalsEmitted)) := by
        rw [List.flatMap_def, List.flatMap_def, hsummaries]

theorem emitters_eq (signal : Text) :
    emitters p.decl signal =
      dedup (((MethodSummary.ofScript p r keep).filter (signal ∈ ·.signalsEmitted)).map (·.name)) := by
  have hsummaries :
      ((MethodSummary.ofScript p r keep).filter (signal ∈ ·.signalsEmitted)).map (·.name) =
        (p.bodies.filter (signal ∈ MethodSummary.bodySignals ·)).map (·.name) := by
    have h := congrArg (fun ps : List (Text × List Text) =>
      (ps.filter (signal ∈ ·.2)).map Prod.fst) (MethodSummary.ofScript_signals hnames r keep)
    simpa only [List.filter_map, List.map_map, Function.comp_def] using h
  have hbodies : (Script.emissions p.bodies).filter (·.signal == signal) =
      p.bodies.flatMap fun b => (Script.emissions [b]).filter (·.signal == signal) := by
    simp [Script.emissions, List.filter_flatMap]
  calc emitters p.decl signal
      = dedup (p.bodies.flatMap fun b =>
          ((Script.emissions [b]).filter (·.signal == signal)).map (·.method)) := by
        rw [emitters, hemissions, hbodies, List.map_flatMap]
    _ = dedup (p.bodies.flatMap fun b =>
          if signal ∈ MethodSummary.bodySignals b then [b.name] else []) := by
        rw [← dedup_flatMap_dedup]
        simp only [dedup_method_emissions]
    _ = dedup ((p.bodies.filter (signal ∈ MethodSummary.bodySignals ·)).map (·.name)) := by
        rw [flatMap_ite_singleton]
    _ = _ := by rw [hsummaries]

end Emitted

/-! ## Flows -/

@[simp] theorem signalsEmitted_addPatternIf (i : Insights) (b : Bool) (p : Text) :
    (i.addPatternIf b p).signalsEmitted = i.signalsEmitted := by
  cases b <;> rfl

theorem signalsEmitted_insights (r : Rules) (d : ScriptDecl) :
    (insights r d).signalsEmitted = dedup d.emittedNames := by
  simp only [insights, signalsEmitted_addPatternIf]

variable {d : ScriptDecl}

theorem emitters_eq_nil_iff {signal : Text} : emitters d signal = [] ↔ signal ∉ d.emittedNames := by
  rw [List.eq_nil_iff_forall_not_mem]
  constructor
  · intro hnone hmem
    obtain ⟨e, he, rfl⟩ := List.mem_map.1 hmem
    refine hnone e.method (mem_dedup.2 (List.mem_map.2 ⟨e, ?_, rfl⟩))
    exact List.mem_filter.2 ⟨he, beq_self_eq_true e.signal⟩
  · intro hsignal name hname
    obtain ⟨e, he, -⟩ := List.mem_map.1 (mem_dedup.1 hname)
    obtain ⟨hmem, hes⟩ := List.mem_filter.1 he
    exact hsignal (List.mem_map.2 ⟨e, hmem, beq_iff_eq.1 hes⟩)

/-- Declared signals stand before the others, each once. -/
theorem signalFlows_signal : (signalFlows d).map (·.signal) =
    dedup d.signalNames ++ (dedup d.emittedNames).filter (· ∉ d.signalNames) := by
  rw [signalFlows, List.map_map, dedup_append]
  simp [Function.comp_def]

theorem nodup_signalFlows : ((signalFlows d).map (·.signal)).Nodup := by
  rw [signalFlows, List.map_map]
  exact (List.map_id _).symm ▸ nodup_dedup

theorem flow_of_mem {f : SignalFlow} (hf : f ∈ signalFlows d) :
    (f.declared ↔ f.signal ∈ d.signalNames) ∧ f.emitters = emitters d f.signal := by
  obtain ⟨s, -, rfl⟩ := List.mem_map.1 hf
  exact ⟨List.contains_iff_mem, rfl⟩

/-- The signals of the flows that a condition picks out. -/
theorem filter_signalFlows (q : SignalFlow → Bool) :
    ((signalFlows d).filter q).map (·.signal) =
      (dedup d.signalNames ++ (dedup d.emittedNames).filter (· ∉ d.signalNames)).filter
        fun s => q ⟨s, d.signalNames.contains s, emitters d s⟩ := by
  rw [← signalFlows_signal, signalFlows, List.filter_map, List.map_map, List.map_map]
  simp [Function.comp_def]

theorem unusedSignals_eq (r : Rules) (S : List MethodSummary) :
    (flows r d S).unusedSignals = (dedup d.signalNames).filter (· ∉ dedup d.emittedNames) := by
  change ((signalFlows d).filter fun f => f.declared && f.emitters.isEmpty).map (·.signal) = _
  rw [filter_signalFlows, List.filter_append]
  have hdeclared : (dedup d.signalNames).filter
      (fun s => d.signalNames.contains s && (emitters d s).isEmpty) =
        (dedup d.signalNames).filter (· ∉ dedup d.emittedNames) := by
    refine List.filter_congr fun s hs => ?_
    rw [List.contains_iff_mem.2 (mem_dedup.1 hs), Bool.true_and, Bool.eq_iff_iff,
      List.isEmpty_iff, emitters_eq_nil_iff, decide_eq_true_iff, mem_dedup]
  have hother : ((dedup d.emittedNames).filter (· ∉ d.signalNames)).filter
      (fun s => d.signalNames.contains s && (emitters d s).isEmpty) = [] := by
    refine List.filter_eq_nil_iff.2 fun s hs h => ?_
    have hnot : s ∉ d.signalNames := of_decide_eq_true (List.mem_filter.1 hs).2
    exact hnot (List.contains_iff_mem.1 (Bool.and_eq_true_iff.1 h).1)
  rw [hdeclared, hother, List.append_nil]

theorem undeclaredEmissions_eq (r : Rules) (S : List MethodSummary) :
    (flows r d S).undeclaredEmissions = (dedup d.emittedNames).filter (· ∉ d.signalNames) := by
  change ((signalFlows d).filter (!·.declared)).map (·.signal) = _
  rw [filter_signalFlows, List.filter_append]
  have hdeclared : (dedup d.signalNames).filter (fun s => !d.signalNames.contains s) = [] := by
    refine List.filter_eq_nil_iff.2 fun s hs h => ?_
    simp [mem_dedup.1 hs] at h
  have hother : ((dedup d.emittedNames).filter (· ∉ d.signalNames)).filter
      (fun s => !d.signalNames.contains s) = (dedup d.emittedNames).filter (· ∉ d.signalNames) := by
    refine List.filter_eq_self.2 fun s hs => ?_
    have hnot : s ∉ d.signalNames := of_decide_eq_true (List.mem_filter.1 hs).2
    simpa using hnot
  rw [hdeclared, hother, List.nil_append]

/-- **The signals of a script agree everywhere.** The emitted signals of the insights and of the
interactions are those of the method summaries, in first-seen order. The flows list every declared
or emitted signal once, the declared ones first, each with the methods whose summaries have it;
the unused signals are the declared ones that are not emitted, and the undeclared emissions are
the emitted ones that are not declared. -/
theorem signals_agree (src : Text) (opts : Script.Options) (registry : Registry) (rules : Rules)
    (keep : Bool) :
    let p := Script.parse src opts
    let S := MethodSummary.ofScript p registry keep
    let I := insights rules p.decl
    let X := Interaction.ofScript p
    let F := flows rules p.decl S
    S.map (·.name) = p.decl.methods.map (·.name) ∧
    I.signalsEmitted = dedup (S.flatMap (·.signalsEmitted)) ∧
    X.upward = I.signalsEmitted ∧
    F.signalFlows.map (·.signal) =
      dedup p.decl.signalNames ++ I.signalsEmitted.filter (· ∉ p.decl.signalNames) ∧
    (F.signalFlows.map (·.signal)).Nodup ∧
    (∀ f ∈ F.signalFlows, (f.declared ↔ f.signal ∈ p.decl.signalNames) ∧
      f.emitters = dedup ((S.filter (f.signal ∈ ·.signalsEmitted)).map (·.name))) ∧
    F.unusedSignals = (dedup p.decl.signalNames).filter (· ∉ I.signalsEmitted) ∧
    F.undeclaredEmissions = I.signalsEmitted.filter (· ∉ p.decl.signalNames) := by
  intro p S I X F
  have hnames : p.bodies.map (·.name) = p.decl.methods.map (·.name) := Script.names_parse src opts
  have hemissions : p.decl.emissions = Script.emissions p.bodies := Script.emissions_parse src opts
  have hemitted : I.signalsEmitted = dedup p.decl.emittedNames := signalsEmitted_insights rules p.decl
  refine ⟨MethodSummary.ofScript_name hnames registry keep, ?_, ?_, ?_, ?_, ?_, ?_, ?_⟩
  · exact hemitted.trans (dedup_emittedNames hnames hemissions registry keep)
  · exact hemitted.symm
  · rw [hemitted]
    exact signalFlows_signal
  · exact nodup_signalFlows
  · intro f hf
    obtain ⟨hdeclared, hemitters⟩ := flow_of_mem hf
    exact ⟨hdeclared, hemitters.trans (emitters_eq hnames hemissions registry keep f.signal)⟩
  · rw [hemitted]
    exact unusedSignals_eq rules S
  · rw [hemitted]
    exact undeclaredEmissions_eq rules S

end Behavior

end GodotSurvey
