import GodotSurvey.Proofs.Config.SettingsText
import GodotSurvey.Proofs.Survey.Transparency
import GodotSurvey.Proofs.Text.Distinct

/-!
# Which settings a key tells apart

A result depends on the rules only through the names they pick out among the methods and variables
of a script. So two configurations with the same settings text give different results exactly if
their rules pick out different names of some script.

* `ofContent_congr`, `agrees_of_ofContent` — the results of a script and the names picked out in it.
* `Shares.answer_of_keys_ne` — a request does not change what one with another key is answered.
* `settings_separated_iff` — **the settings text separates configurations that differ in some
  result, unless they print alike and their rules pick out different names.**
-/

namespace GodotSurvey

open Text

/-! ## Names picked out -/

namespace Behavior

/-- The rules pick out the same handlers and state variables among the declarations. -/
structure Rules.Agree (a b : Rules) (d : ScriptDecl) : Prop where
  handlers : ∀ m ∈ d.methods, a.isEventHandler m.name = b.isEventHandler m.name
  states : ∀ v ∈ d.allVariables, a.isStateVariable v.name = b.isStateVariable v.name

variable {a b : Rules} {d : ScriptDecl}

theorem foldl_noteMethod_congr {ms : List MethodDecl}
    (h : ∀ m ∈ ms, a.isEventHandler m.name = b.isEventHandler m.name) (i : Insights) :
    ms.foldl (noteMethod a) i = ms.foldl (noteMethod b) i := by
  apply List.foldl_rel rfl
  rintro m hm j _ rfl
  rw [noteMethod, noteMethod, h m hm]

theorem any_isStateVariable_congr {vs : List VariableDecl}
    (h : ∀ v ∈ vs, a.isStateVariable v.name = b.isStateVariable v.name) :
    vs.any (a.isStateVariable ·.name) = vs.any (b.isStateVariable ·.name) := by
  induction vs with
  | nil => rfl
  | cons v vs ih =>
    rw [List.any_cons, List.any_cons, h v List.mem_cons_self,
      ih fun w hw => h w (List.mem_cons_of_mem v hw)]

theorem insights_congr (ht : a.thresholds = b.thresholds) (h : a.Agree b d) :
    insights a d = insights b d := by
  simp only [insights, foldl_noteMethod_congr h.handlers, any_isStateVariable_congr h.states,
    Rules.complexity, ht]

theorem filter_map_congr {α : Type} {xs : List α} {name : α → Text} {p q : Text → Bool}
    (h : ∀ x ∈ xs, p (name x) = q (name x)) : (xs.map name).filter p = (xs.map name).filter q := by
  apply List.filter_congr
  intro n hn
  obtain ⟨x, hx, rfl⟩ := List.mem_map.mp hn
  exact h x hx

theorem context_congr (h : a.Agree b d) (i : Insights) : context a d i = context b d i := by
  rw [context, context, filter_map_congr h.handlers, filter_map_congr h.states]

theorem flows_congr (h : a.Agree b d) (ss : List MethodSummary) : flows a d ss = flows b d ss := by
  have hentry : (d.methods.map (·.name)).filter (fun n => isLifecycle n || a.isEventHandler n) =
      (d.methods.map (·.name)).filter fun n => isLifecycle n || b.isEventHandler n :=
    filter_map_congr fun m hm => by rw [h.handlers m hm]
  simp only [flows, hentry]

/-- The names that are picked out stand in the context. -/
theorem agree_of_context {i j : Insights} (h : context a d i = context b d j) : a.Agree b d := by
  have hpicked {α : Type} {xs : List α} {name : α → Text} {p q : Text → Bool}
      (h : dedup ((xs.map name).filter p) = dedup ((xs.map name).filter q)) {x : α} (hx : x ∈ xs) :
      p (name x) = q (name x) := by
    have hmem := congrArg (name x ∈ ·) h
    simp only [mem_dedup, List.mem_filter, List.mem_map_of_mem hx, true_and] at hmem
    exact Bool.eq_iff_iff.mpr (iff_of_eq hmem)
  exact ⟨fun m hm => hpicked (congrArg Context.eventHandlers h) hm,
    fun v hv => hpicked (congrArg Context.stateVariables h) hv⟩

end Behavior

/-! ## Results -/

namespace Config

/-- The rules pick out the same names of every script. -/
def Agrees (c c' : Config) : Prop :=
  ∀ content, c.rules.Agree c'.rules (Script.parse content {}).decl

/-- Some script has different results. -/
def Differs (c c' : Config) : Prop :=
  ∃ r o name content, ScriptResult.ofContent c r o name content ≠ .ofContent c' r o name content

/-- Where the settings text is the same, so are the results, if the same names are picked out. -/
theorem ofContent_congr {c c' : Config} (h : c.PrintsAlike c') (hagrees : c.Agrees c')
    (r : Registry) (o : ScriptOptions) (name content : Text) :
    ScriptResult.ofContent c r o name content = .ofContent c' r o name content := by
  have hthresholds : c.rules.thresholds = c'.rules.thresholds := h.thresholds
  have hdecl (deps : List Dependency) : c.rules.Agree c'.rules (if o.dependencies then
      { (Script.parse content {}).decl with dependencies := deps }
      else (Script.parse content {}).decl) := by
    split
    · exact ⟨(hagrees content).handlers, (hagrees content).states⟩
    · exact hagrees content
  simp only [ScriptResult.ofContent, h.loaders]
  rw [Behavior.insights_congr hthresholds (hdecl _), Behavior.context_congr (hdecl _),
    Behavior.flows_congr (hdecl _)]

theorem agrees_of_ofContent {c c' : Config}
    (h : ∀ content, ScriptResult.ofContent c {} {} [] content = .ofContent c' {} {} [] content) :
    c.Agrees c' := by
  intro content
  have hcontext := congrArg ScriptResult.context (h content)
  exact Behavior.agree_of_context (Option.some.inj hcontext)

theorem PrintsAlike.differs_iff {c c' : Config} (h : c.PrintsAlike c') :
    c.Differs c' ↔ ¬c.Agrees c' := by
  constructor
  · rintro ⟨r, o, name, content, hne⟩ hagrees
    exact hne (ofContent_congr h hagrees r o name content)
  · intro hagrees
    apply Classical.byContradiction
    intro hsame
    refine hagrees (agrees_of_ofContent fun content => ?_)
    exact Classical.byContradiction fun hne => hsame ⟨{}, {}, [], content, hne⟩

theorem PrintsAlike.agrees {c c' : Config} (h : c.PrintsAlike c') (hc : c.isValid = true)
    (hc' : c'.isValid = true) (hb : c.patterns.NoBlanks) (hb' : c'.patterns.NoBlanks) :
    c.Agrees c' := by
  intro content
  rw [h.rules_eq hc hc' hb hb']
  exact ⟨fun _ _ => rfl, fun _ _ => rfl⟩

end Config

/-! ## Keys -/

namespace Survey

/-- A key tells the fingerprint of the settings it was made with. -/
theorem fingerprint_of_scriptKey {s s' : Survey} {r r' : Registry} {o o' : ScriptOptions}
    {t t' : Target} (h : s.scriptKey r o t = s'.scriptKey r' o' t') :
    contentFingerprint s.config.settingsText = contentFingerprint s'.config.settingsText := by
  have hzero (t : Text) : 0 ∉ contentFingerprint t := fun hmem =>
    absurd (isIdent_of_mem_hexOfNat hmem) (by decide)
  rw [scriptKey, scriptKey, ResultCache.key_of_four, ResultCache.key_of_four, ← List.append_assoc,
    ← List.append_assoc] at h
  exact (append_last_inj (hzero _) (hzero _) h).2

/-- Of the store, an answer depends on nothing but the entry of its key. -/
theorem cachedScript_congr {s : Survey} (he : s.cache.enabled = true) (r : Registry)
    (o : ScriptOptions) (t : Target) (content : Text) {store store' : FileSystem}
    (h : s.cache.stored? store (s.scriptKey r o t) = s.cache.stored? store' (s.scriptKey r o t)) :
    ((s.cachedScript r o t content).run store).1 =
      ((s.cachedScript r o t content).run store').1 := by
  rw [cachedScript_run he, cachedScript_run he, ResultCache.getScript_eq he,
    ResultCache.getScript_eq he, h]
  cases s.cache.stored? store' (s.scriptKey r o t) with
  | none => rfl
  | some e =>
    cases hfresh : s.cache.isFresh s.now (Blake3.hex content) e with
    | true =>
      cases hread : (Json.parse? e.data).bind ScriptResult.ofValue? <;> simp [hfresh, hread]
    | false => simp [hfresh]

/-- A request leaves the entries of other keys alone. -/
theorem stored?_cachedScript_other {s : Survey} (he : s.cache.enabled = true)
    {ok : FileSystem → Prop} (hreliable : s.cache.Reliable ok) {store : FileSystem} (hok : ok store)
    (r : Registry) (o : ScriptOptions) (t : Target) (content : Text) {other : Text}
    (hne : Blake3.hex other ≠ Blake3.hex (s.scriptKey r o t)) :
    s.cache.stored? ((s.cachedScript r o t content).run store).2 other =
      s.cache.stored? store other := by
  rw [cachedScript_run he, ResultCache.getScript_eq he]
  cases s.cache.stored? store (s.scriptKey r o t) with
  | none => exact ResultCache.stored?_setScript_other hreliable hok _ _ _ hne
  | some e =>
    cases hfresh : s.cache.isFresh s.now (Blake3.hex content) e with
    | true =>
      cases hread : (Json.parse? e.data).bind ScriptResult.ofValue? with
      | none => simp [hfresh, hread, ResultCache.stored?_setScript_other hreliable hok _ _ _ hne]
      | some result => simp [hfresh, hread]
    | false =>
      simp only [hfresh, Bool.false_eq_true, if_false]
      rw [ResultCache.stored?_setScript_other hreliable (hreliable.remove hok _) _ _ _ hne,
        ResultCache.stored?_removeAll_other hreliable hok hne]

/-- Two surveys share a reliable cache. -/
structure Shares (s s' : Survey) (ok : FileSystem → Prop) : Prop where
  cache : s'.cache = s.cache
  enabled : s.cache.enabled = true
  reliable : s.cache.Reliable ok

/-- A request does not change what one with another key is answered. -/
theorem Shares.answer_of_keys_ne {s s' : Survey} {ok : FileSystem → Prop} (h : s.Shares s' ok)
    {store : FileSystem} (hok : ok store) {r r' : Registry} {o o' : ScriptOptions} {t t' : Target}
    (hne : Blake3.hex (s'.scriptKey r' o' t') ≠ Blake3.hex (s.scriptKey r o t))
    (content content' : Text) :
    ((s'.cachedScript r' o' t' content').run ((s.cachedScript r o t content).run store).2).1 =
      ((s'.cachedScript r' o' t' content').run store).1 := by
  have he : s'.cache.enabled = true := by rw [h.cache, h.enabled]
  apply cachedScript_congr he
  rw [h.cache]
  exact stored?_cachedScript_other h.enabled h.reliable hok r o t content hne

end Survey

namespace Config

/-- Whatever a survey with `c` is asked first, one with `c'` that shares its cache gives the answer
it would have given before. -/
def KeptApart (c c' : Config) : Prop :=
  ∀ {s s' : Survey} {ok : FileSystem → Prop} {store : FileSystem},
    s.Shares s' ok → ok store → s.config = c → s'.config = c' →
    ∀ (r r' : Registry) (o o' : ScriptOptions) (t t' : Target) (content content' : Text),
      ResultCache.TellsApart Blake3.hex [s.scriptKey r o t, s'.scriptKey r' o' t'] →
      ((s'.cachedScript r' o' t' content').run ((s.cachedScript r o t content).run store).2).1 =
        ((s'.cachedScript r' o' t' content').run store).1

/-- Different texts keep configurations apart, if their fingerprints differ as well. -/
theorem keptApart_of_settingsText_ne {c c' : Config} (h : c.settingsText ≠ c'.settingsText)
    (hhash : ResultCache.TellsApart contentFingerprint [c.settingsText, c'.settingsText]) :
    c.KeptApart c' := by
  intro s s' ok store hshares hok hs hs' r r' o o' t t' content content' hkeys
  refine hshares.answer_of_keys_ne hok (fun hhex => ?_) content content'
  have hprint := Survey.fingerprint_of_scriptKey (hkeys _ (by simp) _ (by simp) hhex)
  rw [hs, hs'] at hprint
  exact h (hhash _ (by simp) _ (by simp) hprint.symm)

/-- **Which settings are kept apart.** Two valid configurations that differ in some result have
different texts exactly if they do not print alike with rules that pick out different names, and
rules whose names hold no blank never do that. Then no result of one is served under the other, if
hashes tell the texts and the keys apart. -/
theorem settings_separated_iff {c c' : Config} (hc : c.isValid = true) (hc' : c'.isValid = true) :
    ((c.Differs c' → c.settingsText ≠ c'.settingsText) ↔ (c.PrintsAlike c' → c.Agrees c')) ∧
    (c.patterns.NoBlanks → c'.patterns.NoBlanks → c.PrintsAlike c' → c.Agrees c') ∧
    ((c.PrintsAlike c' → c.Agrees c') → c.Differs c' →
      ResultCache.TellsApart contentFingerprint [c.settingsText, c'.settingsText] →
      c.KeptApart c') := by
  have hiff : (c.Differs c' → c.settingsText ≠ c'.settingsText) ↔
      (c.PrintsAlike c' → c.Agrees c') := by
    rw [Ne, settingsText_eq_iff hc hc']
    constructor
    · intro h halike
      exact Classical.byContradiction fun hagrees => h (halike.differs_iff.mpr hagrees) halike
    · intro h hdiffers halike
      exact halike.differs_iff.mp hdiffers (h halike)
  refine ⟨hiff, fun hb hb' halike => halike.agrees hc hc' hb hb', fun h hdiffers hhash => ?_⟩
  exact keptApart_of_settingsText_ne (hiff.mpr h hdiffers) hhash

/-! ## Keywords with blanks -/

/-- State variables are those whose names hold one of the keywords. -/
def withKeywords (ks : List Text) : Config := { patterns := { stateKeywords := some ks } }

/-- Two lists of keywords that pick out different variables of one line of script. -/
theorem differs_of_keywords {ks ks' : List Text} (line : Text)
    (h : (ScriptResult.ofContent (withKeywords ks) {} {} [] line).context ≠
      (ScriptResult.ofContent (withKeywords ks') {} {} [] line).context) :
    (withKeywords ks).Differs (withKeywords ks') :=
  ⟨{}, {}, [], line, fun heq => h (congrArg ScriptResult.context heq)⟩

theorem settings_separated_hp_mp :
    (withKeywords ["hp"]).Differs (withKeywords ["mp"]) ∧
      (withKeywords ["hp"]).settingsText ≠ (withKeywords ["mp"]).settingsText := by
  have hdiffers : (withKeywords ["hp"]).Differs (withKeywords ["mp"]) :=
    differs_of_keywords "var hp\n" (by decide +kernel)
  have hhp : (withKeywords ["hp"]).isValid = true := by decide
  have hmp : (withKeywords ["mp"]).isValid = true := by decide
  obtain ⟨hiff, hblanks, -⟩ := settings_separated_iff hhp hmp
  exact ⟨hdiffers, hiff.mpr (hblanks (by decide) (by decide)) hdiffers⟩

/-- One keyword with a blank prints as two. -/
theorem settings_collide_hp_mp :
    (withKeywords ["hp", "mp"]).isValid = true ∧ (withKeywords ["hp mp"]).isValid = true ∧
      (withKeywords ["hp", "mp"]).Differs (withKeywords ["hp mp"]) ∧
      (withKeywords ["hp", "mp"]).settingsText = (withKeywords ["hp mp"]).settingsText :=
  ⟨by decide, by decide, differs_of_keywords "var hp\n" (by decide +kernel), by decide⟩

end Config

end GodotSurvey
