import GodotSurvey.Proofs.Project.Results
import GodotSurvey.Proofs.Survey.SceneScripts
import GodotSurvey.Proofs.Survey.Transparency
import GodotSurvey.Survey.Project

/-!
# The outcomes of the files of a project

Every script and scene of a project has one outcome. That of a script is an error if its file cannot
be read; else it is the result that the cache serves, or a new one. What the cache serves is told by
`servedScripts`, along a run over the scripts that may itself fill the cache.

* `analysed_scriptOutcomes` – where the outcomes of scripts come from, by induction on the run.
* `scriptOutcomes_of_served_nil` – if nothing is served, the outcomes are those of the files.
* `outline_of_sceneOutcome` – what the outcome of a scene has.
* `served?_after_script` – **the cache serves a script under the name it was first asked for by.**
-/

namespace GodotSurvey

/-! ## Outcomes of scripts -/

/-- The result tells of the script: it has no error, and both the structure and the insights. -/
structure ScriptResult.IsWhole (r : ScriptResult) : Prop where
  succeeded : r.failed = false
  decl : r.decl.isSome
  context : r.context.isSome

theorem ScriptResult.isWhole_ofContent (c : Config) (r : Registry) (o : ScriptOptions)
    (name content : Text) : (ofContent c r o name content).IsWhole :=
  ⟨rfl, rfl, rfl⟩

namespace Survey

/-- What the cache has for a script, as the store is. -/
def served? (s : Survey) (r : Registry) (o : ScriptOptions) (store : FileSystem) (t : Target) :
    Option ScriptResult :=
  (Source.read s.files t.path).toOption.bind fun content =>
    (s.cache.getScript store s.now (s.scriptKey r o t) (Blake3.hex content)).1

theorem served?_of_disabled {s : Survey} (he : s.cache.enabled = false) (r : Registry)
    (o : ScriptOptions) (store : FileSystem) (t : Target) : s.served? r o store t = none := by
  rw [served?]
  cases Source.read s.files t.path with
  | error e => rfl
  | ok content => simp [he, ResultCache.getScript, ResultCache.get, Except.toOption]

/-- The result for a script is the one that the cache has, or a new one. -/
theorem scriptAt_run_fst (s : Survey) (r : Registry) (o : ScriptOptions) (t : Target)
    (store : FileSystem) : ((s.scriptAt r o t).run store).1 =
      match Source.read s.files t.path with
      | .error e => .failure t.name e.message
      | .ok content =>
        (s.served? r o store t).getD (.ofContent s.config r o t.name content) := by
  rw [scriptAt]
  cases hread : Source.read s.files t.path with
  | error e => rfl
  | ok content =>
    show ((s.cachedScript r o t content).run store).1 = _
    by_cases he : s.cache.enabled = true
    · rw [cachedScript_run he, served?, hread]
      simp only [Except.toOption, Option.bind_some]
      cases s.cache.getScript store s.now (s.scriptKey r o t) (Blake3.hex content) with
      | mk found left => cases found <;> rfl
    · rw [Bool.not_eq_true] at he
      simp only [cachedScript, he, served?_of_disabled he]
      rfl

section Scripts

variable (s : Survey) (root : Text) (r : Registry)

/-- The outcomes of scripts of the project at `root`, in order. -/
def scriptOutcomes (store : FileSystem) (paths : List Text) :
    List (Text × Except Text ScriptResult) :=
  ((paths.mapM (s.scriptOutcome root r)).run store).1

/-- What the cache serves while scripts of the project at `root` are analysed in order. -/
def servedScripts (store : FileSystem) : List Text → List (Text × ScriptResult)
  | [] => []
  | path :: rest =>
    ((s.served? r { dependencies := true } store (fileIn root path)).map (path, ·)).toList ++
      servedScripts ((s.scriptOutcome root r path).run store).2 rest

/-- Where the outcome of a script comes from. -/
inductive Analysed (served : List (Text × ScriptResult)) :
    Text × Except Text ScriptResult → Prop where
  | unreadable {path : Text} {e : AnalysisError} (h : Source.read s.files path = .error e) :
      Analysed served (path, .error e.message)
  | fresh {path content : Text} (h : Source.read s.files path = .ok content) :
      Analysed served (path, .ok (.ofContent s.config r { dependencies := true }
        (ResourcePath.ofFile root path) content))
  | cached {path content : Text} {result : ScriptResult}
      (h : Source.read s.files path = .ok content) (hserved : (path, result) ∈ served) :
      Analysed served (path, ProjectResult.scriptOutcome result)

variable {s root r}

/-- An empty cache serves nothing. -/
theorem served?_of_empty (he : s.cache.enabled = true) {place : List Text} {store : FileSystem}
    (h : store.Holds place []) (hdir : s.cache.dir = Path.rooted place) (o : ScriptOptions)
    (t : Target) : s.served? r o store t = none := by
  rw [served?]
  cases Source.read s.files t.path with
  | error e => rfl
  | ok content =>
    simp only [Except.toOption, Option.bind_some]
    rw [ResultCache.getScript_eq he, ResultCache.stored?_of_empty h hdir]

theorem Analysed.mono {served served' : List (Text × ScriptResult)} (hsub : served ⊆ served')
    {x : Text × Except Text ScriptResult} (h : s.Analysed root r served x) :
    s.Analysed root r served' x := by
  cases h with
  | unreadable h => exact .unreadable h
  | fresh h => exact .fresh h
  | cached h hserved => exact .cached h (hsub hserved)

theorem scriptOutcome_failure (path : Text) (e : AnalysisError) :
    ProjectResult.scriptOutcome (.failure path e.message) = .error e.message := by
  rw [ProjectResult.scriptOutcome, if_pos (failed_failure path e)]
  rfl

theorem analysed_scriptOutcome (path : Text) (store : FileSystem) :
    s.Analysed root r
      ((s.served? r { dependencies := true } store (fileIn root path)).map (path, ·)).toList
      ((s.scriptOutcome root r path).run store).1 := by
  show s.Analysed root r _ (path, ProjectResult.scriptOutcome
    ((s.scriptAt r { dependencies := true } (fileIn root path)).run store).1)
  rw [scriptAt_run_fst]
  cases hread : Source.read s.files (fileIn root path).path with
  | error e =>
    dsimp only
    rw [scriptOutcome_failure]
    exact .unreadable hread
  | ok content =>
    cases hserved : s.served? r { dependencies := true } store (fileIn root path) with
    | none => exact .fresh hread
    | some result => exact .cached hread (by simp)

theorem analysed_scriptOutcomes (paths : List Text) (store : FileSystem) :
    ∀ x ∈ s.scriptOutcomes root r store paths,
      s.Analysed root r (s.servedScripts root r store paths) x := by
  induction paths generalizing store with
  | nil => nofun
  | cons path rest ih =>
    intro x hx
    rw [scriptOutcomes, SceneResult.run_mapM_cons] at hx
    obtain rfl | hx := List.mem_cons.1 hx
    · exact (analysed_scriptOutcome path store).mono (List.subset_append_left _ _)
    · exact (ih _ x hx).mono (List.subset_append_right _ _)

theorem files_scriptOutcomes (paths : List Text) (store : FileSystem) :
    (s.scriptOutcomes root r store paths).map Prod.fst = paths := by
  induction paths generalizing store with
  | nil => rfl
  | cons path rest ih =>
    rw [scriptOutcomes, SceneResult.run_mapM_cons]
    exact congrArg (path :: ·) (ih _)

/-- The outcome of a script that is not in the cache. -/
def plainOutcome (s : Survey) (root : Text) (r : Registry) (path : Text) :
    Except Text ScriptResult :=
  match Source.read s.files path with
  | .error e => .error e.message
  | .ok content =>
    .ok (.ofContent s.config r { dependencies := true } (ResourcePath.ofFile root path) content)

/-- If the cache serves nothing, the outcomes are those of the files. -/
theorem scriptOutcomes_of_served_nil {paths : List Text} {store : FileSystem}
    (h : s.servedScripts root r store paths = []) :
    s.scriptOutcomes root r store paths =
      paths.map fun path => (path, s.plainOutcome root r path) := by
  have hplain : ∀ x ∈ s.scriptOutcomes root r store paths,
      (x.1, s.plainOutcome root r x.1) = x := by
    intro x hx
    have hanalysed := analysed_scriptOutcomes paths store x hx
    rw [h] at hanalysed
    cases hanalysed with
    | unreadable hread => rw [plainOutcome, hread]
    | fresh hread => rw [plainOutcome, hread]
    | cached hread hserved => cases hserved
  have hfiles : (s.scriptOutcomes root r store paths).map Prod.fst = paths :=
    files_scriptOutcomes paths store
  conv_rhs => rw [← hfiles, List.map_map]
  exact ((List.map_congr_left hplain).trans (List.map_id _)).symm

/-- A script that succeeds is whole if what the cache serves is. -/
theorem Analysed.isWhole {served : List (Text × ScriptResult)}
    (hwhole : ∀ x ∈ served, x.2.IsWhole) {path : Text} {result : ScriptResult}
    (h : s.Analysed root r served (path, .ok result)) : result.IsWhole := by
  generalize hx : (path, Except.ok result) = x at h
  cases h with
  | unreadable => cases hx
  | fresh =>
    cases hx
    exact ScriptResult.isWhole_ofContent _ _ _ _ _
  | @cached path' content result' hread hserved =>
    obtain ⟨-, houtcome⟩ := Prod.ext_iff.1 hx
    dsimp only at houtcome
    rw [ProjectResult.scriptOutcome, if_neg (by simp [(hwhole _ hserved).succeeded])] at houtcome
    cases houtcome
    exact hwhole _ hserved

/-- A script has the name of its file if what the cache serves has. -/
theorem Analysed.path_eq {served : List (Text × ScriptResult)}
    (hnamed : ∀ x ∈ served, x.2.path = ResourcePath.ofFile root x.1) {path : Text}
    {result : ScriptResult} (h : s.Analysed root r served (path, .ok result)) :
    result.path = ResourcePath.ofFile root path := by
  generalize hx : (path, Except.ok result) = x at h
  cases h with
  | unreadable => cases hx
  | fresh =>
    cases hx
    rfl
  | @cached path' content result' hread hserved =>
    obtain ⟨hpath, houtcome⟩ := Prod.ext_iff.1 hx
    dsimp only at hpath houtcome
    subst hpath
    rw [ProjectResult.scriptOutcome] at houtcome
    split at houtcome
    · cases houtcome
    · cases houtcome
      exact hnamed _ hserved

/-- A script fails exactly if its file cannot be read, and with that error. -/
theorem Analysed.error_iff {served : List (Text × ScriptResult)}
    (hwhole : ∀ x ∈ served, x.2.IsWhole) {path : Text} {outcome : Except Text ScriptResult}
    (h : s.Analysed root r served (path, outcome)) (cause : Text) :
    outcome = .error cause ↔ ∃ e, Source.read s.files path = .error e ∧ e.message = cause := by
  generalize hx : (path, outcome) = x at h
  cases h with
  | unreadable hread =>
    cases hx
    simp [hread]
  | fresh hread =>
    cases hx
    simp [hread]
  | cached hread hserved =>
    cases hx
    rw [ProjectResult.scriptOutcome, if_neg (by simp [(hwhole _ hserved).succeeded])]
    simp [hread]

end Scripts

end Survey

/-! ## Scripts under another name -/

namespace Survey

/-- The result of a script that was asked for is what the cache serves for its file from then on,
and it has the name under which the script was asked for. -/
theorem served?_after_script {s : Survey} {ok : FileSystem → Prop} (he : s.cache.enabled = true)
    (hreliable : s.cache.Reliable ok) (hfresh : 0 ≤ s.cache.ttl) {store : FileSystem}
    (hok : ok store) {r : Registry} {o : ScriptOptions} {path content : Text} {t : Target}
    (hlocate : s.locate path = .ok t) (hregistry : s.registry t.root = .ok r)
    (hread : Source.read s.files t.path = .ok content) (hnew : s.served? r o store t = none)
    (hsurvives : ResultCache.Survives (Blake3.hex content) s.now
      (.ofContent s.config r o t.name content)) (root name : Text) :
    s.served? r o ((s.script path o).run store).2 ⟨t.path, root, name⟩ =
      some (.ofContent s.config r o t.name content) := by
  have hrun : ((s.script path o).run store).2 = ((s.cachedScript r o t content).run store).2 := by
    simp only [script, hlocate, hregistry, scriptAt, hread]
  have hkey : s.scriptKey r o ⟨t.path, root, name⟩ = s.scriptKey r o t := rfl
  rw [served?, hread] at hnew
  rw [served?, hread, hrun, cachedScript_run he, hkey]
  simp only [Except.toOption, Option.bind_some] at hnew ⊢
  -- an entry that is not good any more is removed, which leaves the files of the cache reliable
  have hleft : ok (s.cache.getScript store s.now (s.scriptKey r o t) (Blake3.hex content)).2 := by
    rw [ResultCache.getScript_eq he]
    split
    · exact hok
    · split
      · exact hok
      · exact hreliable.remove hok _
  cases hget : s.cache.getScript store s.now (s.scriptKey r o t) (Blake3.hex content) with
  | mk result left =>
    rw [hget] at hnew hleft
    dsimp only at hnew hleft
    subst hnew
    dsimp only
    rw [ResultCache.setScript_eq he _ _ rfl hsurvives, ResultCache.getScript_eq he,
      ResultCache.stored?_put hreliable hleft _ hsurvives]
    have hgood : s.cache.isFresh s.now (Blake3.hex content) (ResultCache.entryFor
        (Blake3.hex content) s.now (.ofContent s.config r o t.name content)) = true := by
      have hsince : s.now.since s.now = 0 := by simp [Instant.since, Instant.maxDuration]
      simp [ResultCache.isFresh, ResultCache.entryFor, hsince, hfresh]
    dsimp only
    rw [if_pos hgood]
    exact hsurvives.decoded

end Survey

/-! ## Outcomes of scenes -/

/-- A scene has a result unless no node of it is a root, and that has the name it was given. -/
theorem SceneResult.ofContent_whole (o : SceneOptions) (name : Text) {content : Text}
    (h : (ofContent o name content).failed = false) :
    (ofContent o name content).outline.isSome ∧ (ofContent o name content).path = name := by
  cases hroot : (Scene.hierarchy (o.file content).nodes).root with
  | some t => simp [ofContent, hroot]
  | none =>
    simp only [ofContent, hroot] at h
    exact absurd (Survey.failed_failure name _) (ne_true_of_eq_false h)

namespace Survey

variable {s : Survey} {root : Text}

/-- A scene that does not fail has an outline, and the name of its file. -/
theorem outline_of_sceneOutcome {path path' : Text} {scene : SceneResult}
    (h : s.sceneOutcome root path = (path', .ok scene)) :
    scene.outline.isSome ∧ scene.path = ResourcePath.ofFile root path' := by
  rw [sceneOutcome] at h
  cases hread : Source.read s.files path with
  | error e =>
    rw [hread] at h
    cases h
  | ok content =>
    rw [hread] at h
    obtain ⟨hpath, hscene⟩ := Prod.ext_iff.1 h
    dsimp only at hpath hscene
    subst hpath
    rw [ProjectResult.sceneOutcome] at hscene
    split at hscene
    · cases hscene
    · rename_i hfailed
      cases hscene
      exact SceneResult.ofContent_whole _ _ (Bool.eq_false_iff.2 hfailed)

theorem files_sceneOutcomes (paths : List Text) :
    (paths.map (s.sceneOutcome root)).map Prod.fst = paths := by
  rw [List.map_map]
  refine (List.map_congr_left fun path _ => ?_).trans (List.map_id paths)
  rw [Function.comp_apply, sceneOutcome]
  cases Source.read s.files path <;> rfl

end Survey

end GodotSurvey
