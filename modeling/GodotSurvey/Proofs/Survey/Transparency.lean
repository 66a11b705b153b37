import GodotSurvey.Survey.Script
import GodotSurvey.Proofs.Cache.Storage

/-!
# Answers from the cache

A run answers requests for scripts one after the other; between them files may change and time goes
by. The key under which a result is stored names the file, the result carries the name under which
the file was asked for, and a file can be asked for under several names. So what a request gets is
the answer of an earlier one, `source?`, or its own.

* `kept?` — the request whose result is stored, told from the requests alone.
* `Tracks.answer` — one request keeps the store in step with `kept?`; `Tracks.answersFrom` — so does
  a run.
* `answersFrom_plain` — **apart from names, a run gives the answers it would give without a cache,
  and gives exactly these if every request that is served from the cache has the name of the request
  it is served from.**
-/

namespace GodotSurvey

/-- The result without the name of its script. -/
def ScriptResult.unnamed (r : ScriptResult) : ScriptResult := { r with path := [] }

/-! ## Requests -/

/-- A request for a script, with the files and the time it meets. -/
structure ScriptRequest where
  files : FileSystem
  now : Instant
  path : Text
  options : ScriptOptions

namespace Survey

/-- The survey as it is when the request comes. -/
def during (s : Survey) (q : ScriptRequest) : Survey := { s with files := q.files, now := q.now }

/-- The answer to a request, from the cache or stored there. -/
def answer (s : Survey) (q : ScriptRequest) : Caching ScriptResult :=
  (s.during q).script q.path q.options

/-- The answers to requests in order. -/
def answersFrom (s : Survey) (store : FileSystem) : List ScriptRequest → List ScriptResult
  | [] => []
  | q :: qs => ((s.answer q).run store).1 :: s.answersFrom ((s.answer q).run store).2 qs

/-- The survey with its cache switched off. -/
def uncached (s : Survey) : Survey := { s with cache := { s.cache with enabled := false } }

/-- The answer to a request without a cache. -/
def plainAnswer (s : Survey) (q : ScriptRequest) : ScriptResult := ((s.uncached.answer q).run {}).1

/-- The file that a request means, and its content, if it can be read. -/
def found? (s : Survey) (q : ScriptRequest) : Option (Target × Text) :=
  match (s.during q).locate q.path with
  | .error _ => none
  | .ok t =>
    match Source.read q.files t.path with
    | .error _ => none
    | .ok content => some (t, content)

/-! ## What is kept -/

/-- Where the result of a request is kept: results are told apart by file and options. -/
def place? (s : Survey) (q : ScriptRequest) : Option (Text × ScriptOptions) :=
  (s.found? q).map fun (t, _) => (t.path, q.options)

def content? (s : Survey) (q : ScriptRequest) : Option Text := (s.found? q).map (·.2)

/-- What was stored for `p` is good for `q`: the content is the same, and not too much time has
passed. -/
def serves (s : Survey) (p q : ScriptRequest) : Bool :=
  s.content? p == s.content? q && q.now.since p.now ≤ s.cache.ttl

/-- The request whose result is kept at a place; the latest request comes first. -/
def kept? (s : Survey) (place : Text × ScriptOptions) : List ScriptRequest → Option ScriptRequest
  | [] => none
  | q :: earlier =>
    if s.place? q = some place then
      match s.kept? place earlier with
      | none => some q
      | some p => if s.serves p q then some p else some q
    else s.kept? place earlier

/-- The earlier request from whose result a request is served. -/
def source? (s : Survey) (earlier : List ScriptRequest) (q : ScriptRequest) :
    Option ScriptRequest :=
  (s.place? q).bind fun place => (s.kept? place earlier).filter fun p => s.serves p q

theorem kept?_spec {s : Survey} {place : Text × ScriptOptions} {earlier : List ScriptRequest}
    {p : ScriptRequest} (h : s.kept? place earlier = some p) :
    p ∈ earlier ∧ s.place? p = some place := by
  induction earlier with
  | nil => contradiction
  | cons q earlier ih =>
    have hmore (hp : s.kept? place earlier = some p) :
        p ∈ q :: earlier ∧ s.place? p = some place :=
      ⟨List.mem_cons_of_mem q (ih hp).1, (ih hp).2⟩
    rw [kept?] at h
    split at h
    · rename_i hq
      have hself (hp : some q = some p) : p ∈ q :: earlier ∧ s.place? p = some place := by
        cases hp
        exact ⟨List.mem_cons_self, hq⟩
      split at h
      · exact hself h
      · split at h
        · rename_i hkept _
          exact hmore (hkept.trans h)
        · exact hself h
    · exact hmore h

/-! ## Answers without a cache -/

theorem answer_of_found {s : Survey} {r : Registry} (hr : s.classes = some r) {q : ScriptRequest}
    {t : Target} {content : Text} (h : s.found? q = some (t, content)) :
    s.answer q = (s.during q).cachedScript r q.options t content := by
  rw [found?] at h
  split at h
  · contradiction
  · rename_i t' hlocate
    split at h
    · contradiction
    · rename_i content' hread
      cases h
      have hregistry : (s.during q).registry t.root = .ok r := by simp [registry, during, hr]
      have hread : Source.read (s.during q).files t.path = .ok content := hread
      simp [answer, script, scriptAt, hlocate, hregistry, hread]

theorem plainAnswer_of_found {s : Survey} {r : Registry} (hr : s.classes = some r)
    {q : ScriptRequest} {t : Target} {content : Text} (h : s.found? q = some (t, content)) :
    s.plainAnswer q = .ofContent s.config r q.options t.name content := by
  have hanswer := answer_of_found (s := s.uncached) hr h
  rw [plainAnswer, hanswer]
  rfl

theorem answer_of_not_found {s : Survey} {r : Registry} (hr : s.classes = some r)
    {q : ScriptRequest} (h : s.found? q = none) (store : FileSystem) :
    (s.answer q).run store = (s.plainAnswer q, store) := by
  have hregistry (root : Text) : (s.during q).registry root = .ok r := by
    simp [registry, during, hr]
  have hregistry' (root : Text) : (s.uncached.during q).registry root = .ok r := hregistry root
  have hlocate' : (s.uncached.during q).locate q.path = (s.during q).locate q.path := rfl
  have hread' (p : Text) :
      Source.read (s.uncached.during q).files p = Source.read (s.during q).files p := rfl
  rw [found?] at h
  rw [plainAnswer, answer, answer, script, script, hlocate']
  cases hlocate : (s.during q).locate q.path with
  | error e => rfl
  | ok t =>
    have hread : ∃ e, Source.read (s.during q).files t.path = .error e := by
      rw [hlocate] at h
      dsimp only at h
      split at h
      · rename_i e he
        exact ⟨e, he⟩
      · contradiction
    obtain ⟨e, he⟩ := hread
    simp only [hregistry, hregistry', scriptAt, hread', he]
    rfl

/-- Without a cache, requests for the same content with the same options differ in the name only. -/
theorem plainAnswer_of_serves {s : Survey} {r : Registry} (hr : s.classes = some r)
    {p q : ScriptRequest} {place : Text × ScriptOptions} (hp : s.place? p = some place)
    (hq : s.place? q = some place) (h : s.serves p q = true) :
    s.plainAnswer p = { s.plainAnswer q with path := (s.plainAnswer p).path } := by
  obtain ⟨⟨t, content⟩, hfp, hplace⟩ := Option.map_eq_some_iff.mp hp
  obtain ⟨⟨t', content'⟩, hfq, hplace'⟩ := Option.map_eq_some_iff.mp hq
  have hoptions : p.options = q.options := by
    rw [← hplace'] at hplace
    exact (Prod.mk.inj hplace).2
  have hcontent : content = content' := by
    simp only [serves, content?, hfp, hfq, Bool.and_eq_true, beq_iff_eq] at h
    simpa using h.1
  rw [plainAnswer_of_found hr hfp, plainAnswer_of_found hr hfq, hoptions, hcontent]
  rfl

end Survey

/-! ## Keys -/

/-- The options can be told from their part of a key. -/
theorem ScriptOptions.key_inj {o o' : ScriptOptions} (h : o.key = o'.key) : o = o' := by
  obtain ⟨d, m, v, c⟩ := o
  obtain ⟨d', m', v', c'⟩ := o'
  revert d m v c d' m' v' c'
  decide +kernel

theorem ScriptOptions.zero_notMem_key (o : ScriptOptions) : 0 ∉ o.key := by
  obtain ⟨d, m, v, c⟩ := o
  revert d m v c
  decide +kernel

namespace Survey

/-- The key under which the result of a place is stored. -/
def storageKey (s : Survey) (r : Registry) (place : Text × ScriptOptions) : Text :=
  s.scriptKey r place.2 ⟨place.1, [], []⟩

theorem storageKey_inj {s : Survey} {r : Registry} {place place' : Text × ScriptOptions}
    (h : s.storageKey r place = s.storageKey r place') : place = place' := by
  have hkey (place : Text × ScriptOptions) : s.storageKey r place =
      place.1 ++ 0 :: place.2.key ++
        (0 :: r.fingerprint ++ 0 :: contentFingerprint s.config.settingsText) :=
    ResultCache.key_of_four _ _ _ _
  rw [hkey, hkey] at h
  obtain ⟨hpath, hoptions⟩ := Text.append_last_inj place.2.zero_notMem_key
    place'.2.zero_notMem_key (List.append_cancel_right h)
  exact Prod.ext hpath (ScriptOptions.key_inj hoptions)

/-! ## Runs -/

/-- The entry that is stored for the result of a request. -/
def entryOf (s : Survey) (q : ScriptRequest) : CacheEntry :=
  ResultCache.entryFor (Blake3.hex ((s.content? q).getD [])) q.now (s.plainAnswer q)

/-- What a run takes for granted: the cache is on and its files are reliable, the classes are the
same all along, hashes tell the keys and contents of the run apart, and what is stored can be read
back. At first nothing is stored. -/
structure Caches (s : Survey) (r : Registry) (ok : FileSystem → Prop) (store : FileSystem)
    (qs : List ScriptRequest) : Prop where
  enabled : s.cache.enabled = true
  classes : s.classes = some r
  reliable : s.cache.Reliable ok
  working : ok store
  empty : ∀ place ∈ qs.filterMap s.place?, s.cache.stored? store (s.storageKey r place) = none
  keys : ResultCache.TellsApart Blake3.hex ((qs.filterMap s.place?).map (s.storageKey r))
  contents : ResultCache.TellsApart Blake3.hex (qs.filterMap s.content?)
  survives : ∀ q ∈ qs, ∀ content ∈ s.content? q,
    ResultCache.Survives (Blake3.hex content) q.now (s.plainAnswer q)

/-- The store holds what the requests so far have left in it. -/
structure Tracks (s : Survey) (r : Registry) (ok : FileSystem → Prop)
    (qs earlier : List ScriptRequest) (store : FileSystem) : Prop where
  working : ok store
  subset : ∀ q ∈ earlier, q ∈ qs
  entries : ∀ place ∈ qs.filterMap s.place?,
    s.cache.stored? store (s.storageKey r place) = (s.kept? place earlier).map s.entryOf

theorem Caches.tracks {s : Survey} {r : Registry} {ok : FileSystem → Prop} {store : FileSystem}
    {qs : List ScriptRequest} (h : s.Caches r ok store qs) : s.Tracks r ok qs [] store :=
  ⟨h.working, by simp, h.empty⟩

theorem cachedScript_run {s : Survey} (he : s.cache.enabled = true) (r : Registry)
    (o : ScriptOptions) (t : Target) (content : Text) (store : FileSystem) :
    (s.cachedScript r o t content).run store =
      match s.cache.getScript store s.now (s.scriptKey r o t) (Blake3.hex content) with
      | (some result, store) => (result, store)
      | (none, store) =>
        let result := ScriptResult.ofContent s.config r o t.name content
        (result,
          s.cache.setScript store s.now (s.scriptKey r o t) (Blake3.hex content) result) := by
  simp only [cachedScript, he, Bool.not_true, Bool.false_eq_true, if_false, StateT.run_bind,
    StateT.run_get, pure_bind]
  cases s.cache.getScript store s.now (s.scriptKey r o t) (Blake3.hex content) with
  | mk result left => cases result <;> rfl

section Step

variable {s : Survey} {r : Registry} {ok : FileSystem → Prop} {start store : FileSystem}
  {qs earlier : List ScriptRequest} {q : ScriptRequest}

/-- Results of different places are stored in different files. -/
theorem Caches.hex_ne (h : s.Caches r ok start qs) {place place' : Text × ScriptOptions}
    (hp : place ∈ qs.filterMap s.place?) (hp' : place' ∈ qs.filterMap s.place?)
    (hne : place ≠ place') :
    Blake3.hex (s.storageKey r place) ≠ Blake3.hex (s.storageKey r place') := by
  intro hhex
  exact hne (storageKey_inj (h.keys _ (List.mem_map_of_mem hp) _ (List.mem_map_of_mem hp') hhex))

/-- A request for a file that is found looks its result up, or stores it. -/
theorem Caches.answer_run (h : s.Caches r ok start qs) {t : Target} {content : Text}
    (hfound : s.found? q = some (t, content)) : (s.answer q).run store =
      match s.cache.getScript store q.now (s.storageKey r (t.path, q.options))
          (Blake3.hex content) with
      | (some result, store) => (result, store)
      | (none, store) => (s.plainAnswer q, s.cache.setScript store q.now
          (s.storageKey r (t.path, q.options)) (Blake3.hex content) (s.plainAnswer q)) := by
  rw [answer_of_found h.classes hfound, plainAnswer_of_found h.classes hfound]
  exact cachedScript_run (s := s.during q) h.enabled r q.options t content store

/-- A request that leaves the store alone and has no place keeps it in step. -/
theorem Tracks.skip (ht : s.Tracks r ok qs earlier store) (hq : q ∈ qs)
    (h : ∀ place, s.kept? place (q :: earlier) = s.kept? place earlier) :
    s.Tracks r ok qs (q :: earlier) store := by
  refine ⟨ht.working, fun p hp => ?_, fun place hplace => ?_⟩
  · rcases List.mem_cons.mp hp with rfl | hp
    · exact hq
    · exact ht.subset p hp
  · rw [h place, ht.entries place hplace]

/-- Storing the result of a request keeps the store in step. -/
theorem Tracks.put (h : s.Caches r ok start qs) (hsub : ∀ p ∈ earlier, p ∈ qs) (hok : ok store)
    (hq : q ∈ qs) {t : Target} {content : Text} (hfound : s.found? q = some (t, content))
    (hkept : s.kept? (t.path, q.options) (q :: earlier) = some q)
    (hother : ∀ place ∈ qs.filterMap s.place?, place ≠ (t.path, q.options) →
      s.cache.stored? store (s.storageKey r place) = (s.kept? place earlier).map s.entryOf) :
    s.Tracks r ok qs (q :: earlier) (s.cache.setScript store q.now
      (s.storageKey r (t.path, q.options)) (Blake3.hex content) (s.plainAnswer q)) := by
  have hplace : s.place? q = some (t.path, q.options) := by simp [place?, hfound]
  have hcontent : s.content? q = some content := by simp [content?, hfound]
  have hsurvives := h.survives q hq content hcontent
  have hfailed : (s.plainAnswer q).failed = false := by
    rw [plainAnswer_of_found h.classes hfound]
    rfl
  have hmem : (t.path, q.options) ∈ qs.filterMap s.place? := List.mem_filterMap.mpr ⟨q, hq, hplace⟩
  rw [ResultCache.setScript_eq h.enabled store _ hfailed hsurvives]
  refine ⟨h.reliable.put hok _ _, fun p hp => ?_, fun place hp => ?_⟩
  · rcases List.mem_cons.mp hp with rfl | hp
    · exact hq
    · exact hsub p hp
  · by_cases heq : place = (t.path, q.options)
    · rw [heq, hkept, ResultCache.stored?_put h.reliable hok _ hsurvives]
      simp [entryOf, hcontent]
    · rw [ResultCache.stored?_put_other h.reliable hok _ (h.hex_ne hp hmem heq),
        hother place hp heq, kept?, if_neg (by rw [hplace]; simpa using Ne.symm heq)]

/-- An entry is fresh for a request exactly if its result is good for it. -/
theorem isFresh_entryOf (h : s.Caches r ok start qs) {p : ScriptRequest} (hp : p ∈ qs) (hq : q ∈ qs)
    {content' content : Text} (hcp : s.content? p = some content')
    (hcq : s.content? q = some content) :
    s.cache.isFresh q.now (Blake3.hex content) (s.entryOf p) = s.serves p q := by
  have hhash : (Blake3.hex content' == Blake3.hex content) = (s.content? p == s.content? q) := by
    rw [hcp, hcq, Bool.eq_iff_iff]
    simp only [beq_iff_eq, Option.some.injEq]
    constructor
    · exact h.contents _ (List.mem_filterMap.mpr ⟨p, hp, hcp⟩) _
        (List.mem_filterMap.mpr ⟨q, hq, hcq⟩)
    · rintro rfl
      rfl
  simp only [ResultCache.isFresh, entryOf, ResultCache.entryFor, hcp, Option.getD_some, hhash,
    serves]

/-- The answer to one request, and the store behind it. -/
theorem Tracks.answer (h : s.Caches r ok start qs) (ht : s.Tracks r ok qs earlier store)
    (hq : q ∈ qs) :
    ((s.answer q).run store).1 = s.plainAnswer ((s.source? earlier q).getD q) ∧
      s.Tracks r ok qs (q :: earlier) ((s.answer q).run store).2 := by
  cases hfound : s.found? q with
  | none =>
    have hplace : s.place? q = none := by simp [place?, hfound]
    rw [answer_of_not_found h.classes hfound, source?, hplace]
    exact ⟨rfl, ht.skip hq fun place => by simp [kept?, hplace]⟩
  | some f =>
    obtain ⟨t, content⟩ := f
    have hplace : s.place? q = some (t.path, q.options) := by simp [place?, hfound]
    have hcontent : s.content? q = some content := by simp [content?, hfound]
    have hmem : (t.path, q.options) ∈ qs.filterMap s.place? :=
      List.mem_filterMap.mpr ⟨q, hq, hplace⟩
    rw [h.answer_run hfound, ResultCache.getScript_eq h.enabled, ht.entries _ hmem, source?, hplace]
    cases hkept : s.kept? (t.path, q.options) earlier with
    | none =>
      -- nothing is kept at this place yet
      refine ⟨by simp [hkept], Tracks.put h ht.subset ht.working hq hfound ?_ ?_⟩
      · simp [kept?, hplace, hkept]
      · exact fun place hp _ => ht.entries place hp
    | some p =>
      obtain ⟨hp, hpplace⟩ := kept?_spec hkept
      obtain ⟨⟨t', content'⟩, hfp, -⟩ := Option.map_eq_some_iff.mp hpplace
      have hcp : s.content? p = some content' := by simp [content?, hfp]
      have hfresh := isFresh_entryOf h (ht.subset p hp) hq hcp hcontent
      simp only [Option.map_some, hfresh]
      cases hserves : s.serves p q with
      | true =>
        -- what is kept comes back, and stays
        have hdecoded := (h.survives p (ht.subset p hp) content' hcp).decoded
        have hdata : (Json.parse? (s.entryOf p).data).bind ScriptResult.ofValue? =
            some (s.plainAnswer p) := by
          simpa [entryOf, hcp] using hdecoded
        simp only [if_true, hdata, Option.bind_some, hkept, Option.filter_some, hserves,
          Option.getD_some, true_and]
        refine ht.skip hq fun place => ?_
        by_cases heq : (t.path, q.options) = place
        · simp [kept?, hplace, ← heq, hkept, hserves]
        · simp [kept?, hplace, heq]
      | false =>
        -- what is kept has changed or is too old: it is removed first, and then replaced
        refine ⟨by simp [hkept, Option.filter_some, hserves], ?_⟩
        refine Tracks.put h ht.subset (h.reliable.remove ht.working _) hq hfound ?_ ?_
        · simp [kept?, hplace, hkept, hserves]
        · intro place hp hne
          rw [ResultCache.stored?_removeAll_other h.reliable ht.working (h.hex_ne hp hmem hne),
            ht.entries place hp]

/-! ## The answers of a run -/

/-- The answers that the requests deserve by what is kept when they come. -/
def servedFrom (s : Survey) (earlier : List ScriptRequest) : List ScriptRequest → List ScriptResult
  | [] => []
  | q :: qs => s.plainAnswer ((s.source? earlier q).getD q) :: s.servedFrom (q :: earlier) qs

/-- A run gives each request the plain answer of its source. -/
theorem Tracks.answersFrom (h : s.Caches r ok start qs) {rest : List ScriptRequest}
    (ht : s.Tracks r ok qs earlier store) (hrest : ∀ q ∈ rest, q ∈ qs) :
    s.answersFrom store rest = s.servedFrom earlier rest := by
  induction rest generalizing earlier store with
  | nil => rfl
  | cons q rest ih =>
    obtain ⟨hanswer, htracks⟩ := ht.answer h (hrest q List.mem_cons_self)
    rw [Survey.answersFrom, servedFrom, hanswer,
      ih htracks fun p hp => hrest p (List.mem_cons_of_mem q hp)]

theorem plainAnswer_of_source {p : ScriptRequest} (hr : s.classes = some r)
    (h : s.source? earlier q = some p) :
    s.plainAnswer p = { s.plainAnswer q with path := (s.plainAnswer p).path } := by
  obtain ⟨place, hplace, hfilter⟩ := Option.bind_eq_some_iff.mp h
  obtain ⟨hkept, hserves⟩ := Option.filter_eq_some_iff.mp hfilter
  exact plainAnswer_of_serves hr (kept?_spec hkept).2 hplace hserves

/-- Apart from its name, every answer is the one without a cache. -/
theorem servedFrom_unnamed (hr : s.classes = some r) (rest : List ScriptRequest) :
    (s.servedFrom earlier rest).map ScriptResult.unnamed =
      (rest.map s.plainAnswer).map ScriptResult.unnamed := by
  induction rest generalizing earlier with
  | nil => rfl
  | cons q rest ih =>
    have hfirst : (s.plainAnswer ((s.source? earlier q).getD q)).unnamed =
        (s.plainAnswer q).unnamed := by
      cases hsource : s.source? earlier q with
      | none => rfl
      | some p =>
        rw [Option.getD_some, plainAnswer_of_source hr hsource]
        rfl
    rw [servedFrom, List.map_cons, List.map_cons, List.map_cons, hfirst, ih]

theorem servedFrom_eq_plain_iff (hr : s.classes = some r) (rest : List ScriptRequest) :
    s.servedFrom earlier rest = rest.map s.plainAnswer ↔
      ∀ before q after, rest = before ++ q :: after →
        ∀ p, s.source? (before.reverse ++ earlier) q = some p →
          (s.plainAnswer p).path = (s.plainAnswer q).path := by
  induction rest generalizing earlier with
  | nil => simp [servedFrom]
  | cons q rest ih =>
    have hfirst : s.plainAnswer ((s.source? earlier q).getD q) = s.plainAnswer q ↔
        ∀ p, s.source? earlier q = some p → (s.plainAnswer p).path = (s.plainAnswer q).path := by
      cases hsource : s.source? earlier q with
      | none => simp
      | some p =>
        simp only [Option.getD_some, Option.some.injEq, forall_eq']
        refine ⟨congrArg ScriptResult.path, fun heq => ?_⟩
        rw [plainAnswer_of_source hr hsource, heq]
    rw [servedFrom, List.map_cons, List.cons.injEq, hfirst, ih]
    constructor
    · rintro ⟨hq, hrest⟩ before p after heq
      cases before with
      | nil =>
        obtain ⟨rfl, rfl⟩ := List.cons.inj heq
        exact hq
      | cons b before =>
        obtain ⟨rfl, rfl⟩ := List.cons.inj heq
        simpa using hrest before p after rfl
    · intro hall
      refine ⟨hall [] q rest rfl, fun before p after heq => ?_⟩
      simpa using hall (q :: before) p after (by rw [heq]; rfl)

end Step

/-- **What the cache changes.** Apart from their names, a run gives the answers it would give
without a cache; and it gives exactly these if and only if every request that is served from the
cache has the name of the request it is served from. -/
theorem answersFrom_plain {s : Survey} {r : Registry} {ok : FileSystem → Prop}
    {store : FileSystem} {qs : List ScriptRequest} (h : s.Caches r ok store qs) :
    (s.answersFrom store qs).map ScriptResult.unnamed =
        (qs.map s.plainAnswer).map ScriptResult.unnamed ∧
      (s.answersFrom store qs = qs.map s.plainAnswer ↔
        ∀ before q after, qs = before ++ q :: after → ∀ p, s.source? before.reverse q = some p →
          (s.plainAnswer p).path = (s.plainAnswer q).path) := by
  rw [h.tracks.answersFrom h fun _ hq => hq]
  refine ⟨servedFrom_unnamed h.classes qs, ?_⟩
  rw [servedFrom_eq_plain_iff h.classes]
  simp only [List.append_nil]

/-! ## Two spellings of a path -/

/-- A survey of the project at `/p` with a cache. -/
def smallSurvey : Survey :=
  { root := "/p", classes := some {}, cache := { enabled := true, dir := "/c", ttl := 1000 } }

/-- The store with the empty directory of the cache. -/
def smallStore : FileSystem := { root := .directory [("c", .directory [])] }

/-- A request for a script of one line. -/
def smallRequest (path : Text) : ScriptRequest :=
  { files := { root := .directory [("p", .directory [("a.gd", .file "extends Node\n")])] }
    now := ⟨0⟩
    path
    options := {} }

/-- The same file under two names. -/
def smallRun : List ScriptRequest := [smallRequest "res://a.gd", smallRequest "res://./a.gd"]

theorem place?_smallRun : ∀ q ∈ smallRun,
    smallSurvey.place? q = some (Text.ofString "/p/a.gd", {}) ∧
      smallSurvey.content? q = some (Text.ofString "extends Node\n") := by
  simp only [smallRun, List.mem_cons, List.not_mem_nil, or_false, forall_eq_or_imp, forall_eq]
  decide +kernel

theorem survives_smallRun : ∀ q ∈ smallRun, ResultCache.Survives
    (Blake3.hex "extends Node\n") q.now (smallSurvey.plainAnswer q) := by
  simp only [smallRun, List.mem_cons, List.not_mem_nil, or_false, forall_eq_or_imp, forall_eq]
  decide +kernel

theorem caches_smallRun :
    smallSurvey.Caches {} (fun fs => ∃ es, fs.Holds ["c"] es) smallStore smallRun := by
  have hholds : smallStore.Holds ["c"] [] := ⟨by decide, rfl, by simp⟩
  refine ⟨rfl, rfl, ResultCache.reliable_of_place (by decide) rfl, ⟨[], hholds⟩, ?_, ?_, ?_, ?_⟩
  · exact fun place _ => ResultCache.stored?_of_empty hholds rfl _
  · apply ResultCache.tellsApart_of_eq Blake3.hex
    intro a ha
    obtain ⟨place, hplace, rfl⟩ := List.mem_map.mp ha
    obtain ⟨q, hq, hplace⟩ := List.mem_filterMap.mp hplace
    rw [(place?_smallRun q hq).1] at hplace
    rw [← Option.some.inj hplace]
  · apply ResultCache.tellsApart_of_eq Blake3.hex
    intro a ha
    obtain ⟨q, hq, hcontent⟩ := List.mem_filterMap.mp ha
    rw [(place?_smallRun q hq).2] at hcontent
    exact (Option.some.inj hcontent).symm
  · intro q hq content hcontent
    rw [(place?_smallRun q hq).2] at hcontent
    rw [← Option.some.inj hcontent]
    exact survives_smallRun q hq

theorem answersFrom_plain_smallRun :
    (smallSurvey.answersFrom smallStore smallRun).map ScriptResult.unnamed =
      (smallRun.map smallSurvey.plainAnswer).map ScriptResult.unnamed :=
  (answersFrom_plain caches_smallRun).1

/-- The second request is answered under the name of the first. -/
theorem answersFrom_ne_plain_smallRun :
    smallSurvey.answersFrom smallStore smallRun ≠ smallRun.map smallSurvey.plainAnswer := by
  have hplaces := place?_smallRun
  simp only [smallRun, List.mem_cons, List.not_mem_nil, or_false, forall_eq_or_imp,
    forall_eq] at hplaces
  have hkept : smallSurvey.kept? ("/p/a.gd", {}) [smallRequest "res://a.gd"] =
      some (smallRequest "res://a.gd") := by
    rw [kept?, if_pos hplaces.1.1, kept?]
  have hserves :
      smallSurvey.serves (smallRequest "res://a.gd") (smallRequest "res://./a.gd") = true := by
    decide +kernel
  have hsource : smallSurvey.source? [smallRequest "res://a.gd"] (smallRequest "res://./a.gd") =
      some (smallRequest "res://a.gd") := by
    rw [source?, hplaces.2.1, Option.bind_some, hkept, Option.filter_some, if_pos hserves]
  have hname : (smallSurvey.plainAnswer (smallRequest "res://a.gd")).path ≠
      (smallSurvey.plainAnswer (smallRequest "res://./a.gd")).path := by
    decide +kernel
  rw [caches_smallRun.tracks.answersFrom caches_smallRun fun _ hq => hq]
  intro heq
  exact hname ((servedFrom_eq_plain_iff rfl smallRun).mp heq [smallRequest "res://a.gd"]
    (smallRequest "res://./a.gd") [] rfl _ hsource)

end Survey

end GodotSurvey
