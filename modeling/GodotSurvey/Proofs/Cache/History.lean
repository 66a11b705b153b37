import GodotSurvey.Proofs.Cache.Storage
import Mathlib.Data.List.Induction

/-!
# What a cache has kept after a run

A run is a list of calls with the times at which they come. A look-up may remove the entry that it
meets, so what a look-up gets depends on all earlier calls about its key: on what was stored, on
removals, and on look-ups that had another hash or came too late.

* `keptAfter` — what one call makes of the entry of a key; `stored?_perform` — the files of the
  cache follow it, and `stored?_after` — so they do over a run.
* `foldl_keptAfter_iff` — what is kept, told from the place of its call in the run.
* `lookups_accounted` — **a look-up gets the data of the last call that changed what its key has, if
  that call stored it under the same hash and not too long ago; calls about other keys make no
  difference, and a cache that is switched off gives nothing.**
-/

namespace GodotSurvey

/-! ## Runs -/

/-- What a cache is asked to do. -/
inductive CacheCall where
  | set (key hash data : Text)
  | get (key hash : Text)
  | invalidate (key : Text)
  deriving DecidableEq, Repr

/-- The key that a call is about. -/
def CacheCall.key : CacheCall → Text
  | set key _ _ => key
  | get key _ => key
  | invalidate key => key

/-- A call, and when it comes. -/
structure CacheEvent where
  now : Instant
  call : CacheCall
  deriving DecidableEq, Repr

/-- The entry is read back as it was stored. -/
def CacheEntry.RoundTrips (e : CacheEntry) : Prop :=
  ((Json.compactText? e.data).bind fun data => CacheEntry.parse? { e with data }.write) = some e

instance (e : CacheEntry) : Decidable e.RoundTrips :=
  inferInstanceAs (Decidable (_ = some e))

namespace ResultCache

open Text

/-- The answer to a call, which only a look-up has, and the files after it. -/
def perform (c : ResultCache) (fs : FileSystem) (v : CacheEvent) : Option Text × FileSystem :=
  match v.call with
  | .set key hash data => (none, (c.set? fs v.now key hash data).getD fs)
  | .get key hash => c.get fs v.now key hash
  | .invalidate key => (none, c.invalidate fs key)

/-- The files after a run. -/
def after (c : ResultCache) (fs : FileSystem) (vs : List CacheEvent) : FileSystem :=
  vs.foldl (fun fs v => (c.perform fs v).2) fs

/-- The call takes the entry of the key away or puts another in its place. A look-up does so if it
has another hash, or if it comes too late. -/
def Displaces (c : ResultCache) (key : Text) (e : CacheEntry) (v : CacheEvent) : Prop :=
  match v.call with
  | .set k _ _ => k = key
  | .get k hash => k = key ∧ (hash ≠ e.hash ∨ c.ttl < v.now.since e.stored)
  | .invalidate k => k = key

/-- The last call of the run that changed what the key has is the one that stored the entry. -/
def LastStored (c : ResultCache) (vs : List CacheEvent) (key : Text) (e : CacheEntry) : Prop :=
  ∃ before later, vs = before ++ ⟨e.stored, .set key e.hash e.data⟩ :: later ∧
    ∀ v ∈ later, ¬ c.Displaces key e v

/-! ## What one call does -/

/-- The cache is reliable, and a file that is removed cannot be read any more. -/
structure Erasable (c : ResultCache) (ok : FileSystem → Prop) : Prop extends c.Reliable ok where
  read_remove : ∀ {fs : FileSystem}, ok fs → ∀ key content,
    (fs.removeAll (c.fileOf key)).readFile (c.fileOf key) ≠ .ok content

/-- A cache in a directory without links is erasable. -/
theorem erasable_of_place {c : ResultCache} {place : List Text}
    (hplace : ∀ n ∈ place, Path.isName n = true) (hdir : c.dir = Path.rooted place) :
    c.Erasable fun fs => ∃ es, fs.Holds place es := by
  refine { reliable_of_place hplace hdir with read_remove := ?_ }
  rintro fs ⟨es, h⟩ key content
  have hremove := FileSystem.holds_removeAll h (isName_fileName key)
  have hlookup : (es.filter (·.1 != fileName key)).lookup (fileName key) = none := by
    simp only [List.lookup_eq_none_iff, List.mem_filter, bne_iff_ne]
    exact fun x hx => by simpa using Ne.symm hx.2
  rw [fileOf_eq hplace hdir, FileSystem.readFile_holds hremove (isName_fileName key), hlookup]
  exact nofun

/-- What a call makes of the entry of a key. -/
def keptAfter (c : ResultCache) (key : Text) (kept : Option CacheEntry) (v : CacheEvent) :
    Option CacheEntry :=
  match v.call with
  | .set k hash data => if k = key then some ⟨hash, v.now, data⟩ else kept
  | .get k hash => if k = key then kept.filter (c.isFresh v.now hash) else kept
  | .invalidate k => if k = key then none else kept

theorem keptAfter_of_ne (c : ResultCache) {key : Text} {v : CacheEvent} (h : v.call.key ≠ key)
    (kept : Option CacheEntry) : c.keptAfter key kept v = kept := by
  obtain ⟨now, call⟩ := v
  cases call <;> exact if_neg h

theorem isFresh_eq_true_iff (c : ResultCache) (now : Instant) (hash : Text) (e : CacheEntry) :
    c.isFresh now hash e = true ↔ hash = e.hash ∧ now.since e.stored ≤ c.ttl := by
  simp [isFresh, eq_comm (a := hash)]

/-- The entry is kept after a call that stores it, and after a call that does not displace it. -/
theorem keptAfter_eq_some_iff (c : ResultCache) (key : Text) (kept : Option CacheEntry)
    (v : CacheEvent) (e : CacheEntry) :
    c.keptAfter key kept v = some e ↔
      v = ⟨e.stored, .set key e.hash e.data⟩ ∨ kept = some e ∧ ¬ c.Displaces key e v := by
  obtain ⟨now, call⟩ := v
  obtain ⟨hash', stored, data'⟩ := e
  cases call with
  | set k hash data =>
    by_cases hk : k = key
    · simp [keptAfter, Displaces, hk]
      grind
    · simp [keptAfter, Displaces, hk]
  | get k hash =>
    by_cases hk : k = key
    · simp [keptAfter, Displaces, hk, Option.filter_eq_some_iff, isFresh_eq_true_iff]
    · simp [keptAfter, Displaces, hk]
  | invalidate k =>
    by_cases hk : k = key <;> simp [keptAfter, Displaces, hk]

section Step

variable {c : ResultCache} {ok : FileSystem → Prop} {fs : FileSystem}

theorem stored?_removeAll_self (h : c.Erasable ok) (hfs : ok fs) (key : Text) :
    c.stored? (fs.removeAll (c.fileOf key)) key = none := by
  rw [stored?]
  cases hread : (fs.removeAll (c.fileOf key)).readFile (c.fileOf key) with
  | error e => rfl
  | ok content => exact absurd hread (h.read_remove hfs key content)

/-- The digests of the two keys differ, or the keys are equal. -/
theorem stored?_removeAll (h : c.Erasable ok) (hfs : ok fs) {key k : Text}
    (hkey : Blake3.hex key = Blake3.hex k → key = k) :
    c.stored? (fs.removeAll (c.fileOf k)) key = if k = key then none else c.stored? fs key := by
  by_cases hk : k = key
  · rw [if_pos hk, hk, stored?_removeAll_self h hfs]
  · rw [if_neg hk]
    exact stored?_removeAll_other h.toReliable hfs fun hhex => hk (hkey hhex).symm

/-- The entry of a key after a look-up, which removes what it meets and cannot use. -/
theorem stored?_get (h : c.Erasable ok) (hc : c.enabled = true) (hfs : ok fs) {key k : Text}
    (hkey : Blake3.hex key = Blake3.hex k → key = k) (now : Instant) (hash : Text) :
    c.stored? (c.get fs now k hash).2 key =
      if k = key then (c.stored? fs key).filter (c.isFresh now hash) else c.stored? fs key := by
  rw [get_eq hc]
  cases hstored : c.stored? fs k with
  | none =>
    by_cases hk : k = key
    · rw [if_pos hk, ← hk, hstored]
      rfl
    · rw [if_neg hk]
  | some e =>
    cases hfresh : c.isFresh now hash e with
    | true =>
      by_cases hk : k = key
      · rw [if_pos hk, ← hk, hstored, Option.filter_some, if_pos hfresh]
        simpa [hfresh] using hstored
      · simp [hk, hfresh]
    | false =>
      have hremove := stored?_removeAll h hfs hkey
      by_cases hk : k = key
      · rw [if_pos hk] at hremove
        rw [if_pos hk, ← hk, hstored, Option.filter_some, if_neg (by simp [hfresh]), hk]
        simpa [hfresh, hk] using hremove
      · rw [if_neg hk] at hremove
        simpa [hfresh, hk] using hremove

/-- A call that stores an entry puts it into the file of its key. -/
theorem set?_of_roundTrips (hc : c.enabled = true) (fs : FileSystem) (key : Text)
    {e : CacheEntry} (he : e.RoundTrips) :
    ∃ content, CacheEntry.parse? content = some e ∧
      c.set? fs e.stored key e.hash e.data = some (fs.put (c.fileOf key) (.file content)) := by
  obtain ⟨data, hdata, hparse⟩ := Option.bind_eq_some_iff.mp he
  exact ⟨_, hparse, by simp [set?, hc, hdata]⟩

/-- The files of a cache do not leave the good ones. -/
theorem ok_perform (h : c.Erasable ok) (hc : c.enabled = true) (hfs : ok fs) (v : CacheEvent) :
    ok (c.perform fs v).2 := by
  obtain ⟨now, call⟩ := v
  cases call with
  | set k hash data =>
    simp only [perform, set?, hc, Bool.not_true, Bool.false_eq_true, if_false]
    cases Json.compactText? data with
    | none => exact hfs
    | some data => exact h.put hfs k _
  | get k hash =>
    simp only [perform, get_eq hc]
    cases c.stored? fs k with
    | none => exact hfs
    | some e =>
      dsimp only
      split
      · exact hfs
      · exact h.remove hfs k
  | invalidate k =>
    simp only [perform, invalidate, hc, if_true]
    exact h.remove hfs k

/-- The entry of a key after a call. -/
theorem stored?_perform (h : c.Erasable ok) (hc : c.enabled = true) (hfs : ok fs) {key : Text}
    {v : CacheEvent} (hkey : Blake3.hex key = Blake3.hex v.call.key → key = v.call.key)
    (hround : ∀ k hash data, v.call = .set k hash data →
      CacheEntry.RoundTrips ⟨hash, v.now, data⟩) :
    c.stored? (c.perform fs v).2 key = c.keptAfter key (c.stored? fs key) v := by
  obtain ⟨now, call⟩ := v
  cases call with
  | set k hash data =>
    obtain ⟨content, hparse, hset⟩ := set?_of_roundTrips hc fs k (hround k hash data rfl)
    dsimp only at hset
    simp only [perform, hset, Option.getD_some, keptAfter]
    by_cases hk : k = key
    · rw [if_pos hk, ← hk, stored?_put_self h.toReliable hfs, hparse]
    · rw [if_neg hk]
      exact stored?_put_other h.toReliable hfs content fun hhex => hk (hkey hhex).symm
  | get k hash => exact stored?_get h hc hfs hkey now hash
  | invalidate k =>
    simp only [perform, invalidate, hc, if_true]
    exact stored?_removeAll h hfs hkey

end Step

/-! ## What a run does -/

/-- A cache is used on its own: it is switched on, it has no entries of these keys at first, its
files are read as written, the keys have different files, and entries are read back as stored. -/
structure Serves (c : ResultCache) (ok : FileSystem → Prop) (fs : FileSystem)
    (vs : List CacheEvent) : Prop where
  enabled : c.enabled = true
  erasable : c.Erasable ok
  start : ok fs
  empty : ∀ v ∈ vs, c.stored? fs v.call.key = none
  keys : TellsApart Blake3.hex (vs.map (·.call.key))
  entries : ∀ v ∈ vs, ∀ key hash data, v.call = .set key hash data →
    CacheEntry.RoundTrips ⟨hash, v.now, data⟩

section Run

variable {c : ResultCache} {ok : FileSystem → Prop} {fs : FileSystem} {vs : List CacheEvent}

/-- Over a run, the entry of a key is what its calls make of it. -/
theorem Serves.stored?_after (h : c.Serves ok fs vs) {key : Text} (hkey : key ∈ vs.map (·.call.key))
    {ws : List CacheEvent} (hws : ∀ v ∈ ws, v ∈ vs) :
    c.stored? (c.after fs ws) key = ws.foldl (c.keptAfter key) none := by
  have hrun (fs' : FileSystem) (hfs : ok fs') :
      c.stored? (c.after fs' ws) key = ws.foldl (c.keptAfter key) (c.stored? fs' key) := by
    induction ws generalizing fs' with
    | nil => rfl
    | cons v ws ih =>
      have hv := hws v List.mem_cons_self
      have hstep := stored?_perform h.erasable h.enabled hfs
        (h.keys key hkey v.call.key (List.mem_map_of_mem hv)) (h.entries v hv)
      rw [after, List.foldl_cons, List.foldl_cons, ← hstep]
      exact ih (fun w hw => hws w (List.mem_cons_of_mem v hw)) _
        (ok_perform h.erasable h.enabled hfs v)
  obtain ⟨v, hv, rfl⟩ := List.mem_map.mp hkey
  rw [hrun fs h.start, h.empty v hv]

theorem lastStored_concat (vs : List CacheEvent) (v : CacheEvent) (key : Text) (e : CacheEntry) :
    c.LastStored (vs ++ [v]) key e ↔
      v = ⟨e.stored, .set key e.hash e.data⟩ ∨ c.LastStored vs key e ∧ ¬ c.Displaces key e v := by
  constructor
  · rintro ⟨before, later, hsplit, hlater⟩
    rcases List.eq_nil_or_concat later with rfl | ⟨later, w, rfl⟩
    · exact .inl (List.append_inj_right' hsplit rfl |> List.singleton_inj.mp)
    · rw [List.concat_eq_append, ← List.cons_append, ← List.append_assoc] at hsplit
      obtain ⟨rfl, hvw⟩ := List.append_inj' hsplit rfl
      obtain rfl := List.singleton_inj.mp hvw
      exact .inr ⟨⟨before, later, rfl, fun w hw => hlater w (by simp [hw])⟩,
        hlater v (by simp)⟩
  · rintro (rfl | ⟨⟨before, later, rfl, hlater⟩, hv⟩)
    · exact ⟨vs, [], rfl, by simp⟩
    · refine ⟨before, later ++ [v], by simp, fun w hw => ?_⟩
      rcases List.mem_append.mp hw with hw | hw
      · exact hlater w hw
      · rwa [List.mem_singleton.mp hw]

/-- An entry is kept after a run exactly if the last call that changed what its key has stored
it. -/
theorem foldl_keptAfter_iff (vs : List CacheEvent) (key : Text) (e : CacheEntry) :
    vs.foldl (c.keptAfter key) none = some e ↔ c.LastStored vs key e := by
  induction vs using List.reverseRecOn with
  | nil => simp [LastStored]
  | append_singleton vs v ih =>
    rw [List.foldl_append, List.foldl_cons, List.foldl_nil, keptAfter_eq_some_iff,
      lastStored_concat, ih]

/-- Calls about other keys leave what a key has alone. -/
theorem foldl_keptAfter_filter (vs : List CacheEvent) (key : Text) (kept : Option CacheEntry) :
    (vs.filter (·.call.key == key)).foldl (c.keptAfter key) kept =
      vs.foldl (c.keptAfter key) kept := by
  induction vs generalizing kept with
  | nil => rfl
  | cons v vs ih =>
    by_cases hv : v.call.key = key
    · rw [List.filter_cons_of_pos (by simpa using hv), List.foldl_cons, List.foldl_cons, ih]
    · rw [List.filter_cons_of_neg (by simpa using hv), List.foldl_cons, ih, keptAfter_of_ne c hv]

/-- What a look-up gets. -/
theorem perform_get (hc : c.enabled = true) (fs : FileSystem) (now : Instant) (key hash : Text) :
    (c.perform fs ⟨now, .get key hash⟩).1 =
      ((c.stored? fs key).filter (c.isFresh now hash)).map (·.data) := by
  simp only [perform, get_eq hc]
  cases c.stored? fs key with
  | none => rfl
  | some e =>
    rw [Option.filter_some]
    dsimp only
    split <;> rfl

theorem perform_of_disabled (hc : c.enabled = false) (fs : FileSystem) (v : CacheEvent) :
    (c.perform fs v).1 = none := by
  obtain ⟨now, call⟩ := v
  cases call with
  | set => rfl
  | get => simp [perform, get, hc]
  | invalidate => rfl

end Run

/-- **What look-ups get.** In every run, a look-up gets some data exactly if the last call that
changed what its key has stored this data, under the same hash and no longer ago than entries last;
it gets the same if there were no calls about other keys. A cache that is switched off never gives
anything. -/
theorem lookups_accounted (c : ResultCache) :
    (∀ ok fs vs, c.Serves ok fs vs → ∀ before now key hash later,
      vs = before ++ ⟨now, .get key hash⟩ :: later →
        (∀ data, (c.perform (c.after fs before) ⟨now, .get key hash⟩).1 = some data ↔
          ∃ stored, c.LastStored before key ⟨hash, stored, data⟩ ∧ now.since stored ≤ c.ttl) ∧
        (c.perform (c.after fs before) ⟨now, .get key hash⟩).1 =
          (c.perform (c.after fs (before.filter (·.call.key == key))) ⟨now, .get key hash⟩).1) ∧
    (c.enabled = false → ∀ fs vs v, (c.perform (c.after fs vs) v).1 = none) := by
  refine ⟨?_, fun hc fs vs v => perform_of_disabled hc _ v⟩
  rintro ok fs vs h before now key hash later rfl
  have hkey : key ∈ (before ++ ⟨now, .get key hash⟩ :: later).map (·.call.key) :=
    List.mem_map.mpr ⟨⟨now, .get key hash⟩, by simp, rfl⟩
  have hbefore := h.stored?_after hkey fun v (hv : v ∈ before) => by simp [hv]
  have hfilter := h.stored?_after hkey fun v (hv : v ∈ before.filter (·.call.key == key)) => by
    simp [(List.mem_filter.mp hv).1]
  refine ⟨fun data => ?_, ?_⟩
  · rw [perform_get h.enabled, hbefore, Option.map_eq_some_iff]
    constructor
    · rintro ⟨e, he, rfl⟩
      obtain ⟨hkept, hfresh⟩ := Option.filter_eq_some_iff.mp he
      obtain ⟨rfl, hage⟩ := (c.isFresh_eq_true_iff now hash e).mp hfresh
      exact ⟨e.stored, (foldl_keptAfter_iff before key e).mp hkept, hage⟩
    · rintro ⟨stored, hlast, hage⟩
      refine ⟨⟨hash, stored, data⟩, Option.filter_eq_some_iff.mpr ⟨?_, ?_⟩, rfl⟩
      · exact (foldl_keptAfter_iff before key _).mpr hlast
      · exact (c.isFresh_eq_true_iff now hash _).mpr ⟨rfl, hage⟩
  · rw [perform_get h.enabled, perform_get h.enabled, hbefore, hfilter, foldl_keptAfter_filter]

/-! ## A short run -/

/-- A cache whose entries last ten nanoseconds. -/
def briefCache : ResultCache := { enabled := true, dir := "/c", ttl := 10 }

/-- The store with the empty directory of the cache. -/
def emptyStore : FileSystem := { root := .directory [("c", .directory [])] }

/-- An entry is removed by a look-up with another hash; a later one is met in time. -/
def briefRun : List CacheEvent := [
  ⟨⟨0⟩, .set "a" "h" "1"⟩,
  ⟨⟨1⟩, .set "b" "h" "2"⟩,
  ⟨⟨2⟩, .get "a" "k"⟩,
  ⟨⟨3⟩, .get "a" "h"⟩,
  ⟨⟨4⟩, .set "a" "h" "[3,\"x\"]"⟩,
  ⟨⟨5⟩, .invalidate "b"⟩,
  ⟨⟨14⟩, .get "a" "h"⟩]

theorem serves_briefRun :
    briefCache.Serves (fun fs => ∃ es, fs.Holds ["c"] es) emptyStore briefRun := by
  have hholds : emptyStore.Holds ["c"] [] := ⟨by decide, rfl, by simp⟩
  refine ⟨rfl, erasable_of_place (by decide) rfl, ⟨[], hholds⟩, ?_, ?_, ?_⟩
  · exact fun v _ => stored?_of_empty hholds rfl _
  · have hne : Blake3.hex "a" ≠ Blake3.hex "b" := by decide +kernel
    have hkeys : ∀ key ∈ briefRun.map (·.call.key),
        key = Text.ofString "a" ∨ key = Text.ofString "b" := by
      decide
    intro a ha b hb hhex
    rcases hkeys a ha with rfl | rfl <;> rcases hkeys b hb with rfl | rfl
    · rfl
    · exact absurd hhex hne
    · exact absurd hhex.symm hne
    · rfl
  · intro v hv key hash data hcall
    simp only [briefRun, List.mem_cons, List.not_mem_nil, or_false] at hv
    rcases hv with rfl | rfl | rfl | rfl | rfl | rfl | rfl <;> cases hcall <;> decide +kernel

/-- The last look-up gets what was stored anew. -/
theorem lookups_accounted_briefRun :
    (briefCache.perform (briefCache.after emptyStore (briefRun.take 6))
        ⟨⟨14⟩, .get "a" "h"⟩).1 = some (Text.ofString "[3,\"x\"]") := by
  have h := ((lookups_accounted briefCache).1 _ _ _ serves_briefRun (briefRun.take 6) ⟨14⟩ "a" "h"
    [] rfl).1 (Text.ofString "[3,\"x\"]")
  refine h.mpr ⟨⟨4⟩, ⟨briefRun.take 4, [⟨⟨5⟩, .invalidate "b"⟩], rfl, ?_⟩, by decide⟩
  intro v hv
  rw [List.mem_singleton.mp hv]
  exact (by decide : Text.ofString "b" ≠ Text.ofString "a")

end ResultCache

end GodotSurvey
