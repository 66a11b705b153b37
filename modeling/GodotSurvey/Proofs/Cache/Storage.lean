import GodotSurvey.Cache.Basic
import GodotSurvey.Proofs.Files.Directory
import GodotSurvey.Proofs.Text.Number
import GodotSurvey.Proofs.Text.Table

/-!
# What a cache keeps

A cache is reliable if its files can be written and read back and one of them does not get in the
way of another. Then `stored?`, what is stored under a key, changes with `setScript` and `getScript`
as the entry of a table would.

* `reliable_of_place` — a cache in a directory without links is reliable.
* `get_eq`, `getScript_eq`, `setScript_eq` — the operations in terms of entries.
* `stored?_put`, `stored?_setScript_other`, `stored?_removeAll_other` — how entries change.
-/

namespace GodotSurvey.ResultCache

open GodotSurvey.Path Text

/-! ## Reliable file systems -/

/-- The function tells the texts of the list apart. -/
def TellsApart (f : Text → Text) (ts : List Text) : Prop :=
  ∀ a ∈ ts, ∀ b ∈ ts, f a = f b → a = b

theorem tellsApart_of_eq (f : Text → Text) {ts : List Text} {t : Text} (h : ∀ a ∈ ts, a = t) :
    TellsApart f ts :=
  fun a ha b hb _ => (h a ha).trans (h b hb).symm

/-- On the file systems of `ok`, the files of the cache are kept apart and read as written. -/
structure Reliable (c : ResultCache) (ok : FileSystem → Prop) : Prop where
  put : ∀ {fs : FileSystem}, ok fs → ∀ key content, ok (fs.put (c.fileOf key) (.file content))
  remove : ∀ {fs : FileSystem}, ok fs → ∀ key, ok (fs.removeAll (c.fileOf key))
  read_put : ∀ {fs : FileSystem}, ok fs → ∀ key content,
    (fs.put (c.fileOf key) (.file content)).readFile (c.fileOf key) = .ok content
  read_put_other : ∀ {fs : FileSystem}, ok fs → ∀ {key other : Text} content,
    Blake3.hex other ≠ Blake3.hex key →
    (fs.put (c.fileOf key) (.file content)).readFile (c.fileOf other) = fs.readFile (c.fileOf other)
  read_remove_other : ∀ {fs : FileSystem}, ok fs → ∀ {key other : Text},
    Blake3.hex other ≠ Blake3.hex key →
    (fs.removeAll (c.fileOf key)).readFile (c.fileOf other) = fs.readFile (c.fileOf other)

/-- The name of the file of a key. -/
def fileName (key : Text) : Text := Blake3.hex key ++ ".json"

theorem isName_fileName (key : Text) : isName (fileName key) = true := by
  have hjson : (Text.ofString ".json") = [46, 106, 115, 111, 110] := rfl
  have hlen : 5 ≤ (fileName key).length := by simp [fileName, hjson]
  refine isName_iff.mpr ⟨?_, ?_, ?_, ?_⟩
  · intro h
    simp [h] at hlen
  · rw [fileName, Blake3.hex, List.mem_append, List.mem_flatMap, not_or]
    refine ⟨?_, by decide⟩
    rintro ⟨b, -, hb⟩
    have hident : isIdent 47 = true :=
      (List.mem_append.mp hb).elim isIdent_of_mem_hexOfNat isIdent_of_mem_hexOfNat
    contradiction
  · intro h
    rw [h] at hlen
    contradiction
  · intro h
    rw [h] at hlen
    contradiction

theorem fileName_ne {key other : Text} (h : Blake3.hex other ≠ Blake3.hex key) :
    fileName other ≠ fileName key :=
  fun heq => h ((List.append_left_inj _).mp heq)

theorem fileOf_eq {c : ResultCache} {place : List Text} (hplace : ∀ n ∈ place, isName n = true)
    (hdir : c.dir = rooted place) (key : Text) :
    c.fileOf key = rooted (place ++ [fileName key]) := by
  rw [fileOf, hdir]
  exact join_rooted hplace (isName_fileName key)

/-- A cache in a directory without links is reliable. -/
theorem reliable_of_place {c : ResultCache} {place : List Text}
    (hplace : ∀ n ∈ place, isName n = true) (hdir : c.dir = rooted place) :
    c.Reliable fun fs => ∃ es, fs.Holds place es := by
  have hfile := fileOf_eq hplace hdir
  constructor
  · rintro fs ⟨es, h⟩ key content
    rw [hfile]
    exact ⟨_, FileSystem.holds_put h (isName_fileName key) content⟩
  · rintro fs ⟨es, h⟩ key
    rw [hfile]
    exact ⟨_, FileSystem.holds_removeAll h (isName_fileName key)⟩
  · rintro fs ⟨es, h⟩ key content
    have hput := FileSystem.holds_put h (isName_fileName key) content
    rw [hfile, FileSystem.readFile_holds hput (isName_fileName key), Entry.lookup_putEntry,
      if_pos rfl]
  · rintro fs ⟨es, h⟩ key other content hne
    have hput := FileSystem.holds_put h (isName_fileName key) content
    rw [hfile, hfile, FileSystem.readFile_holds hput (isName_fileName other),
      FileSystem.readFile_holds h (isName_fileName other), Entry.lookup_putEntry,
      if_neg (fileName_ne hne)]
  · rintro fs ⟨es, h⟩ key other hne
    have hremove := FileSystem.holds_removeAll h (isName_fileName key)
    rw [hfile, hfile, FileSystem.readFile_holds hremove (isName_fileName other),
      FileSystem.readFile_holds h (isName_fileName other),
      lookup_filter_key (fun n => n != fileName key) (by simpa using fileName_ne hne)]

/-! ## Keys -/

theorem key_of_four (a b c d : Text) : key [a, b, c, d] = a ++ 0 :: b ++ (0 :: c ++ 0 :: d) := by
  simp [key, Text.join]

/-! ## Entries -/

/-- What is stored under a key. -/
def stored? (c : ResultCache) (fs : FileSystem) (key : Text) : Option CacheEntry :=
  match fs.readFile (c.fileOf key) with
  | .error _ => none
  | .ok content => CacheEntry.parse? content

/-- In an empty directory nothing is stored. -/
theorem stored?_of_empty {c : ResultCache} {place : List Text} {fs : FileSystem}
    (h : fs.Holds place []) (hdir : c.dir = rooted place) (key : Text) :
    c.stored? fs key = none := by
  rw [stored?, fileOf_eq h.names hdir, FileSystem.readFile_holds h (isName_fileName key)]
  rfl

/-- The entry that is stored for a result. -/
def entryFor (hash : Text) (now : Instant) (r : ScriptResult) : CacheEntry :=
  ⟨hash, now, (Json.compactText? (Json.compact r.document)).getD []⟩

/-- The result can be stored, and is read back as it was. -/
structure Survives (hash : Text) (now : Instant) (r : ScriptResult) : Prop where
  encoded : (Json.compactText? (Json.compact r.document)).isSome
  entry : CacheEntry.parse? (entryFor hash now r).write = some (entryFor hash now r)
  decoded : (Json.parse? (entryFor hash now r).data).bind ScriptResult.ofValue? = some r

instance (hash : Text) (now : Instant) (r : ScriptResult) : Decidable (Survives hash now r) :=
  decidable_of_iff ((Json.compactText? (Json.compact r.document)).isSome ∧
      CacheEntry.parse? (entryFor hash now r).write = some (entryFor hash now r) ∧
      (Json.parse? (entryFor hash now r).data).bind ScriptResult.ofValue? = some r)
    ⟨fun ⟨h₁, h₂, h₃⟩ => ⟨h₁, h₂, h₃⟩, fun ⟨h₁, h₂, h₃⟩ => ⟨h₁, h₂, h₃⟩⟩

theorem get_eq {c : ResultCache} (hc : c.enabled = true) (fs : FileSystem) (now : Instant)
    (key hash : Text) : c.get fs now key hash =
      match c.stored? fs key with
      | none => (none, fs)
      | some e =>
        if c.isFresh now hash e then (some e.data, fs)
        else (none, fs.removeAll (c.fileOf key)) := by
  simp only [get, hc, stored?, invalidate, Bool.not_true, Bool.false_eq_true, if_false, if_true]
  cases fs.readFile (c.fileOf key) with
  | error e => rfl
  | ok content => rfl

theorem getScript_eq {c : ResultCache} (hc : c.enabled = true) (fs : FileSystem) (now : Instant)
    (key hash : Text) : c.getScript fs now key hash =
      match c.stored? fs key with
      | none => (none, fs)
      | some e =>
        if c.isFresh now hash e then ((Json.parse? e.data).bind ScriptResult.ofValue?, fs)
        else (none, fs.removeAll (c.fileOf key)) := by
  rw [getScript, get_eq hc]
  cases c.stored? fs key with
  | none => rfl
  | some e =>
    dsimp only
    split <;> rfl

theorem setScript_eq {c : ResultCache} (hc : c.enabled = true) (fs : FileSystem) {now : Instant}
    (key : Text) {hash : Text} {r : ScriptResult} (hr : r.failed = false)
    (hs : Survives hash now r) : c.setScript fs now key hash r =
      fs.put (c.fileOf key) (.file (entryFor hash now r).write) := by
  obtain ⟨data, hdata⟩ := Option.isSome_iff_exists.mp hs.encoded
  simp [setScript, hr, set?, hc, entryFor, hdata]

variable {c : ResultCache} {ok : FileSystem → Prop} {fs : FileSystem}

theorem stored?_put_self (h : c.Reliable ok) (hfs : ok fs) (key content : Text) :
    c.stored? (fs.put (c.fileOf key) (.file content)) key = CacheEntry.parse? content := by
  rw [stored?, h.read_put hfs]

theorem stored?_put (h : c.Reliable ok) (hfs : ok fs) (key : Text) {hash : Text} {now : Instant}
    {r : ScriptResult} (hs : Survives hash now r) :
    c.stored? (fs.put (c.fileOf key) (.file (entryFor hash now r).write)) key =
      some (entryFor hash now r) :=
  (stored?_put_self h hfs key _).trans hs.entry

theorem stored?_put_other (h : c.Reliable ok) (hfs : ok fs) {key other : Text} (content : Text)
    (hne : Blake3.hex other ≠ Blake3.hex key) :
    c.stored? (fs.put (c.fileOf key) (.file content)) other = c.stored? fs other := by
  rw [stored?, h.read_put_other hfs content hne, stored?]

theorem stored?_removeAll_other (h : c.Reliable ok) (hfs : ok fs) {key other : Text}
    (hne : Blake3.hex other ≠ Blake3.hex key) :
    c.stored? (fs.removeAll (c.fileOf key)) other = c.stored? fs other := by
  rw [stored?, h.read_remove_other hfs hne, stored?]

theorem stored?_setScript_other (h : c.Reliable ok) (hfs : ok fs) (now : Instant) {key other : Text}
    (hash : Text) (r : ScriptResult) (hne : Blake3.hex other ≠ Blake3.hex key) :
    c.stored? (c.setScript fs now key hash r) other = c.stored? fs other := by
  rw [setScript, set?]
  split
  · rfl
  · split
    · rfl
    · cases Json.compactText? (Json.compact r.document) with
      | none => rfl
      | some data => exact stored?_put_other h hfs _ hne

end GodotSurvey.ResultCache
