import GodotSurvey.Analysis.ScriptResult
import GodotSurvey.Digest.Blake3
import GodotSurvey.Digest.XxHash64
import GodotSurvey.Files.Tree
import GodotSurvey.Json.Raw
import GodotSurvey.Time.Instant

/-!
# The cache of results

Results are kept in files, one for each key, together with a hash of what they were computed from and
the time at which they were stored. An entry with another hash, or one that is too old, counts as
missing and is removed when it is met. A cache that is switched off keeps nothing.
-/

namespace GodotSurvey

/-- A cache in a directory. Entries older than `ttl` nanoseconds are stale. -/
structure ResultCache where
  enabled : Bool := false
  dir : Text := []
  ttl : Int := 0
  deriving DecidableEq, Repr

/-- What is stored under a key. -/
structure CacheEntry where
  hash : Text
  stored : Instant
  data : Text
  deriving DecidableEq, Repr

namespace CacheEntry

/-- The time of an entry that does not say when it was stored: the beginning of the calendar. -/
def unknownTime : Instant := ⟨-62135596800000000000⟩

/-- The member of that name, in any letter case. -/
def member? (ms : List (Text × Text)) (name : Text) : Option Text :=
  (ms.reverse.find? fun m => Json.Value.foldName m.1 == name).map (·.2)

/-- The text of a string that is written as JSON. -/
def textOf? (raw : Option Text) : Option Text :=
  match raw with
  | none => some []
  | some r => (Json.parse? r).bind Json.Value.text?

/-- The time in a timestamp that is written as JSON. -/
def timeOf? (raw : Option Text) : Option Instant :=
  match raw.map Json.parse? with
  | none | some (some .null) => some unknownTime
  | some (some (.string s)) => Instant.parse? s
  | _ => none

/-- Reads the file of an entry; its data stays as it was written. -/
def parse? (content : Text) : Option CacheEntry := do
  let ms ← Json.membersOfText? content
  return { hash := ← textOf? (member? ms "hash"), stored := ← timeOf? (member? ms "timestamp")
           data := (member? ms "data").getD [] }

/-- The file of an entry whose data is compact JSON. -/
def write (e : CacheEntry) : Text :=
  "\x7b\"hash\":" ++ Json.quote e.hash ++ ",\"timestamp\":\"" ++ e.stored.format ++ "\",\"data\":"
    ++ e.data ++ "\x7d"

end CacheEntry

namespace ResultCache

/-- A cache in a directory, which is made, for entries that last so many hours. -/
def openAt (fs : FileSystem) (dir : Text) (hours : Int) (enabled : Bool) :
    Except FileError (ResultCache × FileSystem) :=
  if !enabled then .ok ({}, fs)
  else match fs.makeDirectories dir with
    | .error e => .error e
    | .ok fs => .ok ({ enabled := true, dir, ttl := Instant.hours hours }, fs)

/-- One key from several parts. -/
def key (parts : List Text) : Text := Text.join [0] parts

/-- The file of a key. -/
def fileOf (c : ResultCache) (key : Text) : Text :=
  Path.join [c.dir, Blake3.hex key ++ ".json"]

/-- Removes the entry of a key, if there is one. -/
def invalidate (c : ResultCache) (fs : FileSystem) (key : Text) : FileSystem :=
  if c.enabled then fs.removeAll (c.fileOf key) else fs

/-- The entry is good for a request at a time. -/
def isFresh (c : ResultCache) (now : Instant) (hash : Text) (e : CacheEntry) : Bool :=
  e.hash == hash && now.since e.stored ≤ c.ttl

/-- The data stored for a key and hash. An entry that is not good any more is removed. -/
def get (c : ResultCache) (fs : FileSystem) (now : Instant) (key hash : Text) :
    Option Text × FileSystem :=
  if !c.enabled then (none, fs)
  else match fs.readFile (c.fileOf key) with
    | .error _ => (none, fs)
    | .ok content =>
      match CacheEntry.parse? content with
      | none => (none, fs)
      | some e =>
        if c.isFresh now hash e then (some e.data, fs) else (none, c.invalidate fs key)

/-- Stores data for a key and hash; data that is not JSON cannot be stored. -/
def set? (c : ResultCache) (fs : FileSystem) (now : Instant) (key hash data : Text) :
    Option FileSystem :=
  if !c.enabled then some fs
  else (Json.compactText? data).map fun data =>
    fs.put (c.fileOf key) (.file (CacheEntry.write ⟨hash, now, data⟩))

/-- The script result stored for a key and hash. -/
def getScript (c : ResultCache) (fs : FileSystem) (now : Instant) (key hash : Text) :
    Option ScriptResult × FileSystem :=
  let (data, fs) := c.get fs now key hash
  (data.bind fun d => (Json.parse? d).bind ScriptResult.ofValue?, fs)

/-- Stores a script result, unless it failed. -/
def setScript (c : ResultCache) (fs : FileSystem) (now : Instant) (key hash : Text)
    (r : ScriptResult) : FileSystem :=
  if r.failed then fs else (c.set? fs now key hash (Json.compact r.document)).getD fs

/-- Removes the whole cache. -/
def clear (c : ResultCache) (fs : FileSystem) : FileSystem :=
  if c.enabled then fs.removeAll c.dir else fs

/-- The sizes of the entries; `none` if the directory is gone. -/
def entrySizes? (c : ResultCache) (fs : FileSystem) : Option (List Nat) :=
  if !c.enabled then some []
  else match fs.lstat c.dir with
    | .error _ => none
    | .ok _ =>
      some ((fs.tree (fun _ _ => true) c.dir).filterMap fun (p, e) => match e with
        | .file content => if Path.extension p == ".json" then some content.length else none
        | _ => none)

end ResultCache

/-- A short identifier of a content. -/
def contentFingerprint (s : Text) : Text := XxHash64.hex s

end GodotSurvey
