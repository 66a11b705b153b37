import GodotSurvey.Command.Console
import GodotSurvey.Config.Schema
import GodotSurvey.Server.Manifest

/-!
# Commands about settings, the cache and the server
-/

namespace GodotSurvey.Command

open Document (field ofFields)

/-! ## Settings -/

/-- Shows the settings that are in effect. -/
def configShow (x : Surroundings) (_ : Arguments) : Action Unit := do
  let l ← x.loadConfig
  let header : Text := if l.source.isEmpty then "Default configuration (no config file found)"
    else "Configuration from: " ++ l.source
  print (l.config.render [header])

def forceFlag : FlagSpec := { name := "force" }

/-- The standard settings as a file. -/
def initialConfig : Text :=
  Config.render {} ["gdlens configuration", "Documentation: " ++ Manifest.repositoryUrl]

/-- Writes a file with the standard settings. -/
def configInit (x : Surroundings) (a : Arguments) : Action Unit := do
  let path := a.plain.headD "gdlens.toml"
  if (← currentFiles).pathExists path && !a.switch forceFlag then
    throw ("config file " ++ Text.quoted path ++ " already exists (use --force to overwrite)")
  let dir := Path.parent path
  if dir != "." then
    setFiles (← orFail (fun e : FileError =>
      "failed to create directory " ++ Text.quoted dir ++ ": " ++ e.message)
      ((← currentFiles).makeDirectories dir))
  setFiles (← orFail (fun e : FileError => "failed to write config file: " ++ e.message)
    ((← currentFiles).writeFile path initialConfig))
  notice (x.styled Style.green ("Created " ++ path))
  print "Edit this file to customize analysis settings.\n"

/-- Checks the settings. -/
def configValidate (x : Surroundings) (_ : Arguments) : Action Unit := do
  match Config.load (← currentFiles) x.globals.configPath "." with
  | .error e =>
    notice (x.styled Style.red "Configuration validation failed:")
    print ("  - " ++ e.message ++ "\n")
    throw e.message
  | .ok l =>
    if l.source.isEmpty then
      notice (x.styled Style.yellow "No config file found. Default configuration is valid.")
    else notice (x.styled Style.green ("Configuration valid: " ++ l.source))

/-- Prints the schema of configuration files. -/
def configSchema (_ : Surroundings) (_ : Arguments) : Action Unit := print Config.schema

/-! ## The cache -/

/-- Opens the cache, also one that is switched off. -/
def openCache (c : Config) : Action ResultCache := do
  let (cache, files) ← orFail FileError.message
    (ResultCache.openAt (← currentFiles) c.cache.dir c.cache.ttl true)
  setFiles files
  return cache

/-- The numbers of a cache as data; a format may have its own names for them. -/
def statsDocument (format : Format) (entries size : Nat) : Document :=
  match format with
  | .toon => ofFields [field "Entries" (.int entries), field "TotalSize" (.int size),
      field "OldestAge" (.text "0s"), field "NewestAge" (.text "0s")]
  | _ => ofFields [field "entries" (.int entries), field "total_size" (.int size),
      field "oldest_age" (.int 0), field "newest_age" (.int 0)]

/-- Shows how much the cache holds. The age of an entry is not kept, so every one counts as new. -/
def cacheStats (x : Surroundings) (_ : Arguments) : Action Unit := do
  let s ← Session.start x
  let cache ← openCache s.config
  let sizes := (cache.entrySizes? (← currentFiles)).getD []
  let size : Nat := sizes.foldl (· + ·) 0
  s.openOutput
  s.write (.table {
    title := "Cache: " ++ s.config.cache.dir
    headers := ["Entries", "Size", "Oldest", "Newest"]
    rows := [[Text.ofNat sizes.length, sizeText size, "0s", "0s"]]
    data := some (statsDocument s.format sizes.length size) })

/-- Empties the cache. -/
def cacheClear (x : Surroundings) (_ : Arguments) : Action Unit := do
  let l ← x.loadConfig
  let cache ← openCache l.config
  setFiles (cache.clear (← currentFiles))
  notice (x.styled Style.green "Cache cleared")

/-! ## The server -/

/-- Prints the manifest of the server. -/
def manifest (x : Surroundings) (_ : Arguments) : Action Unit :=
  print (Manifest.render x.version ++ "\n")

end GodotSurvey.Command
