import GodotSurvey.Command.Flag
import GodotSurvey.Config.Load
import GodotSurvey.Report.Project
import GodotSurvey.Report.Tokens

/-!
# Consoles

What a command works on and leaves behind: files, what it prints, messages about the work, and
notices for the reader. A command that fails keeps what it printed before.
-/

namespace GodotSurvey.Command

/-! ## The console -/

/-- Files and printed texts. -/
structure Console where
  files : FileSystem := {}
  stdout : Text := []
  messages : Text := []
  notices : Text := []

/-- A command, which may fail with an error text. -/
abbrev Action := ExceptT Text (StateM Console)

/-- Prints a result. -/
def print (t : Text) : Action Unit := modify fun c => { c with stdout := c.stdout ++ t }

/-- Prints a line about the work. -/
def message (t : Text) : Action Unit := modify fun c => { c with messages := c.messages ++ t ++ "\n" }

/-- Prints a line for the reader. -/
def notice (t : Text) : Action Unit := modify fun c => { c with notices := c.notices ++ t ++ "\n" }

/-- The files as they are. -/
def currentFiles : Action FileSystem := do return (← get).files

/-- Puts changed files in place. -/
def setFiles (files : FileSystem) : Action Unit := modify fun c => { c with files }

/-- Goes on with a value, or fails with the text of an error. -/
def orFail {ε α : Type} (text : ε → Text) : Except ε α → Action α
  | .ok a => pure a
  | .error e => throw (text e)

/-! ## The surroundings of a command -/

/-- Flags that every command understands. -/
structure Globals where
  configPath : Text := []
  format : Text := []
  output : Text := []
  noCache : Bool := false
  verbose : Bool := false
  noColor : Bool := false
  deriving DecidableEq, Repr

/-- What commands find around them. -/
structure Surroundings where
  now : Instant := ⟨0⟩
  version : Text := "dev"
  /-- The terminal shows colours. -/
  ansi : Bool := false
  /-- The configuration file that the environment names. -/
  configVariable : Text := []
  globals : Globals := {}

namespace Surroundings

/-- The text in a style if colours are shown. -/
def styled (x : Surroundings) (style : Text → Text) (t : Text) : Text :=
  if x.ansi && !x.globals.noColor then style t else t

/-- The settings, and the file they come from. -/
def loadConfig (x : Surroundings) : Action Config.Loaded := do
  orFail Config.LoadError.message (Config.load (← currentFiles) x.globals.configPath ".")

end Surroundings

/-! ## Sessions -/

/-- The settings of a run with the flags applied. -/
structure Session where
  around : Surroundings
  config : Config
  format : Format
  verbose : Bool
  colored : Bool

namespace Session

/-- The session that the flags and the settings ask for. -/
def start (x : Surroundings) : Action Session := do
  let config := (← x.loadConfig).config
  let format := if x.globals.format.isEmpty then config.output.format else x.globals.format
  return {
    around := x
    config
    format := Format.ofName format
    verbose := x.globals.verbose || config.output.verbose
    colored := config.output.color && !x.globals.noColor }

/-- Runs a survey on the files, with the cache if that is switched on. -/
def survey {α : Type} (s : Session) (run : Survey → Survey.Caching α) : Action α := do
  let c := s.config.cache
  let (cache, files) ← orFail (fun e : FileError => "failed to open cache: " ++ e.message)
    (ResultCache.openAt (← currentFiles) c.dir c.ttl (c.enabled && !s.around.globals.noCache))
  let survey : Survey := { config := s.config, files, cache, now := s.around.now }
  let (a, files) := (run survey).run files
  setFiles files
  return a

/-- The path of the file that is written instead of printing; empty if there is none. -/
def outputPath (s : Session) : Text := s.around.globals.output

/-- Messages are coloured. -/
def colorsMessages (s : Session) : Bool := s.colored && s.outputPath.isEmpty

/-- Prints a message; a mark stands before it unless the colour shows its kind. -/
def say (s : Session) (style : Text → Text) (mark t : Text) : Action Unit :=
  message (if s.colorsMessages then s.around.styled style t else mark ++ t)

def warn (s : Session) (t : Text) : Action Unit := s.say Style.yellow "WARNING: " t

/-- Makes the output file, if there is one; what it held is gone. -/
def openOutput (s : Session) : Action Unit := do
  if !s.outputPath.isEmpty then
    setFiles (← orFail FileError.message ((← currentFiles).writeFile s.outputPath []))

/-- Writes a report to where output goes. -/
def write (s : Session) (r : Report) : Action Unit := do
  let colored := s.colorsMessages && s.around.ansi
  let text ← orFail RenderError.message (r.render s.format colored)
  if s.outputPath.isEmpty then print text
  else setFiles (← orFail FileError.message ((← currentFiles).writeFile s.outputPath text))

/-- Writes a report, and says so if it went to a file; a verbose session tells its size. -/
def report (s : Session) (r : Report) : Action Unit := do
  s.write r
  if !s.outputPath.isEmpty then s.say Style.green [] ("Wrote " ++ s.outputPath)
  if s.verbose then
    let text ← orFail RenderError.message (r.render s.format false)
    s.say Style.cyan [] ("Output size: " ++ (TokenBudget.ofText text 0).message)

end Session

end GodotSurvey.Command
