import GodotSurvey.Command.Analysis
import GodotSurvey.Command.Settings

/-!
# Running commands

A command line is a list of arguments: flags for all commands, the name of a command with its own
flags, and what the command works on. Some commands are grouped under a common name.
-/

namespace GodotSurvey.Command

/-- A command with its names and flags, or a group of commands. -/
inductive Menu where
  | command (names : List Text) (flags : List FlagSpec)
      (run : Surroundings → Arguments → Action Unit)
  | group (names : List Text) (entries : List Menu)

def Menu.names : Menu → List Text
  | command ns _ _ => ns
  | group ns _ => ns

/-- The commands. -/
def menu : List Menu :=
  [.command ["script", "gd"] scriptFlags script,
    .command ["scene", "tscn"] sceneFlags scene,
    .command ["project", "p"] projectFlags project,
    .command ["graph", "dag"] graphFlags graph,
    .command ["classes"] [] classes,
    .group ["cache"] [.command ["stats"] [] cacheStats, .command ["clear"] [] cacheClear],
    .group ["config"] [
      .command ["show"] [] configShow,
      .command ["init"] [forceFlag] configInit,
      .command ["validate"] [] configValidate,
      .command ["schema"] [] configSchema],
    .command ["manifest"] [] manifest]

/-! ## Flags of all commands -/

def helpFlag : FlagSpec := { name := "help", aliases := ["h"] }
def versionFlag : FlagSpec := { name := "version", aliases := ["v"] }
def configFlag : FlagSpec := { name := "config", aliases := ["c"], kind := .text }
def formatFlag : FlagSpec := { name := "format", aliases := ["f"], kind := .text }
def outputFlag : FlagSpec := { name := "output", aliases := ["o"], kind := .text }
def noCacheFlag : FlagSpec := { name := "no-cache" }
def verboseFlag : FlagSpec := { name := "verbose" }
def noColorFlag : FlagSpec := { name := "no-color" }

def globalFlags : List FlagSpec :=
  [configFlag, formatFlag, outputFlag, noCacheFlag, verboseFlag, noColorFlag, helpFlag, versionFlag]

def globalsOf (x : Surroundings) (a : Arguments) : Globals where
  configPath := a.text configFlag x.configVariable
  format := a.text formatFlag []
  output := a.text outputFlag []
  noCache := a.switch noCacheFlag
  verbose := a.switch verboseFlag
  noColor := a.switch noColorFlag

/-! ## Dispatch -/

/-- Reads arguments; wrong ones are reported in print too. -/
def readOrFail (specs : List FlagSpec) (args : List Text) : Action Arguments := do
  match readArguments specs args with
  | .ok a => return a
  | .error e =>
    print ("Incorrect Usage: " ++ e.message ++ "\n\n")
    throw e.message

/-- The version line. -/
def versionText (x : Surroundings) : Text :=
  "gdlens version " ++ x.version ++ " (commit none, built unknown)\n"

mutual

/-- Runs a command or the named command of a group. -/
def Menu.run (x : Surroundings) (args : List Text) : Menu → Action Unit
  | .command _ flags run => do
    let a ← readOrFail (flags ++ [helpFlag]) args
    if a.switch helpFlag then return else run x a
  | .group _ es => do
    let a ← readOrFail [helpFlag] args
    if a.switch helpFlag then return
    match a.plain with
    | [] => return
    | name :: rest => runNamed x name rest es

/-- Runs the command of that name. -/
def runNamed (x : Surroundings) (name : Text) (args : List Text) : List Menu → Action Unit
  | [] => throw ("No help topic for '" ++ name ++ "'")
  | e :: es => if e.names.contains name then e.run x args else runNamed x name args es

end

/-- Runs a command line. -/
def commandLine (x : Surroundings) (args : List Text) : Action Unit := do
  let a ← readOrFail globalFlags args
  if a.switch helpFlag then return
  if a.switch versionFlag then print (versionText x)
  else match a.plain with
    | [] => return
    | name :: rest => runNamed { x with globals := globalsOf x a } name rest menu

/-- What a command line leaves behind, and its error if it failed. -/
def run (x : Surroundings) (files : FileSystem) (args : List Text) : Option Text × Console :=
  match ((commandLine x args).run).run { files } with
  | (.ok _, c) => (none, c)
  | (.error e, c) => (some e, c)

end GodotSurvey.Command
