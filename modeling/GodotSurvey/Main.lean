import GodotSurvey.Command.Run

/-!
# The program

Reads the files around the working directory into memory, runs the command line on them, prints what
it left behind, and writes changed files back. Everything else is decided by the library.
-/

open GodotSurvey

namespace GodotSurvey.Program

def bytesOf (t : Text) : ByteArray := ⟨t.toArray⟩

def textOf (b : ByteArray) : Text := b.data.toList

/-- The name of a file whose content a command may read. Other files are known by name only. -/
def isReadable (name : Text) : Bool :=
  [Text.ofString ".gd", ".tscn", ".escn", ".godot", ".cfg", ".toml", ".yaml", ".yml", ".json",
    ".gitignore"].contains (Text.lower (Path.extension name))

/-- Reads a directory up to a depth. -/
def readTree : (depth : Nat) → IO.FS.DirEntry → IO Entry
  | 0, _ => return .directory []
  | depth + 1, e => do
    if ← e.path.isDir then
      if e.fileName == ".git" then return .directory []
      let children ← (← e.path.readDir).toList.mapM fun c => do
        return (Text.ofString c.fileName, ← readTree depth c)
      return .directory children
    else if isReadable (Text.ofString e.fileName) then
      return .file (textOf (← IO.FS.readBinFile e.path))
    else return .file []

/-- How deep directories are read. -/
def maxDepth : Nat := 64

/-- Adds what is below a directory, which is named by its absolute path. -/
def addTree (fs : FileSystem) (dir : String) : IO FileSystem := do
  let entries ← ((← IO.currentDir) / dir).readDir
  entries.foldlM (fun fs e => do
    return fs.put (Path.join [Text.ofString dir, Text.ofString e.fileName]) (← readTree maxDepth e))
    (fs.put (Text.ofString dir) (.directory []))

/-- The directory and those above it, itself first. -/
def ancestors : (fuel : Nat) → Text → List Text
  | 0, _ => []
  | fuel + 1, dir => dir :: if Path.parent dir == dir then [] else ancestors fuel (Path.parent dir)

/-- The highest directory at or above one that is the root of a project or of a repository. -/
def topOf (dir : Text) : IO Text := do
  let marked ← (ancestors maxDepth dir).filterM fun d => do
    let p := (← IO.currentDir) / d.toString
    return (← (p / "project.godot").pathExists) || (← (p / ".git").pathExists)
  return marked.getLastD dir

/-- The files around the working directory. -/
def readFiles : IO FileSystem := do
  let workingDir := Text.ofString (← IO.currentDir).toString
  addTree { workingDir } (← topOf workingDir).toString

/-- All files with their contents. -/
def contents (fs : FileSystem) : List (Text × Text) :=
  (fs.tree (fun _ _ => true) "/").filterMap fun (p, e) => match e with
    | .file content => some (p, content)
    | _ => none

/-- Writes new and changed files, and removes those that are gone. -/
def writeBack (before after : FileSystem) : IO Unit := do
  let old := contents before
  let new := contents after
  let cwd ← IO.currentDir
  for (p, content) in new do
    if old.lookup p != some content then
      IO.FS.createDirAll (cwd / (Path.parent p).toString)
      IO.FS.writeBinFile (cwd / p.toString) (bytesOf content)
  for (p, _) in old do
    if (new.lookup p).isNone then IO.FS.removeFile (cwd / p.toString)

/-- The present moment, taken from the time stamp of a new file. -/
def presentMoment : IO Instant := do
  let (_, path) ← IO.FS.createTempFile
  let stamp := (← path.metadata).modified
  IO.FS.removeFile path
  return ⟨stamp.sec * 1000000000 + stamp.nsec.toNat⟩

def printTo (stream : IO.FS.Stream) (t : Text) : IO Unit := do
  stream.write (bytesOf t)
  stream.flush

end GodotSurvey.Program

open GodotSurvey.Program in
def main (args : List String) : IO UInt32 := do
  let stdout ← IO.getStdout
  let around : Command.Surroundings := {
    now := ← presentMoment
    ansi := ← stdout.isTty
    configVariable := Text.ofString ((← IO.getEnv "GDLENS_CONFIG").getD "") }
  let files ← readFiles
  let (error, console) := Command.run around files (args.map Text.ofString)
  writeBack files console.files
  printTo (← IO.getStderr) console.messages
  printTo stdout (console.notices ++ console.stdout)
  match error with
  | none => return 0
  | some e =>
    printTo stdout (around.styled Style.red ("Error: " ++ e) ++ "\n")
    return 1
