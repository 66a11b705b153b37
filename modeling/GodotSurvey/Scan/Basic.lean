import GodotSurvey.Config.Basic
import GodotSurvey.Project.FileKind
import GodotSurvey.Scan.IgnoreRule

/-!
# Scanning for scripts and scenes

A scan walks a directory in lexical order and collects scripts and scenes. Settings and ignore files
leave directories and files out. Paths that are named one by one are taken as they are.
-/

namespace GodotSurvey

/-- What a scan found. -/
structure FoundFiles where
  scripts : List Text := []
  scenes : List Text := []
  /-- Files that cannot be analysed. -/
  skipped : List Text := []
  deriving DecidableEq, Repr

namespace FoundFiles

/-- How many files can be analysed. -/
def total (f : FoundFiles) : Nat := f.scripts.length + f.scenes.length

/-- The files sorted into groups by kind; those of other kinds are skipped if `keepOthers` holds,
else dropped. -/
def ofPaths (keepOthers : Bool) (paths : List Text) : FoundFiles where
  scripts := paths.filter (FileKind.ofPath · == .script)
  scenes := paths.filter (FileKind.ofPath · == .scene)
  skipped := paths.filter fun p =>
    let kind := FileKind.ofPath p
    if keepOthers then kind != .script && kind != .scene else kind == .binaryScene

/-- All paths, group by group. -/
def paths (f : FoundFiles) : List Text := f.scripts ++ f.scenes ++ f.skipped

end FoundFiles

namespace Scan

/-- The file that takes a directory out of a project. -/
def ignoreMarker : Text := ".gdignore"

/-- What one scan of several directories keeps in mind: the repository around the last directory,
and the rules of the last repository that had any. -/
structure Memory where
  gitRoot : Option Text := none
  gitRules : List IgnoreRule := []

/-- The nearest directory at or above a path that holds a repository. -/
def findGitRootFrom (fs : FileSystem) : (fuel : Nat) → (dir : Text) → Option Text
  | 0, _ => none
  | fuel + 1, dir =>
    if fs.isDirectory (Path.join [dir, IgnoreRule.repositoryDir]) then some dir
    else if Path.parent dir == dir then none
    else findGitRootFrom fs fuel (Path.parent dir)

def findGitRoot? (fs : FileSystem) (dir : Text) : Option Text :=
  findGitRootFrom fs (dir.length + 1) dir

/-- The rules of the repository at a path. -/
def repositoryRules (fs : FileSystem) (root : Text) : List IgnoreRule :=
  match fs.stat root with
  | .ok e =>
    let read := fun names => (fs.readFile (Path.join (root :: names))).toOption
    IgnoreRule.ofTree read [] (FileSystem.sortTree e)
  | .error _ => []

/-- What is kept in mind when the directory at `root` is scanned next. -/
def Memory.enter (m : Memory) (fs : FileSystem) (c : Config.Exclude) (root : Text) : Memory :=
  if !c.gitignore then m
  else match findGitRoot? fs root with
    | none => { m with gitRoot := none }
    | some gitRoot =>
      match repositoryRules fs gitRoot with
      | [] => { m with gitRoot := some gitRoot }
      | rules => ⟨some gitRoot, rules⟩

/-- The names of a path. -/
def namesOf (p : Text) : Names := Text.splitByte '/' p

/-- Rules leave the path out: those of the settings for its path below the scanned directory, those
of the repository for its path below the repository. -/
def isExcluded (m : Memory) (c : Config.Exclude) (absolute relative : Text) (isDir : Bool) : Bool :=
  let own := ((c.patterns.getD []).map (IgnoreRule.parse · []))
  if IgnoreRule.excludes own (namesOf relative) isDir then true
  else match m.gitRoot.bind (Path.relative? · absolute) with
    | none => false
    | some rel => !Text.startsWith rel ".." && IgnoreRule.excludes m.gitRules (namesOf rel) isDir

/-- The path is the root or lies below it. -/
def isWithin (path root : Text) : Bool := path == root || Text.startsWith path (root ++ "/")

/-- Scans the directory at `root`. -/
def scanDirectory (fs : FileSystem) (c : Config.Exclude) (m : Memory) (root : Text) :
    Except FileError (FoundFiles × Memory) :=
  match fs.realPath (fs.absolute root) with
  | .error e => .error e
  | .ok realRoot =>
    let m := m.enter fs c realRoot
    let relativeOf := fun p => (Path.relative? root p).getD []
    let absoluteOf := fun p => Path.join [realRoot, relativeOf p]
    let enter := fun p (_ : Entry) =>
      relativeOf p == "."
        || !((c.dirs.getD []).contains (Path.base p)
          || isExcluded m c (absoluteOf p) (relativeOf p) true
          || (c.gdignore && fs.pathExists (Path.join [p, ignoreMarker])))
    let stays := fun p (e : Entry) =>
      !e.isLink || (match fs.realPath p with
        | .ok real => isWithin (fs.absolute real) realRoot
        | .error _ => false)
    let files := (fs.tree enter root).filterMap fun (p, e) =>
      if e.isDirectory || !stays p e || isExcluded m c (absoluteOf p) (relativeOf p) false then none
      else some p
    .ok (FoundFiles.ofPaths false files, m)

/-- Why paths could not be scanned. -/
inductive ScanError where
  | invalidPath (path : Text) (e : FileError)
  | directory (path : Text) (e : FileError)
  deriving DecidableEq, Repr

def ScanError.message : ScanError → Text
  | invalidPath p e => "invalid path " ++ p ++ ": " ++ e.message
  | directory p e => "failed to scan directory " ++ p ++ ": " ++ e.message

/-- The files that paths name, in order: a resource path or a file stands for itself, a directory for
what a scan of it finds. -/
def expand (fs : FileSystem) (c : Config.Exclude) :
    Memory → List Text → Except ScanError (List Text)
  | _, [] => .ok []
  | m, p :: rest =>
    if ResourcePath.isResource p then (p :: ·) <$> expand fs c m rest
    else
      let absolute := fs.absolute p
      match fs.stat absolute with
      | .error e => .error (.invalidPath p e)
      | .ok e =>
        if !e.isDirectory then (absolute :: ·) <$> expand fs c m rest
        else match scanDirectory fs c m absolute with
          | .error e => .error (.directory p e)
          | .ok (found, m) => (found.paths ++ ·) <$> expand fs c m rest

/-- The scripts and scenes that paths name, each once; no path means the working directory. -/
def scanPaths (fs : FileSystem) (c : Config.Exclude) (paths : List Text) :
    Except ScanError FoundFiles :=
  let paths := if paths.isEmpty then [Text.ofString "."] else paths
  (fun ps => FoundFiles.ofPaths true (Text.dedup ps)) <$> expand fs c {} paths

end Scan

end GodotSurvey
