import GodotSurvey.Text.Path

/-!
# Files and directories

A file system as a value: a tree of directories, files and symbolic links, and a working directory.
Looking a path up walks the tree segment by segment and follows links, as an operating system does,
and fails for the same reasons with the same words.
-/

namespace GodotSurvey

/-- What stands under a name in a directory. -/
inductive Entry where
  | file (content : Text)
  | directory (entries : List (Text × Entry))
  | link (target : Text)
  deriving Repr, Inhabited

namespace Entry

def isDirectory : Entry → Bool
  | directory _ => true
  | _ => false

def isLink : Entry → Bool
  | link _ => true
  | _ => false

/-- The names and entries of a directory. -/
def entries : Entry → List (Text × Entry)
  | directory es => es
  | _ => []

def child? (e : Entry) (name : Text) : Option Entry := e.entries.lookup name

/-- The entry that a row of names leads to, without following links. -/
def at? (e : Entry) : List Text → Option Entry
  | [] => some e
  | name :: rest => (e.child? name).bind fun c => c.at? rest

/-- Sets the entry of a name. -/
def putEntry (name : Text) (e : Entry) : List (Text × Entry) → List (Text × Entry)
  | [] => [(name, e)]
  | (n, x) :: rest => if n == name then (name, e) :: rest else (n, x) :: putEntry name e rest

/-- Sets the entry at a row of names; missing directories are made, and files on the way are
replaced by directories. -/
def put (e : Entry) (new : Entry) : List Text → Entry
  | [] => new
  | name :: rest =>
    let c := (e.child? name).getD (directory [])
    directory (putEntry name (c.put new rest) e.entries)

/-- Removes the entry at a row of names. -/
def remove (e : Entry) : List Text → Entry
  | [] => e
  | [name] => directory (e.entries.filter (·.1 != name))
  | name :: rest =>
    match e.child? name with
    | some c => directory (putEntry name (c.remove rest) e.entries)
    | none => e

/-- The names of a directory in order. -/
def sortedEntries (e : Entry) : List (Text × Entry) :=
  e.entries.mergeSort fun a b => Text.le a.1 b.1

end Entry

/-! ## Failures -/

/-- Why an access fails. -/
inductive FileCause where
  | notFound
  | notDirectory
  | isDirectory
  | tooManyLinks
  /-- Links lead on without end while a path is made free of them. -/
  | endlessLinks
  deriving DecidableEq, Repr

def FileCause.message : FileCause → Text
  | notFound => "no such file or directory"
  | notDirectory => "not a directory"
  | isDirectory => "is a directory"
  | tooManyLinks => "too many levels of symbolic links"
  | endlessLinks => "EvalSymlinks: too many links"

/-- A failed access: what was tried on which path, and why it failed. -/
structure FileError where
  action : Text
  path : Text
  cause : FileCause
  deriving DecidableEq, Repr

def FileError.message (e : FileError) : Text :=
  let cause := e.cause.message
  if e.action.isEmpty then cause else e.action ++ " " ++ e.path ++ ": " ++ cause

/-! ## File systems -/

/-- A tree with a working directory, given as an absolute path. -/
structure FileSystem where
  root : Entry := .directory []
  workingDir : Text := "/"
  deriving Repr

namespace FileSystem

/-- The cleaned absolute form of a path. -/
def absolute (fs : FileSystem) (p : Text) : Text :=
  if Path.isAbsolute p then Path.clean p else Path.join [fs.workingDir, p]

/-- Where a walk along segments stops: at an entry, at a link with segments left to walk, or at a
segment that cannot be passed. -/
inductive Stop where
  | found (place : List Text) (entry : Entry)
  | atLink (place : List Text) (target : Text) (rest : List Text)
  | failed (place : List Text) (cause : FileCause)

/-- Walks along segments up to the first link. A link as last segment is passed only on demand. -/
def walkPlain (root : Entry) (followLast : Bool) :
    (place : List Text) → Entry → List Text → Stop
  | place, e, [] => .found place e
  | place, e, seg :: rest =>
    if !e.isDirectory then .failed place .notDirectory
    else if seg == "." then walkPlain root followLast place e rest
    else if seg == ".." then
      let up := place.dropLast
      walkPlain root followLast up ((root.at? up).getD root) rest
    else match e.child? seg with
      | none => .failed (place ++ [seg]) .notFound
      | some (.link target) =>
        if rest.isEmpty && !followLast then .found (place ++ [seg]) (.link target)
        else .atLink place target rest
      | some c => walkPlain root followLast (place ++ [seg]) c rest

/-- Walks along segments, following at most `links` links. -/
def walk (root : Entry) (followLast : Bool) :
    (links : Nat) → (place segments : List Text) → Except (List Text × FileCause) (List Text × Entry)
  | 0, place, _ => .error (place, .tooManyLinks)
  | links + 1, place, segs =>
    match walkPlain root followLast place ((root.at? place).getD root) segs with
    | .found place e => .ok (place, e)
    | .failed place cause => .error (place, cause)
    | .atLink place target rest =>
      if target.isEmpty then .error (place, .notFound)
      else
        let start := if Path.isAbsolute target then [] else place
        walk root followLast links start (Path.segments target ++ rest)

/-- The place and the entry that a path leads to. -/
def locate (fs : FileSystem) (followLast : Bool) (p : Text) :
    Except (List Text × FileCause) (List Text × Entry) :=
  if p.isEmpty then .error ([], .notFound)
  else
    let segs := Path.segments p
    let segs := if Path.isAbsolute p then segs else Path.segments fs.workingDir ++ segs
    walk fs.root followLast 41 [] segs

/-- The entry at a path, behind links. -/
def stat (fs : FileSystem) (p : Text) : Except FileError Entry :=
  match fs.locate true p with
  | .ok (_, e) => .ok e
  | .error (_, cause) => .error ⟨"stat", p, cause⟩

/-- The entry at a path; a link at its end is the entry. -/
def lstat (fs : FileSystem) (p : Text) : Except FileError Entry :=
  match fs.locate false p with
  | .ok (_, e) => .ok e
  | .error (_, cause) => .error ⟨"lstat", p, cause⟩

/-- Something is at the path. -/
def pathExists (fs : FileSystem) (p : Text) : Bool := (fs.stat p).toOption.isSome

/-- A directory is at the path. -/
def isDirectory (fs : FileSystem) (p : Text) : Bool := (fs.stat p).toOption.any (·.isDirectory)

/-- The content of the file at a path. -/
def readFile (fs : FileSystem) (p : Text) : Except FileError Text :=
  match fs.locate true p with
  | .error (_, cause) => .error ⟨"open", p, cause⟩
  | .ok (_, .file content) => .ok content
  | .ok _ => .error ⟨"read", p, .isDirectory⟩

/-- The absolute path without links that leads to the same place. -/
def realPath (fs : FileSystem) (p : Text) : Except FileError Text :=
  match fs.locate true p with
  | .ok (place, _) => .ok ("/" ++ Text.join "/" place)
  | .error (place, .notFound) => .error ⟨"lstat", "/" ++ Text.join "/" place, .notFound⟩
  | .error (_, .tooManyLinks) => .error ⟨[], p, .endlessLinks⟩
  | .error (_, cause) => .error ⟨[], p, cause⟩

/-! ## Changes -/

/-- Puts an entry at the absolute form of a path, making the directories above it. -/
def put (fs : FileSystem) (p : Text) (e : Entry) : FileSystem :=
  { fs with root := fs.root.put e (Path.cleanSegments (fs.absolute p)) }

/-- The nearest place at a path or above it where something is; paths are cut at their last slash. -/
def nearest? (fs : FileSystem) : (fuel : Nat) → Text → Option (Text × Entry)
  | 0, _ => none
  | fuel + 1, p =>
    match fs.stat p with
    | .ok e => some (p, e)
    | .error _ =>
      let up := (p.reverse.dropWhile (!Path.isSlash ·)).reverse
      if up.isEmpty then none else fs.nearest? fuel (Text.dropEndWhile Path.isSlash up)

/-- Makes a directory and those above it. -/
def makeDirectories (fs : FileSystem) (p : Text) : Except FileError FileSystem :=
  if p.isEmpty then .error ⟨"mkdir", p, .notFound⟩
  else match fs.nearest? (p.length + 1) (if p.length ≤ 1 then p else Text.dropEndWhile Path.isSlash p) with
  | some (place, e) =>
    if !e.isDirectory then .error ⟨"mkdir", place, .notDirectory⟩
    else if fs.isDirectory p then .ok fs
    else .ok (fs.put p (.directory []))
  | none => .ok (fs.put p (.directory []))

/-- Writes a file in an existing directory. -/
def writeFile (fs : FileSystem) (p content : Text) : Except FileError FileSystem :=
  match fs.locate true p with
  | .ok (_, .directory _) => .error ⟨"open", p, .isDirectory⟩
  | .ok (place, _) => .ok { fs with root := fs.root.put (.file content) place }
  | .error (_, .notFound) =>
    match fs.locate true (Path.parent (fs.absolute p)) with
    | .ok (place, .directory _) =>
      .ok { fs with root := fs.root.put (.file content) (place ++ [Path.base p]) }
    | .ok _ => .error ⟨"open", p, .notDirectory⟩
    | .error (_, cause) => .error ⟨"open", p, cause⟩
  | .error (_, cause) => .error ⟨"open", p, cause⟩

/-- Removes what is at a path, if anything is. -/
def removeAll (fs : FileSystem) (p : Text) : FileSystem :=
  match fs.locate false p with
  | .ok (place, _) => { fs with root := fs.root.remove place }
  | .error _ => fs

/-! ## Walking a directory -/

mutual

/-- Everything below a path in lexical order, the path itself first; `enter` decides on a directory
whether to go below it. -/
def visit (enter : Text → Entry → Bool) (p : Text) : Entry → List (Text × Entry)
  | .directory es =>
    if enter p (.directory es) then
      (p, .directory es) :: (visitAll enter p es).flatten
    else [(p, .directory es)]
  | e => [(p, e)]

/-- What is below each entry of a directory. -/
def visitAll (enter : Text → Entry → Bool) (p : Text) : List (Text × Entry) → List (List (Text × Entry))
  | [] => []
  | (name, e) :: rest => visit enter (Path.join [p, name]) e :: visitAll enter p rest

end

mutual

/-- The entry with the names of every directory in order. -/
def sortTree : Entry → Entry
  | .directory es => .directory ((sortTrees es).mergeSort fun a b => Text.le a.1 b.1)
  | e => e

def sortTrees : List (Text × Entry) → List (Text × Entry)
  | [] => []
  | (name, e) :: rest => (name, sortTree e) :: sortTrees rest

end

/-- What a walk from a path meets, in lexical order; links are not followed. -/
def tree (fs : FileSystem) (enter : Text → Entry → Bool) (p : Text) : List (Text × Entry) :=
  match fs.lstat p with
  | .ok e => visit enter p (sortTree e)
  | .error _ => []

end FileSystem

end GodotSurvey
