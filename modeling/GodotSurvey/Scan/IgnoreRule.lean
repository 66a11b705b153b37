import GodotSurvey.Files.Tree
import GodotSurvey.Scan.Glob
import GodotSurvey.Text.Space

/-!
# Rules for ignored files

A rule is a line of an ignore file: it names files by wildcard patterns, and it counts for paths
below the directory of its file only. Of the rules that speak of a path the last one decides; one
that begins with `!` takes the path in again. Paths are rows of names.
-/

namespace GodotSurvey

/-- A row of names. -/
abbrev Names := List Text

/-- A rule about paths below `domain`. -/
structure IgnoreRule where
  domain : Names
  /-- The parts between slashes. -/
  parts : List Text
  /-- The rule takes paths in instead of leaving them out. -/
  keeps : Bool
  /-- The rule speaks of directories only. -/
  dirOnly : Bool
  deriving DecidableEq, Repr

namespace IgnoreRule

open Text

/-- The rule on a line of an ignore file in the directory `domain`. -/
def parse (line : Text) (domain : Names) : IgnoreRule :=
  let keeps := startsWith line "!"
  let line := if keeps then line.drop 1 else line
  let line := if endsWith line "\\ " then line else dropEndWhile (· == ' ') line
  let dirOnly := endsWith line "/"
  let line := if dirOnly then line.dropLast else line
  { domain, keeps, dirOnly, parts := splitByte '/' line }

/-- How a pattern relates to a name; `none` if the pattern is not well formed. -/
def nameMatches? (pattern name : Text) : Option Bool :=
  (Glob.parse? pattern).map (·.describes name)

/-- A rule without slashes: some name of the path matches. -/
def simpleMatch (r : IgnoreRule) (isDir : Bool) (pattern : Text) : Names → Bool
  | [] => false
  | name :: rest =>
    match nameMatches? pattern name with
    | none => false
    | some true => !(r.dirOnly && !isDir && rest.isEmpty)
    | some false => r.simpleMatch isDir pattern rest

/-- The names after the first that matches; `none` if the pattern is not well formed. -/
def skipTo? (pattern : Text) : Names → Option (Bool × Names)
  | [] => some (false, [])
  | name :: rest =>
    match nameMatches? pattern name with
    | none => none
    | some true => some (true, rest)
    | some false => skipTo? pattern rest

/-- Matches the parts of a rule one after the other. `free` says that names may be passed over
before the next part, and `matched` that the last part matched. The result is `none` as soon as the
rule cannot match, else whether it does and the names that are left. -/
def partsMatch? : (free matched : Bool) → List Text → Names → Option (Bool × Names)
  | _, matched, [], path => some (matched, path)
  | free, matched, part :: rest, path =>
    if part.isEmpty then partsMatch? false matched rest path
    else if part == "**" then
      if rest.isEmpty then some (matched, path) else partsMatch? true matched rest path
    else if contains part "**" then none
    else match path with
      | [] => none
      | name :: names =>
        if free then
          match skipTo? part path with
          | none => none
          | some (found, left) => partsMatch? false found rest left
        else if nameMatches? part name == some true then
          partsMatch? false (!(names.isEmpty && !rest.isEmpty)) rest names
        else none

/-- A rule with slashes: its parts follow the path from the start. -/
def globMatch (r : IgnoreRule) (isDir : Bool) (path : Names) : Bool :=
  match partsMatch? false false r.parts path with
  | none => false
  | some (matched, left) => matched && !(r.dirOnly && !isDir && left.isEmpty)

/-- What follows the domain in a path that leads below it. -/
def below? : (domain path : Names) → Option Names
  | [], [] => none
  | [], path => some path
  | _ :: _, [] => none
  | d :: ds, n :: ns => if d == n then below? ds ns else none

/-- The rule speaks of the path. -/
def applies (r : IgnoreRule) (path : Names) (isDir : Bool) : Bool :=
  match below? r.domain path with
  | none => false
  | some rest =>
    match r.parts with
    | [pattern] => r.simpleMatch isDir pattern rest
    | _ => r.globMatch isDir rest

/-- The path is left out by the last rule that speaks of it. -/
def excludes (rules : List IgnoreRule) (path : Names) (isDir : Bool) : Bool :=
  match rules.reverse.find? (·.applies path isDir) with
  | some r => !r.keeps
  | none => false

/-! ## Ignore files -/

/-- The rules in the text of an ignore file; blank lines and comments have none. -/
def ofText (content : Text) (domain : Names) : List IgnoreRule :=
  ((splitLines content).map (stripEnd · "\r")).filterMap fun line =>
    if startsWith line "#" || isSpace line then none else some (parse line domain)

/-- The directory that holds the data of a repository. -/
def repositoryDir : Text := ".git"

/-- The ignore files of a directory, in the order in which their rules count. -/
def ignoreFiles : List Names := [[repositoryDir, "info", "exclude"], [".gitignore"]]

/-- The rules of the ignore files of a directory itself; `read` gives the content of the file at a
row of names, if there is one to read. -/
def ownRules (read : Names → Option Text) (domain : Names) : List IgnoreRule :=
  ignoreFiles.flatMap fun file => (read (domain ++ file)).elim [] (ofText · domain)

mutual

/-- The rules of all ignore files in a directory and below it. A directory that is left out by the
rules met before is not read. -/
def ofTree (read : Names → Option Text) (domain : Names) : Entry → List IgnoreRule
  | .directory es => ofEntries read domain (ownRules read domain) es
  | _ => []

def ofEntries (read : Names → Option Text) (domain : Names) (rules : List IgnoreRule) :
    List (Text × Entry) → List IgnoreRule
  | [] => rules
  | (name, e) :: rest =>
    if !e.isDirectory || name == repositoryDir || excludes rules (domain ++ [name]) true then
      ofEntries read domain rules rest
    else ofEntries read domain (rules ++ ofTree read (domain ++ [name]) e) rest

end

end IgnoreRule

end GodotSurvey
