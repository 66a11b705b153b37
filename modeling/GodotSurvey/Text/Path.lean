import GodotSurvey.Text.Basic

/-!
# Slash-separated paths

The lexical operations on paths: nothing here looks at a file system. `clean` gives each path its
shortest equivalent form, in which `.` and inner `..` segments and doubled slashes are gone.
-/

namespace GodotSurvey.Path

open Text

def isSlash (c : UInt8) : Bool := c == '/'

/-- What follows the last slash. -/
def afterLastSlash (p : Text) : Text := (p.reverse.takeWhile (!isSlash ·)).reverse

/-- The path starts at the root. -/
def isAbsolute (p : Text) : Bool := p.head? == some '/'

/-- The non-empty segments between slashes. -/
def segments (p : Text) : List Text := (splitByte '/' p).filter (!·.isEmpty)

/--
Resolves `.` and `..` among segments; `done` holds the segments kept so far, last first. A `..`
that has nothing to leave is dropped at the root and kept in a relative path.
-/
def resolve (rooted : Bool) : (done : List Text) → List Text → List Text
  | done, [] => done.reverse
  | done, s :: rest =>
    if s == "." then resolve rooted done rest
    else if s == ".." then
      match done with
      | [] => if rooted then resolve rooted [] rest else resolve rooted [".."] rest
      | d :: more =>
        if d == ".." then resolve rooted (".." :: done) rest else resolve rooted more rest
    else resolve rooted (s :: done) rest

/-- The segments of the cleaned path. -/
def cleanSegments (p : Text) : List Text := resolve (isAbsolute p) [] (segments p)

/-- The shortest path that names the same place; the empty path becomes `.`. -/
def clean (p : Text) : Text :=
  let body := Text.join "/" (cleanSegments p)
  if isAbsolute p then "/" ++ body else if body.isEmpty then "." else body

/-- Joins path elements with slashes and cleans the result; empty elements do not count. -/
def join (elements : List Text) : Text :=
  match elements.filter (!·.isEmpty) with
  | [] => []
  | es => clean (Text.join "/" es)

/-- The last element of the path. -/
def base (p : Text) : Text :=
  if p.isEmpty then "."
  else
    match dropEndWhile isSlash p with
    | [] => "/"
    | q => afterLastSlash q

/-- The extension: the last dot of the last element and what follows it. -/
def extension (p : Text) : Text :=
  let name := afterLastSlash p
  match findLastByte? name '.' with
  | some i => name.drop i
  | none => []

/-- All but the last element of the path, cleaned. -/
def parent (p : Text) : Text := clean (p.reverse.dropWhile (!isSlash ·)).reverse

/-- Drops the common beginning of two segment lists. -/
def dropCommon : List Text → List Text → List Text × List Text
  | a :: as, b :: bs => if a == b then dropCommon as bs else (a :: as, b :: bs)
  | as, bs => (as, bs)

/-- The path that leads from `start` to `target`. There is none between an absolute and a relative
path, nor down to a target from a start that leaves through `..` first. -/
def relative? (start target : Text) : Option Text :=
  let b := clean start
  let t := clean target
  if b == t then some "."
  else if isAbsolute b != isAbsolute t then none
  else
    let bs := if b == "." then [] else segments b
    let (up, down) := dropCommon bs (segments t)
    if !down.isEmpty && up.head? == some ".." then none
    else some (Text.join "/" (up.map (fun _ => Text.ofString "..") ++ down))

end GodotSurvey.Path
