import GodotSurvey.Text.Case
import GodotSurvey.Text.Letter
import GodotSurvey.Text.Space
import GodotSurvey.Text.Width

/-!
# Tables as text

A table in columns as wide as their widest cell. The header is written in capitals, word by word. A
rule stands below it if anything follows, and above the footer if anything comes before. A cell with
several lines takes several lines of the table; a row without cells takes none, and an empty line in
all cells of a row is left out unless it is the first.
-/

namespace GodotSurvey.TextTable

open Text

/-! ## Header words -/

/-- The classes of characters between which a header is split into words. -/
inductive CharClass where
  | lower
  | upper
  | digit
  | other
  deriving DecidableEq, Repr

def classOf (p : Nat) : CharClass :=
  if isSmallLetter p then .lower
  else if isCapitalLetter p then .upper
  else if isDecimalDigit p then .digit
  else .other

/-- The maximal runs of characters of one class. -/
def classRuns : List Nat → List (CharClass × List Nat)
  | [] => []
  | p :: rest =>
    match classRuns rest with
    | (c, run) :: more => if classOf p == c then (c, p :: run) :: more else (classOf p, [p]) :: (c, run) :: more
    | [] => [(classOf p, [p])]

/-- Moves the last capital before small letters to them: a word begins with it. -/
def joinCapitals : List (CharClass × List Nat) → List (List Nat)
  | (.upper, us) :: (.lower, ls) :: rest =>
    us.dropLast :: (us.getLast?.toList ++ ls) :: joinCapitals rest
  | (_, run) :: rest => run :: joinCapitals rest
  | [] => []

/-- The words of a header. -/
def headerWords (s : Text) : List Text :=
  if !isValidUtf8 s then [s]
  else ((joinCapitals (classRuns (codePoints s))).map fun run => run.flatMap encode).filter
    fun w => !isSpace w && w != "_"

/-- A digit or a space. -/
def isNumericOrSpace (p : Nat) : Bool := (48 ≤ p && p ≤ 57) || p == 32

/-- Underscores become spaces, and so do dots that do not stand between digits. `before` is the
character before the text. -/
def loosen (before : Option Nat) : List Nat → List Nat
  | [] => []
  | p :: rest =>
    let q :=
      if p == 0x5F then 32
      else if p == 0x2E
          && (before.any (!isNumericOrSpace ·) || rest.head?.any (!isNumericOrSpace ·)) then 32
      else p
    q :: loosen (some q) rest

/-- A header cell in capitals. -/
def headerCell (s : Text) : Text :=
  let joined := Text.join " " (headerWords s)
  let title := trim ((loosen none (codePoints joined)).flatMap encode)
  if title.isEmpty && !joined.isEmpty then " " else upper title

/-! ## Layout -/

/-- The number of lines that a row takes. -/
def rowHeight (row : List Text) : Nat := (row.map fun c => (splitLines c).length).foldl max 0

/-- The cells of each line of a row. -/
def rowLines (columns : Nat) (row : List Text) : List (List Text) :=
  (List.range (rowHeight row)).map fun i =>
    (List.range columns).map fun j => ((splitLines (row.getD j [])).getD i [])

/-- The cells of each line of a row between header and footer: lines behind the first that hold
nothing are left out. -/
def bodyLines (columns : Nat) (row : List Text) : List (List Text) :=
  match rowLines columns row with
  | [] => []
  | first :: more => first :: more.filter fun line => line.any (!·.isEmpty)

/-- The width of a column. -/
def columnWidth (rows : List (List Text)) (j : Nat) : Nat :=
  (rows.map fun row => ((splitLines (row.getD j [])).map displayWidth).foldl max 0).foldl max 0

/-- A cell with a space on both sides, filled up to the width of its column. It is filled up once
more as a whole, because a character at either end of the cell can form a cluster with a space. -/
def writeCell (width : Nat) (cell : Text) : Text := padTo (width + 2) (" " ++ padTo width cell ++ " ")

/-- One line of the table. -/
def writeLine (widths : List Nat) (cells : List Text) : Text :=
  ((widths.zip cells).map fun (w, c) => writeCell w c).flatten ++ Text.ofString "\n"

/-- A rule over the full width. -/
def rule (widths : List Nat) : Text :=
  repeated "─" ((widths.map (· + 2)).foldl (· + ·) 0) ++ "\n"

/-- The whole table. -/
def render (headers : List Text) (rows : List (List Text)) (footer : List Text) : Text :=
  let header := headers.map headerCell
  let all := header :: footer :: rows
  let columns := (all.map List.length).foldl max 0
  let widths := (List.range columns).map (columnWidth all)
  let write := fun lines => lines.flatMap (writeLine widths)
  let ruleIf := fun b => if b then rule widths else []
  write (rowLines columns header)
    ++ ruleIf (!headers.isEmpty && !(rows.isEmpty && footer.isEmpty))
    ++ rows.flatMap (fun row => write (bodyLines columns row))
    ++ ruleIf (!footer.isEmpty && !(rows.isEmpty && headers.isEmpty))
    ++ write (rowLines columns footer)

end GodotSurvey.TextTable
