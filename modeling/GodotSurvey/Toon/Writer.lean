import GodotSurvey.Decimal.Shortest
import GodotSurvey.Document.Basic
import GodotSurvey.Text.Letter
import GodotSurvey.Text.Space
import GodotSurvey.Text.Utf8

/-!
# Writing TOON

Documents in a line-oriented notation for language models. Lists say how long they are, a list of
like records becomes a table with one row a line, and texts are quoted only where they could be taken
for something else. Control characters other than line ends and tabs cannot be written.
-/

namespace GodotSurvey.Toon

open Text

/-! ## Plain values -/

/-- A run of digits. -/
def isDigits (s : Text) : Bool := !s.isEmpty && s.all isDigit

/-- The text has the form of a number: digits, maybe with a sign, a fraction and an exponent. -/
def looksLikeNumber (s : Text) : Bool :=
  let body := stripStart s "-"
  let whole := body.takeWhile isDigit
  let rest := body.drop whole.length
  let (hasFraction, fraction, rest) := match rest with
    | 0x2E :: more =>
      let digits := more.takeWhile isDigit
      (true, digits, more.drop digits.length)
    | _ => (false, [], rest)
  let exponentOk := match rest with
    | [] => true
    | c :: more =>
      (c == 'e' || c == 'E')
        && isDigits (match more with
          | d :: ds => if d == '+' || d == '-' then ds else more
          | [] => [])
  isDigits whole && (!hasFraction || isDigits fraction) && exponentOk

/-- The text would be read as something else, or not at all, without quotes. -/
def needsQuotes (s : Text) : Bool :=
  s.isEmpty || trim s != s || [Text.ofString "true", "false", "null"].contains s
    || looksLikeNumber s || startsWith s "-" || s.any (hasByte ",:\"\\[]\x7b\x7d\n\r\t" ·)

def escapeByte (c : UInt8) : Text :=
  if c == '\\' then "\\\\"
  else if c == '"' then "\\\""
  else if c == '\n' then "\\n"
  else if c == '\r' then "\\r"
  else if c == '\t' then "\\t"
  else [c]

def quote (s : Text) : Text := "\"" ++ s.flatMap escapeByte ++ "\""

def plainText (s : Text) : Text := if needsQuotes s then quote s else s

/-- A character that a name may begin with: a letter of any script, or an underscore. -/
def startsKey (p : Nat) : Bool := p == 0x5F || isAnyLetter p

/-- A character that a name may go on with: also a digit of any script, or a dot. -/
def continuesKey (p : Nat) : Bool := startsKey p || p == 0x2E || isDecimalDigit p

/-- A name that needs no quotes. -/
def isPlainKey (s : Text) : Bool :=
  match codePoints s with
  | [] => false
  | p :: rest => startsKey p && rest.all continuesKey

def key (s : Text) : Text := if isPlainKey s then s else quote s

/-- The name before the length of a list, where the empty name is left out. -/
def listKey (s : Text) : Text := if s.isEmpty then [] else key s

/-- A value that is neither list nor record, as text. -/
def plain? : Document → Option Text
  | .null => some "null"
  | .bool b => some (if b then "true" else "false")
  | .int n => some (ofInt n)
  | .float x =>
    some (if x.isNaN || x.isInf then "null" else if x == 0 then "0" else Decimal.plainOfFloat x)
  | .text t => some (plainText t)
  | _ => none

/-! ## Lists -/

/-- The fields of a record. -/
def fields? : Document → Option (List (Text × Document))
  | .record fs => some fs
  | .embedded fs => some fs
  | _ => none

/-- The names and the plain values of a record without lists and records. -/
def plainFields? (d : Document) : Option (List Text × List Text) := do
  let fs ← fields? d
  let values ← fs.mapM fun f => plain? f.2
  return (fs.map (·.1), values)

/-- The columns and rows of a list of records with the same fields, all of them plain. -/
def table? (items : List Document) : Option (List Text × List (List Text)) :=
  match items.mapM plainFields? with
  | none | some [] => none
  | some ((names, row) :: rest) =>
    if names.isEmpty || !rest.all (·.1 == names) then none
    else some (names, row :: rest.map (·.2))

/-- The number of items between brackets. -/
def countMark (items : List Document) : Text := "[" ++ ofNat items.length ++ "]"

/-- The start of a line at the given depth. -/
def indent (depth : Nat) : Text := repeated "  " depth

/-- A line at the given depth. -/
def line (depth : Nat) (s : Text) : Text := indent depth ++ s

/-- The lines of a list. `lead` stands before the number of items on the first line, which is at
`depth`, and `below` are the lines of the items one by one, for a list that is neither plain nor a
table. -/
def listLines (depth : Nat) (lead : Text) (items : List Document) (below : List Text) : List Text :=
  let head := lead ++ countMark items
  if items.isEmpty then [line depth (head ++ ":")]
  else match items.mapM plain? with
    | some values => [line depth (head ++ ": " ++ Text.join "," values)]
    | none =>
      match table? items with
      | some (names, rows) =>
        line depth (head ++ "\x7b" ++ Text.join "," (names.map key) ++ "\x7d:")
          :: rows.map fun row => line (depth + 1) (Text.join "," row)
      | none => line depth (head ++ ":") :: below

mutual

/-- The lines of a named value. `lead` stands before the name on its line, which is at `depth`. -/
def fieldLines (depth : Nat) (lead name : Text) : Document → List Text
  | .list items => listLines depth (lead ++ listKey name) items (itemLines (depth + 1) items)
  | .record fs => line depth (lead ++ key name ++ ":") :: recordLines (depth + 1) fs
  | .embedded fs => line depth (lead ++ key name ++ ":") :: recordLines (depth + 1) fs
  | .missingList => listLines depth (lead ++ listKey name) [] []
  | d => [line depth (lead ++ key name ++ ": " ++ (plain? d).getD [])]

/-- The lines of the fields of a record. -/
def recordLines (depth : Nat) : List (Text × Document) → List Text
  | [] => []
  | (k, d) :: rest => fieldLines depth [] k d ++ recordLines depth rest

/-- The lines of items, each behind a dash. -/
def itemLines (depth : Nat) : List Document → List Text
  | [] => []
  | d :: rest => itemLine depth d ++ itemLines depth rest

/-- The lines of one item. -/
def itemLine (depth : Nat) : Document → List Text
  | .list items => listLines depth "- " items (itemLines (depth + 1) items)
  | .record fs => recordItem depth fs
  | .embedded fs => recordItem depth fs
  | .missingList => listLines depth "- " [] []
  | d => [line depth ("- " ++ (plain? d).getD [])]

/-- The lines of a record as an item. Its first field stands on the line of the dash, unless it is a
record itself. -/
def recordItem (depth : Nat) : List (Text × Document) → List Text
  | [] => [line depth "- \x7b\x7d"]
  | (k, d) :: rest =>
    match fields? d with
    | some _ => line depth "-" :: (fieldLines (depth + 1) [] k d ++ recordLines (depth + 1) rest)
    | none => fieldLines depth "- " k d ++ recordLines (depth + 1) rest

end

/-- The lines of a whole document. -/
def documentLines : Document → List Text
  | .record fs => recordLines 0 fs
  | .embedded fs => recordLines 0 fs
  | .list items => listLines 0 [] items (itemLines 1 items)
  | .missingList => listLines 0 [] [] []
  | d => [(plain? d).getD []]

/-! ## What cannot be written -/

/-- A control character that has no escape. -/
structure BadCharacter where
  codePoint : Nat
  deriving DecidableEq, Repr

/-- The code point with at least four upper-case hexadecimal digits. -/
def hexUpper (n : Nat) : Text :=
  let digits := (Nat.toDigits 16 n).map fun c => c.toUpper.toUInt8
  List.replicate (4 - digits.length) 48 ++ digits

def BadCharacter.message (e : BadCharacter) : Text :=
  "toon: unsupported control character U+" ++ hexUpper e.codePoint ++ " in string"

/-- The first bad character of a text. -/
def badCharacter? (s : Text) : Option BadCharacter :=
  (List.find? (fun c : UInt8 => c < 0x20 && !hasByte "\n\r\t" c) s).map fun c => ⟨c.toNat⟩

mutual

/-- The first bad character of a document. -/
def firstBad? : Document → Option BadCharacter
  | .text t => badCharacter? t
  | .list items => firstBadItem? items
  | .record fs => firstBadField? fs
  | .embedded fs => firstBadField? fs
  | _ => none

def firstBadItem? : List Document → Option BadCharacter
  | [] => none
  | d :: rest => (firstBad? d).or (firstBadItem? rest)

def firstBadField? : List (Text × Document) → Option BadCharacter
  | [] => none
  | (k, d) :: rest => (badCharacter? k).or ((firstBad? d).or (firstBadField? rest))

end

/-- The text of a document. -/
def write (d : Document) : Except BadCharacter Text :=
  match firstBad? d with
  | some e => .error e
  | none => .ok (Text.join "\n" (documentLines d))

end GodotSurvey.Toon
