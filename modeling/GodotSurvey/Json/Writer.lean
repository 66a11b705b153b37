import GodotSurvey.Decimal.Shortest
import GodotSurvey.Document.Basic
import GodotSurvey.Text.Utf8

/-!
# Writing JSON

Documents as JSON, on one line or indented. The characters `<`, `>` and `&` and the two Unicode
line separators are escaped, so the text may be put into HTML and scripts; a byte that is not valid
UTF-8 is written as the escaped replacement character.
-/

namespace GodotSurvey.Json

open Text

/-- The number with four hexadecimal digits. -/
def hex4 (n : Nat) : Text := Decimal.padDigits 4 (hexOfNat n)

/-- A code point inside a string literal, given with the bytes it was read from. -/
def escapeRune (p : Nat) (bytes : Text) : Text :=
  if p == 0x22 then "\\\""
  else if p == 0x5C then "\\\\"
  else if p == 0x0A then "\\n"
  else if p == 0x0D then "\\r"
  else if p == 0x09 then "\\t"
  else if p == 0x08 then "\\b"
  else if p == 0x0C then "\\f"
  else if p < 0x20 || p == 0x3C || p == 0x3E || p == 0x26 || p == 0x2028 || p == 0x2029
      || (p == replacementChar && bytes.length == 1) then "\\u" ++ hex4 p
  else bytes

/-- A string literal. -/
def quote (s : Text) : Text :=
  "\"" ++ (runes s).flatMap (fun (p, bytes) => escapeRune p bytes) ++ "\""


/-- How the parts of a value are laid out: the text before each part, the text before the closing
bracket, and the text after a colon. -/
structure Layout where
  unit : Text
  newline : Text
  colonGap : Text

/-- Everything on one line, without blanks. -/
def Layout.compact : Layout := ⟨"", "", ""⟩

/-- One part a line, two spaces for each level. -/
def Layout.indented : Layout := ⟨"  ", "\n", " "⟩

/-- The start of a line at the given depth. -/
def Layout.lineStart (l : Layout) (depth : Nat) : Text := l.newline ++ repeated l.unit depth

/-- Puts written parts between brackets. -/
def Layout.brackets (l : Layout) (depth : Nat) (opening closing : Text) (parts : List Text) : Text :=
  match parts with
  | [] => opening ++ closing
  | parts =>
    opening ++ Text.join "," (parts.map (l.lineStart (depth + 1) ++ ·)) ++ l.lineStart depth ++ closing

/-- A floating-point number; JSON has none for infinities. -/
def writeNumber (x : Float) : Text := if x.isNaN || x.isInf then "null" else Decimal.compactOfFloat x

mutual

def write (l : Layout) (depth : Nat) : Document → Text
  | .null | .missingList => "null"
  | .bool b => if b then "true" else "false"
  | .int n => ofInt n
  | .float x => writeNumber x
  | .text t => quote t
  | .list items => l.brackets depth "[" "]" (writeItems l (depth + 1) items)
  | .record fields => l.brackets depth "\x7b" "\x7d" (writeFields l (depth + 1) fields)
  | .embedded fields => l.brackets depth "\x7b" "\x7d" (writeFields l (depth + 1) fields)

def writeItems (l : Layout) (depth : Nat) : List Document → List Text
  | [] => []
  | d :: ds => write l depth d :: writeItems l depth ds

/-- The written fields; a record that is part of another adds its fields in place. -/
def writeFields (l : Layout) (depth : Nat) : List (Text × Document) → List Text
  | [] => []
  | (_, .embedded inner) :: rest => writeFields l depth inner ++ writeFields l depth rest
  | (k, d) :: rest =>
    (quote k ++ ":" ++ l.colonGap ++ write l depth d) :: writeFields l depth rest

end

/-- A document on one line. -/
def compact (d : Document) : Text := write .compact 0 d

/-- A document over several lines. -/
def indented (d : Document) : Text := write .indented 0 d

end GodotSurvey.Json
