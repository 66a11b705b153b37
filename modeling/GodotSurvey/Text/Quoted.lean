import GodotSurvey.Decimal.Binary
import GodotSurvey.Text.Utf8
import GodotSurvey.Text.Visible

/-!
# Quoted texts in messages

A text between double quotes as messages show it: backslashes and quotes are escaped, and so is what
cannot be seen.
-/

namespace GodotSurvey.Text

/-- The characters that have an escape of their own, with its letter. -/
def quotedEscapes : List (Nat × Char) :=
  [(7, 'a'), (8, 'b'), (12, 'f'), (10, 'n'), (13, 'r'), (9, 't'), (11, 'v'), (0x22, '"'),
    (0x5C, '\\')]

/-- A character inside quotes, given with the bytes it was read from. -/
def quotedRune (p : Nat) (bytes : Text) : Text :=
  match quotedEscapes.lookup p with
  | some c => "\\" ++ [c.toUInt8]
  | none =>
    if p == replacementChar && bytes.length == 1 then "\\x" ++ bytes.flatMap hexOfByte
    else if isVisible p then bytes
    else if p < 0x80 then "\\x" ++ bytes.flatMap hexOfByte
    else if p < 0x10000 then "\\u" ++ Decimal.padDigits 4 (hexOfNat p)
    else "\\U" ++ Decimal.padDigits 8 (hexOfNat p)

/-- The text between quotes. -/
def quoted (s : Text) : Text :=
  "\"" ++ (runes s).flatMap (fun (p, bytes) => quotedRune p bytes) ++ "\""

end GodotSurvey.Text
