import GodotSurvey.Text.Basic

/-!
# Base64

Four characters stand for three bytes. The last four may end in one or two `=` and then stand for
fewer bytes. Line ends do not count.
-/

namespace GodotSurvey.Text

/-- The six bits of a character. -/
def sixBits? (c : UInt8) : Option Nat :=
  if isUpper c then some (c.toNat - 65)
  else if isLower c then some (c.toNat - 71)
  else if isDigit c then some (c.toNat + 4)
  else if c == '+' then some 62
  else if c == '/' then some 63
  else none

/-- The bytes of groups of four characters. -/
def base64Groups? : Text → Option Text
  | [] => some []
  | [a, b, c, d] =>
    match sixBits? a, sixBits? b, sixBits? c, sixBits? d with
    | some a, some b, some c, some d => some (triple (((a * 64 + b) * 64 + c) * 64 + d))
    | some a, some b, some c, none =>
      if d == '=' then some ((triple (((a * 64 + b) * 64 + c) * 64)).take 2) else none
    | some a, some b, none, none =>
      if c == '=' && d == '=' then some ((triple ((a * 64 + b) * 4096)).take 1) else none
    | _, _, _, _ => none
  | a :: b :: c :: d :: rest =>
    match sixBits? a, sixBits? b, sixBits? c, sixBits? d, base64Groups? rest with
    | some a, some b, some c, some d, some bytes =>
      some (triple (((a * 64 + b) * 64 + c) * 64 + d) ++ bytes)
    | _, _, _, _, _ => none
  | _ => none
where
  /-- The three bytes of a number. -/
  triple (n : Nat) : Text := [(n / 65536).toUInt8, (n / 256 % 256).toUInt8, (n % 256).toUInt8]

/-- The bytes that a text stands for. -/
def decodeBase64? (s : Text) : Option Text :=
  base64Groups? (s.filter fun c : UInt8 => c != '\n' && c != '\r')

end GodotSurvey.Text
