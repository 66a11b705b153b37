import GodotSurvey.Text.Basic

/-!
# Code points of UTF-8 text

Decoding never fails: a byte that does not take part in a valid sequence counts as one replacement
character. Overlong forms, surrogates and values above U+10FFFF are not valid.
-/

namespace GodotSurvey.Text

/-- The replacement character U+FFFD. -/
def replacementChar : Nat := 0xFFFD

/-- A continuation byte. -/
def isContinuation (c : UInt8) : Bool := 0x80 ≤ c && c ≤ 0xBF

/-- The code point that begins the text and its number of bytes; an invalid byte stands alone. -/
def decodeFirst : Text → Option (Nat × Nat)
  | [] => none
  | a :: rest =>
    let invalid := some (replacementChar, 1)
    if a < 0x80 then some (a.toNat, 1)
    else match rest with
      | [] => invalid
      | b :: rest =>
        if 0xC2 ≤ a && a ≤ 0xDF then
          if isContinuation b then some ((a.toNat % 32) * 64 + b.toNat % 64, 2) else invalid
        else match rest with
          | [] => invalid
          | c :: rest =>
            if 0xE0 ≤ a && a ≤ 0xEF then
              let lo : UInt8 := if a == 0xE0 then 0xA0 else 0x80
              let hi : UInt8 := if a == 0xED then 0x9F else 0xBF
              if lo ≤ b && b ≤ hi && isContinuation c then
                some ((a.toNat % 16) * 4096 + (b.toNat % 64) * 64 + c.toNat % 64, 3)
              else invalid
            else match rest with
              | [] => invalid
              | d :: _ =>
                let lo : UInt8 := if a == 0xF0 then 0x90 else 0x80
                let hi : UInt8 := if a == 0xF4 then 0x8F else 0xBF
                if 0xF0 ≤ a && a ≤ 0xF4 && lo ≤ b && b ≤ hi
                    && isContinuation c && isContinuation d then
                  some ((a.toNat % 8) * 262144 + (b.toNat % 64) * 4096 + (c.toNat % 64) * 64
                    + d.toNat % 64, 4)
                else invalid

/-- The decoded code points with their bytes; `skip` bytes belong to the one found last. -/
def runesFrom : (skip : Nat) → Text → List (Nat × Text)
  | _, [] => []
  | n + 1, _ :: rest => runesFrom n rest
  | 0, c :: rest =>
    match decodeFirst (c :: rest) with
    | some (p, w) => (p, (c :: rest).take w) :: runesFrom (w - 1) rest
    | none => []

/-- The code points of the text, each with the bytes it was read from. -/
def runes (s : Text) : List (Nat × Text) := runesFrom 0 s

/-- The code points of the text. -/
def codePoints (s : Text) : List Nat := (runes s).map (·.1)

/-- The UTF-8 bytes of a code point; the replacement character's for a number that is none. -/
def encode (p : Nat) : Text :=
  if p < 0x80 then [p.toUInt8]
  else if p < 0x800 then [(0xC0 + p / 64).toUInt8, (0x80 + p % 64).toUInt8]
  else if (0xD800 ≤ p && p < 0xE000) || 0x110000 ≤ p then [0xEF, 0xBF, 0xBD]
  else if p < 0x10000 then
    [(0xE0 + p / 4096).toUInt8, (0x80 + p / 64 % 64).toUInt8, (0x80 + p % 64).toUInt8]
  else
    [(0xF0 + p / 262144).toUInt8, (0x80 + p / 4096 % 64).toUInt8,
      (0x80 + p / 64 % 64).toUInt8, (0x80 + p % 64).toUInt8]

/-- Every invalid byte replaced by the replacement character. -/
def validUtf8 (s : Text) : Text := (codePoints s).flatMap encode

/-- The text as a string, invalid bytes as replacement characters. -/
def toString (s : Text) : String := String.ofList ((codePoints s).map Char.ofNat)

/-- The number of code points. -/
def runeCount (s : Text) : Nat := (runes s).length

/-- Every byte sequence of the text is valid UTF-8. -/
def isValidUtf8 (s : Text) : Bool :=
  (runes s).all fun (p, bytes) => p != replacementChar || bytes.length == 3

end GodotSurvey.Text
