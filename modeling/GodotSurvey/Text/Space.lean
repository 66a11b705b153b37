import GodotSurvey.Text.Basic

/-!
# White space

White space is the Unicode property of that name, recognised in UTF-8 text. Each such character
is one byte, or one of a few two- and three-byte sequences, and no other character's encoding
begins or ends with one of them, so leading and trailing white space can be found by looking at
bytes alone.
-/

namespace GodotSurvey.Text

/-- The number of bytes of the white space character that begins the text, 0 if none does. -/
def spaceWidth : Text → Nat
  | [] => 0
  | c :: rest =>
    if c == ' ' || (9 ≤ c && c ≤ 13) then 1
    else match c, rest with
      | 0xC2, d :: _ => if d == 0x85 || d == 0xA0 then 2 else 0
      | 0xE1, 0x9A :: 0x80 :: _ => 3
      | 0xE2, 0x80 :: d :: _ =>
        if (0x80 ≤ d && d ≤ 0x8A) || d == 0xA8 || d == 0xA9 || d == 0xAF then 3 else 0
      | 0xE2, 0x81 :: 0x9F :: _ => 3
      | 0xE3, 0x80 :: 0x80 :: _ => 3
      | _, _ => 0

/-- The same for the end of a text, whose bytes are given last first. -/
def spaceWidthReversed (r : Text) : Nat :=
  if spaceWidth (r.take 1) == 1 then 1
  else if spaceWidth (r.take 2).reverse == 2 then 2
  else if spaceWidth (r.take 3).reverse == 3 then 3
  else 0

/-- Drops leading white space; `skip` bytes still belong to the character found last. -/
def trimStartFrom : (skip : Nat) → Text → Text
  | _, [] => []
  | n + 1, _ :: rest => trimStartFrom n rest
  | 0, c :: rest =>
    match spaceWidth (c :: rest) with
    | 0 => c :: rest
    | n + 1 => trimStartFrom n rest

/-- The text without leading white space. -/
def trimStart (s : Text) : Text := trimStartFrom 0 s

/-- Drops white space at the front of reversed bytes. -/
def trimEndFrom : (skip : Nat) → Text → Text
  | _, [] => []
  | n + 1, _ :: rest => trimEndFrom n rest
  | 0, c :: rest =>
    match spaceWidthReversed (c :: rest) with
    | 0 => c :: rest
    | n + 1 => trimEndFrom n rest

/-- The text without trailing white space. -/
def trimEnd (s : Text) : Text := (trimEndFrom 0 s.reverse).reverse

/-- The text without white space at either end. -/
def trim (s : Text) : Text := trimEnd (trimStart s)

/-- `s` consists of white space only. -/
def isSpace (s : Text) : Bool := (trimStart s).isEmpty

/--
The words of the text: `word` holds the bytes of the word being read, last byte first, and
`skip` bytes still belong to the white space character found last.
-/
def wordsFrom : (skip : Nat) → (word : Text) → Text → List Text
  | _, word, [] => if word.isEmpty then [] else [word.reverse]
  | n + 1, word, _ :: rest => wordsFrom n word rest
  | 0, word, c :: rest =>
    match spaceWidth (c :: rest) with
    | 0 => wordsFrom 0 (c :: word) rest
    | n + 1 => if word.isEmpty then wordsFrom n [] rest else word.reverse :: wordsFrom n [] rest

/-- The maximal runs without white space. -/
def words (s : Text) : List Text := wordsFrom 0 [] s

/-- The last of the words, or nothing. -/
def lastWord (s : Text) : Text := (words s).getLastD []

end GodotSurvey.Text
