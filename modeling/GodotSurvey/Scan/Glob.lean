import GodotSurvey.Text.Utf8

/-!
# Wildcard patterns

Patterns for single path elements. A star stands for any bytes, a question mark for one character,
a bracketed class for one character of the class, and a backslash takes the next character as it is.
A pattern that is not well formed matches nothing.
-/

namespace GodotSurvey

/-- A part of a pattern. -/
inductive GlobPiece where
  | star
  | any
  | byte (c : UInt8)
  /-- One character in one of the ranges, or in none of them if negated. -/
  | oneOf (negated : Bool) (ranges : List (Nat × Nat))
  deriving DecidableEq, Repr

/-- A well-formed pattern. -/
abbrev Glob := List GlobPiece

namespace Glob

open Text

/-! ## Reading -/

/-- An end of a range, and what follows it, which cannot be empty. -/
def rangeEnd? (s : Text) : Option (Nat × Text) :=
  match s with
  | [] => none
  | c :: rest =>
    if c == '-' || c == ']' then none
    else
      let body := if c == '\\' then rest else s
      match decodeFirst body with
      | none => none
      | some (p, w) =>
        let rest := body.drop w
        if (p == replacementChar && w == 1) || rest.isEmpty then none else some (p, rest)

/-- The ranges of a class up to its closing bracket, and what follows. -/
def ranges? : (fuel : Nat) → List (Nat × Nat) → Text → Option (List (Nat × Nat) × Text)
  | 0, _, _ => none
  | fuel + 1, done, s =>
    if s.head? == some ']' && !done.isEmpty then some (done.reverse, s.drop 1)
    else do
      let (lo, rest) ← rangeEnd? s
      if rest.head? == some '-' then
        let (hi, rest) ← rangeEnd? (rest.drop 1)
        ranges? fuel ((lo, hi) :: done) rest
      else ranges? fuel ((lo, lo) :: done) rest

/-- Reads at most `fuel` pieces. -/
def parseFrom : (fuel : Nat) → Text → Option Glob
  | _, [] => some []
  | 0, _ => none
  | fuel + 1, c :: rest =>
    if c == '*' then (GlobPiece.star :: ·) <$> parseFrom fuel rest
    else if c == '?' then (GlobPiece.any :: ·) <$> parseFrom fuel rest
    else if c == '[' then do
      let negated := rest.head? == some '^'
      let (ranges, rest) ← ranges? rest.length [] (if negated then rest.drop 1 else rest)
      (GlobPiece.oneOf negated ranges :: ·) <$> parseFrom fuel rest
    else if c == '\\' then
      match rest with
      | [] => none
      | d :: rest => (GlobPiece.byte d :: ·) <$> parseFrom fuel rest
    else (GlobPiece.byte c :: ·) <$> parseFrom fuel rest

/-- The pattern that a text denotes, if it is well formed. -/
def parse? (s : Text) : Option Glob := parseFrom s.length s

/-! ## Matching -/

/-- The ends of a text, the text itself first. -/
def tails : Text → List Text
  | [] => [[]]
  | c :: rest => (c :: rest) :: tails rest

/-- The pattern describes the whole text. -/
def describes : Glob → Text → Bool
  | [], s => s.isEmpty
  | .star :: rest, s => (tails s).any (describes rest)
  | .byte c :: rest, s =>
    match s with
    | [] => false
    | d :: s => c == d && describes rest s
  | .any :: rest, s =>
    match decodeFirst s with
    | none => false
    | some (_, w) => describes rest (s.drop w)
  | .oneOf negated ranges :: rest, s =>
    match decodeFirst s with
    | none => false
    | some (p, w) =>
      (ranges.any fun (lo, hi) => lo ≤ p && p ≤ hi) != negated && describes rest (s.drop w)

end Glob

end GodotSurvey
