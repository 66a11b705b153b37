/-!
# Text as bytes

Scripts, scenes, paths and reports are sequences of bytes: every position in an answer is a byte
offset, and a file need not be valid UTF-8. `Text` is therefore a list of bytes, and a string or
character literal stands for its UTF-8 bytes.

This module has the operations that look at bytes only: order, search, cutting, splitting,
joining and replacing.
-/

namespace GodotSurvey

/-- A byte string. -/
abbrev Text := List UInt8

namespace Text

/-- The UTF-8 bytes of a string. -/
def ofString (s : String) : Text := s.toList.flatMap String.utf8EncodeChar

end Text

instance : Coe String Text := ⟨Text.ofString⟩

/-- An ASCII character stands for its byte. -/
instance byteOfChar : Coe Char UInt8 := ⟨Char.toUInt8⟩

namespace Text

/-! ## Order -/

/-- Lexicographic comparison by bytes. -/
def compare : Text → Text → Ordering
  | [], [] => .eq
  | [], _ :: _ => .lt
  | _ :: _, [] => .gt
  | a :: as, b :: bs => if a < b then .lt else if b < a then .gt else compare as bs

/-- `a` comes before `b` or equals it. -/
def le (a b : Text) : Bool := compare a b != .gt

/-- `a` comes strictly before `b`. -/
def lt (a b : Text) : Bool := compare a b == .lt

/-- The texts in ascending order, equal ones kept. -/
def sort (ts : List Text) : List Text := ts.mergeSort le

/-! ## Byte classes -/

def isDigit (c : UInt8) : Bool := '0' ≤ c && c ≤ '9'

def isLower (c : UInt8) : Bool := 'a' ≤ c && c ≤ 'z'

def isUpper (c : UInt8) : Bool := 'A' ≤ c && c ≤ 'Z'

def isLetter (c : UInt8) : Bool := isLower c || isUpper c

/-- Letters, digits and the underscore: the bytes an identifier is made of. -/
def isIdent (c : UInt8) : Bool := c == '_' || isLower c || isUpper c || isDigit c

/-- A non-empty run of identifier bytes that does not start with a digit. -/
def isIdentifier (s : Text) : Bool :=
  match s with
  | [] => false
  | c :: _ => !isDigit c && s.all isIdent

/-- Space or tab. -/
def isBlank (c : UInt8) : Bool := c == ' ' || c == '\t'

/-! ## Search -/

/-- `s` begins with `p`. -/
def startsWith (s p : Text) : Bool := p.isPrefixOf s

/-- `s` ends with `p`. -/
def endsWith (s p : Text) : Bool := p.isSuffixOf s

/-- The index of the first occurrence of `needle`, where `s` itself starts at index `i`. -/
def findFrom (needle : Text) (i : Nat) : Text → Option Nat
  | [] => if needle.isEmpty then some i else none
  | c :: rest =>
    if needle.isPrefixOf (c :: rest) then some i else findFrom needle (i + 1) rest

/-- The index of the first occurrence of `needle` in `s`. -/
def find? (s needle : Text) : Option Nat := findFrom needle 0 s

/-- The index of the first byte `c` of `s`. -/
def findByte? (s : Text) (c : UInt8) : Option Nat := s.findIdx? (· == c)

/-- The index of the last byte of `s` that satisfies `p`. -/
def findLast? (p : UInt8 → Bool) (s : Text) : Option Nat :=
  (s.reverse.findIdx? p).map (s.length - 1 - ·)

/-- The index of the last byte `c` of `s`. -/
def findLastByte? (s : Text) (c : UInt8) : Option Nat := findLast? (· == c) s

/-- `needle` occurs in `s`. -/
def contains (s needle : Text) : Bool := (find? s needle).isSome

/-- The byte `c` occurs in `s`. -/
def hasByte (s : Text) (c : UInt8) : Bool := s.any (· == c)

/-! ## Cutting -/

/-- The bytes from index `a` up to but not including index `b`. -/
def slice (s : Text) (a b : Nat) : Text := (s.drop a).take (b - a)

/-- What follows `p` in `s`, if `s` begins with `p`. -/
def dropStart? : (s p : Text) → Option Text
  | s, [] => some s
  | [], _ :: _ => none
  | c :: s, d :: p => if c == d then dropStart? s p else none

/-- What precedes `p` in `s`, if `s` ends with `p`. -/
def dropEnd? (s p : Text) : Option Text :=
  if endsWith s p then some (s.take (s.length - p.length)) else none

/-- `s` without a leading `p`. -/
def stripStart (s p : Text) : Text := (dropStart? s p).getD s

/-- `s` without a trailing `p`. -/
def stripEnd (s p : Text) : Text := (dropEnd? s p).getD s

/-- `s` without its longest suffix of bytes that satisfy `p`. -/
def dropEndWhile (p : UInt8 → Bool) (s : Text) : Text := (s.reverse.dropWhile p).reverse

/-- The texts before and after the first `sep`, if there is one. -/
def cut? (s sep : Text) : Option (Text × Text) :=
  (find? s sep).map fun i => (s.take i, s.drop (i + sep.length))

/-! ## Splitting and joining -/

/-- The pieces between the bytes `sep`; there is always at least one. -/
def splitByte (sep : UInt8) : Text → List Text
  | [] => [[]]
  | c :: rest =>
    if c == sep then [] :: splitByte sep rest
    else match splitByte sep rest with
      | [] => [[c]]
      | piece :: pieces => (c :: piece) :: pieces

/-- The lines between line feeds. -/
def splitLines (s : Text) : List Text := splitByte '\n' s

/-- The texts with `sep` between neighbours. -/
def join (sep : Text) : List Text → Text
  | [] => []
  | [t] => t
  | t :: ts => t ++ sep ++ join sep ts

/-- `n` copies of `s` in a row. -/
def repeated (s : Text) (n : Nat) : Text := (List.replicate n s).flatten

/-- The text if the condition holds, else nothing. -/
def onlyIf (b : Bool) (s : Text) : Text := if b then s else []

/-- Each text followed by a line feed. -/
def lines (ts : List Text) : Text := ts.flatMap (· ++ "\n")

/-! ## Replacing -/

/-- The first pair of `table` whose left side begins `s`. -/
def firstMatch? (table : List (Text × Text)) (s : Text) : Option (Text × Text) :=
  table.find? fun p => startsWith s p.1

/--
Reads `s` from left to right; where a left side of `table` begins (the first one in table order
counts), its right side is written instead and reading goes on behind it. `skip` bytes still
belong to the left side found last.
-/
def replaceFrom (table : List (Text × Text)) : (skip : Nat) → Text → Text
  | _, [] => []
  | n + 1, _ :: rest => replaceFrom table n rest
  | 0, c :: rest =>
    match firstMatch? table (c :: rest) with
    | some (old, new) => new ++ replaceFrom table (old.length - 1) rest
    | none => c :: replaceFrom table 0 rest

/-- Replaces every left side of `table` by its right side in one pass; left sides are not empty. -/
def replace (table : List (Text × Text)) (s : Text) : Text := replaceFrom table 0 s

/-- Replaces every occurrence of the non-empty text `old`. -/
def replaceAll (s old new : Text) : Text := replace [(old, new)] s

/-! ## Lists of texts -/

/-- `ts` followed by `t`, unless `t` is there already. -/
def insertNew (ts : List Text) (t : Text) : List Text := if ts.contains t then ts else ts ++ [t]

/-- Each text of the list once, at the place of its first occurrence. -/
def dedup (ts : List Text) : List Text := ts.foldl insertNew []

end Text

end GodotSurvey
