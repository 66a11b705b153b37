import GodotSurvey.Text.Space

/-!
# String literals on a line

A literal runs from a single or double quote to the next unescaped quote of the same kind, or to
the end of the text. `QuoteState` is the automaton that reads a line byte by byte; every scanner
of the library that must not look into literals runs it.

`mask` blanks the contents of literals and keeps everything else, so indices into the masked text
are indices into the text itself.
-/

namespace GodotSurvey.Lexing

open Text

/-- The bytes that open a string literal. -/
def isQuote (c : UInt8) : Bool := c == '"' || c == '\''

/-- Where a reader stands with respect to string literals. -/
inductive QuoteState where
  | outside
  /-- Inside a literal opened by `quote`; `escaped` after a backslash that escapes the next byte. -/
  | inside (quote : UInt8) (escaped : Bool)
  deriving DecidableEq, Repr

namespace QuoteState

/-- The state after reading `c`. -/
def step : QuoteState → UInt8 → QuoteState
  | outside, c => if isQuote c then inside c false else outside
  | inside q true, _ => inside q false
  | inside q false, c =>
    if c == '\\' then inside q true else if c == q then outside else inside q false

def isOutside : QuoteState → Bool
  | outside => true
  | inside _ _ => false

/-- `c`, read in this state, belongs to no literal; quotes belong to theirs. -/
def outer (st : QuoteState) (c : UInt8) : Bool := st.isOutside && !isQuote c

/-- The state after reading a text. -/
def run (st : QuoteState) (s : Text) : QuoteState := s.foldl step st

end QuoteState

/-- For each byte, whether it lies outside all literals. -/
def outsideFrom (st : QuoteState) : Text → List Bool
  | [] => []
  | c :: rest => st.outer c :: outsideFrom (st.step c) rest

/-- For each byte of a line, whether it lies outside all literals. -/
def outside (s : Text) : List Bool := outsideFrom .outside s

def maskFrom (st : QuoteState) : Text → Text
  | [] => []
  | c :: rest =>
    let next := st.step c
    (if st.isOutside || next.isOutside then c else ' ') :: maskFrom next rest

/-- The text with a space for every byte inside a literal; the quotes stay. -/
def mask (s : Text) : Text := maskFrom .outside s

/-- The index of the byte that closes the literal being read, where the text starts at index `i`. -/
def closeLiteralFrom (st : QuoteState) (i : Nat) : Text → Option Nat
  | [] => none
  | c :: rest =>
    let next := st.step c
    if next.isOutside then some i else closeLiteralFrom next (i + 1) rest

/-- The index in `s` of the quote that closes a literal opened by `q` just before `s`. -/
def closeLiteral? (q : UInt8) (s : Text) : Option Nat := closeLiteralFrom (.inside q false) 0 s

/-- Replaces the escape sequences of quotes and backslash by the bytes they stand for. -/
def unescape (s : Text) : Text := replace [("\\\"", "\""), ("\\'", "'"), ("\\\\", "\\")] s

/-- The trimmed text without one pair of equal quotes around it. -/
def unquote (s : Text) : Text :=
  match trim s with
  | [] => []
  | [c] => [c]
  | c :: rest =>
    if isQuote c && rest.getLast? == some c then rest.dropLast else c :: rest

end GodotSurvey.Lexing
