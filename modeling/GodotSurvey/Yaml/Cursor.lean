import GodotSurvey.Text.Utf8

/-!
# Places in a YAML text

Indentation carries meaning in YAML, so a reader has to know at which line and column it stands. A
cursor is the text ahead together with that place. Text is read as characters here, because columns
count characters.
-/

namespace GodotSurvey.Yaml

/-! ## Characters -/

/-- A space or tab. -/
def isWhite (c : Char) : Bool := c == ' ' || c == '\t'

/-- A character that ends a line. -/
def isBreak (c : Char) : Bool :=
  c == '\n' || c == '\r' || c == '\u0085' || c == '\u2028' || c == '\u2029'

/-- A character that ends a word. -/
def isGap (c : Char) : Bool := isWhite c || isBreak c

/-- A character of names. -/
def isNameChar (c : Char) : Bool := c.isAlphanum || c == '_' || c == '-'

/-- A character that a YAML text may hold: no control characters apart from line ends and tabs. -/
def isAllowed (c : Char) : Bool :=
  c == '\t' || c == '\n' || c == '\r' || (0x20 ≤ c.toNat && c.toNat ≤ 0x7E) || c == '\u0085'
    || (0xA0 ≤ c.toNat && c.toNat ≤ 0xFFFD) || 0x10000 ≤ c.toNat

/-! ## Cursors -/

/-- The text ahead, and the place where it begins. -/
structure Cursor where
  rest : List Char
  index : Nat := 0
  line : Nat := 0
  column : Nat := 0
  /-- Nothing but blanks stands between the last line end and this place. -/
  afterBreak : Bool := false

namespace Cursor

def atEnd (c : Cursor) : Bool := c.rest.isEmpty

/-- The next character satisfies the test. -/
def next (c : Cursor) (p : Char → Bool) : Bool := c.rest.head?.any p

/-- The word ahead ends within `n` characters: the one at that distance, if any, ends words. -/
def endsAt (c : Cursor) (n : Nat) : Bool := (c.rest.drop n).head?.all isGap

/-- Goes over `n` characters, none of which ends a line. -/
def advance (c : Cursor) (n : Nat) : Cursor :=
  { c with
    rest := c.rest.drop n
    index := c.index + n
    column := c.column + n
    afterBreak := c.afterBreak && (c.rest.take n).all isWhite }

/-- Goes over one character. -/
def skip (c : Cursor) : Cursor := c.advance 1

/-- Goes over the characters at the front that satisfy the test; none of them ends a line. -/
def skipWhile (p : Char → Bool) (c : Cursor) : Cursor := c.advance (c.rest.takeWhile p).length

/-- What a line end stands for, and the cursor behind it. Both characters of a pair count as one
line end. -/
def takeBreak (c : Cursor) : List Char × Cursor :=
  let after := fun n => { rest := c.rest.drop n, index := c.index + n, line := c.line + 1, afterBreak := true }
  match c.rest with
  | '\r' :: '\n' :: _ => (['\n'], after 2)
  | d :: _ =>
    if d == '\n' || d == '\r' || d == '\u0085' then (['\n'], after 1)
    else if isBreak d then ([d], after 1)
    else ([], c)
  | [] => ([], c)

/-- Goes over a line end, if one is there. -/
def skipBreak (c : Cursor) : Cursor := c.takeBreak.2

/-- Goes over blanks and line ends; the fuel bounds the number of lines. -/
def skipGaps : (fuel : Nat) → Cursor → Cursor
  | 0, c => c
  | fuel + 1, c =>
    let c := c.skipWhile isWhite
    if c.next isBreak then skipGaps fuel c.skipBreak else c

/-- Three marks at the start of a line, as a word of their own: the mark of a document's start or
end. -/
def atMark (c : Cursor) (mark : Char) : Bool :=
  c.column == 0 && c.rest.take 3 == [mark, mark, mark] && c.endsAt 3

/-- The start or end of a document. -/
def atDocumentMark (c : Cursor) : Bool := c.atMark '-' || c.atMark '.'

end Cursor

/-! ## Gaps inside scalars -/

/-- White space inside a scalar: the blanks of a line, or line ends. -/
structure Gap where
  blanks : List Char := []
  broken : Bool := false
  /-- The first line end. -/
  first : List Char := []
  /-- The line ends after the first. -/
  more : List Char := []

/-- What a gap stands for. A single line end is a space, and of several the first does not count. -/
def Gap.text (g : Gap) : List Char :=
  if !g.broken then g.blanks
  else if g.first != ['\n'] then g.first ++ g.more
  else if g.more.isEmpty then [' '] else g.more

/-- Takes white space; the fuel bounds the number of characters. -/
def takeGapFrom (tabStop : Nat) : (fuel : Nat) → Gap → Cursor → Option (Gap × Cursor)
  | 0, g, c => some (g, c)
  | fuel + 1, g, c =>
    match c.rest with
    | [] => some (g, c)
    | d :: _ =>
      if isBreak d then
        let (t, c) := c.takeBreak
        if g.broken then takeGapFrom tabStop fuel { g with more := g.more ++ t } c
        else takeGapFrom tabStop fuel { broken := true, first := t } c
      else if !isWhite d then some (g, c)
      else if g.broken then
        if d == '\t' && c.column < tabStop then none else takeGapFrom tabStop fuel g c.skip
      else takeGapFrom tabStop fuel { g with blanks := g.blanks ++ [d] } c.skip

/-- Takes the white space ahead, behind the gap that was read already. After a line end, a tab before
column `tabStop` is a fault. -/
def takeGap (tabStop : Nat) (g : Gap) (c : Cursor) : Option (Gap × Cursor) :=
  takeGapFrom tabStop (c.rest.takeWhile isGap).length g c

end GodotSurvey.Yaml
