import GodotSurvey.Yaml.Scalar
import GodotSurvey.Yaml.Token

/-!
# The tokens of a YAML text

The scanner goes through a text from token to token. A column that is deeper than the block around it
opens a block, and one that is less deep closes blocks. Where a key may begin without a mark of its
own, the place is remembered; if a colon follows on the same line, the key's token goes there.
-/

namespace GodotSurvey.Yaml

/-- A place where a key may have begun: the number of tokens before it, and where it stands. In a
block, what begins at the block's own column has to be a key. -/
structure KeyPlace where
  count : Nat
  index : Nat
  line : Nat
  column : Nat
  required : Bool

structure Scanner where
  cursor : Cursor
  /-- The tokens found, the last one first. -/
  tokens : List Token := []
  /-- The column of the block around the cursor; -1 outside of all blocks. -/
  indent : Int := -1
  /-- The columns of the blocks around that one. -/
  outer : List Int := []
  /-- The place of a possible key, for each open bracket and last for none. -/
  places : List (Option KeyPlace) := [none]
  /-- A key may begin here. -/
  keyAllowed : Bool := true

namespace Scanner

/-- The cursor is inside brackets. -/
def inFlow (s : Scanner) : Bool := 1 < s.places.length

def push (t : Token) (s : Scanner) : Scanner := { s with tokens := t :: s.tokens }

/-- Puts a token behind the first `n` ones. -/
def insert (n : Nat) (t : Token) (s : Scanner) : Scanner :=
  let after := s.tokens.length - n
  { s with tokens := s.tokens.take after ++ t :: s.tokens.drop after }

/-- Adds a token of `n` characters. -/
def mark (n : Nat) (t : Token) (s : Scanner) : Scanner :=
  { s.push t with cursor := s.cursor.advance n }

/-! ## Blocks -/

/-- Opens a block at a column that is deeper than the block around; its token goes behind the first
`n` ones. -/
def openBlock (column n : Nat) (t : Token) (s : Scanner) : Scanner :=
  if !s.inFlow && s.indent < column then
    { s.insert n t with indent := column, outer := s.indent :: s.outer }
  else s

/-- Opens a block at the cursor. -/
def openBlockHere (t : Token) (s : Scanner) : Scanner :=
  s.openBlock s.cursor.column s.tokens.length t

/-- The blocks that stay open at a column, and the number of those that end. -/
def blocksAt (column indent : Int) : List Int → Nat × Int × List Int
  | [] => (0, indent, [])
  | i :: is =>
    if column < indent then
      let (n, indent, outer) := blocksAt column i is
      (n + 1, indent, outer)
    else (0, indent, i :: is)

/-- Ends the blocks that are deeper than a column. -/
def closeBlocks (column : Int) (s : Scanner) : Scanner :=
  if s.inFlow then s
  else
    let (n, indent, outer) := blocksAt column s.indent s.outer
    { s with tokens := List.replicate n .blockEnd ++ s.tokens, indent, outer }

/-! ## Places of keys -/

def setPlace (p : Option KeyPlace) (s : Scanner) : Scanner := { s with places := p :: s.places.tail }

/-- Gives up the place of a possible key; a required key is missed. -/
def dropPlace? (s : Scanner) : Option Scanner :=
  match s.places with
  | some p :: _ => if p.required then none else some (s.setPlace none)
  | _ => some s

/-- Remembers the cursor as the place of a possible key, if one may begin here. -/
def savePlace? (s : Scanner) : Option Scanner :=
  if !s.keyAllowed then some s
  else s.dropPlace?.map fun s => s.setPlace (some {
    count := s.tokens.length, index := s.cursor.index, line := s.cursor.line
    column := s.cursor.column, required := !s.inFlow && s.indent == s.cursor.column })

/-- The place of a key that ends at the cursor: it must be on this line, and not too far away. A
required key that is not is a fault. -/
def keyPlace? (s : Scanner) : Option (Option KeyPlace) :=
  match s.places with
  | some p :: _ =>
    if p.line == s.cursor.line && s.cursor.index ≤ p.index + 1024 then some (some p)
    else if p.required then none else some none
  | _ => some none

/-! ## White space -/

/-- Goes over a comment and those that follow it, with the white space between them; the fuel bounds
their number. -/
def skipComments : (fuel : Nat) → Cursor → Cursor
  | 0, c => c
  | fuel + 1, c =>
    let c := c.skipWhile (!isBreak ·)
    let gap := c.rest.takeWhile isGap
    if gap.length < 512 && (c.rest.drop gap.length).head? == some '#' then
      skipComments fuel (c.skipGaps (gap.length + 1))
    else c

/-- Goes to the next token. A tab is not for indentation, so it counts as white space only where no
key may begin. -/
def skipSpace : (fuel : Nat) → Scanner → Scanner
  | 0, s => s
  | fuel + 1, s =>
    let c := if s.cursor.column == 0 && s.cursor.next (· == '\uFEFF') then s.cursor.skip else s.cursor
    let tabs := s.inFlow || !s.keyAllowed
    let c := c.skipWhile fun d => d == ' ' || (tabs && d == '\t')
    let c := if c.next (· == '#') then skipComments (fuel + 1) c else c
    if c.next isBreak then
      skipSpace fuel { s with cursor := c.skipBreak, keyAllowed := s.keyAllowed || !s.inFlow }
    else { s with cursor := c }

/-- Goes over a comment behind a token on its line. -/
def skipLineComment (s : Scanner) : Scanner :=
  let blanks := s.cursor.rest.takeWhile isWhite
  if !s.cursor.afterBreak && s.tokens.head? != some .item && blanks.length < 512
      && (s.cursor.rest.drop blanks.length).head? == some '#' then
    { s with cursor := s.cursor.skipWhile (!isBreak ·) }
  else s

/-! ## Tags and directives -/

/-- The characters of tags. -/
def isTagChar (c : Char) : Bool := isNameChar c || ";/?:@&=+$,.!~*'()[]%".toList.contains c

/-- The bytes of an escaped character of a tag: as many escapes as its first byte asks for. -/
def tagEscape? (s : List Char) : Option (Text × Nat) :=
  let byte? := fun (k : Nat) =>
    match s.drop (3 * k) with
    | '%' :: a :: b :: _ =>
      if a.toNat < 128 && b.toNat < 128 then (Text.parseNat? 16 [a.toUInt8, b.toUInt8]).map Nat.toUInt8 else none
    | _ => none
  match byte? 0 with
  | none => none
  | some a =>
    let width := if a < 0x80 then 1 else if a < 0xC0 then 0 else if a < 0xE0 then 2
      else if a < 0xF0 then 3 else if a < 0xF8 then 4 else 0
    if width == 0 then none
    else match ((List.range width).drop 1).mapM byte? with
      | none => none
      | some bs => if bs.all Text.isContinuation then some (a :: bs, 3 * width) else none

/-- Takes the characters of a tag; `skip` of them belong to the escape read last. -/
def takeTag : (skip : Nat) → List Char → Option (Text × Nat)
  | _, [] => some ([], 0)
  | n + 1, _ :: rest => (takeTag n rest).map fun (t, k) => (t, k + 1)
  | 0, c :: rest =>
    if !isTagChar c then some ([], 0)
    else if c == '%' then
      match tagEscape? (c :: rest) with
      | some (b, n) => (takeTag (n - 1) rest).map fun (t, k) => (b ++ t, k + 1)
      | none => none
    else (takeTag 0 rest).map fun (t, k) => (c.toUInt8 :: t, k + 1)

/-- The bytes of characters. -/
def textOf (s : List Char) : Text := s.flatMap fun c => Text.encode c.toNat

/-- Takes the handle of a tag: an exclamation mark, or a name between two of them. -/
def tagHandle (s : List Char) : List Char :=
  let name := (s.drop 1).takeWhile isNameChar
  let closed := (s.drop (name.length + 1)).head? == some '!'
  s.take (name.length + (if closed then 2 else 1))

/-- Reads a tag: between angle brackets as it is, or behind a handle. -/
def readTag? (c : Cursor) : Option (Token × Cursor) :=
  let read : Option (Token × Nat) :=
    if c.rest.take 2 == ['!', '<'] then
      match takeTag 0 (c.rest.drop 2) with
      | some (t, n) =>
        if n != 0 && (c.rest.drop (n + 2)).head? == some '>' then some (.tag [] t, n + 3) else none
      | none => none
    else
      let handle := tagHandle c.rest
      match takeTag 0 (c.rest.drop handle.length) with
      | none => none
      | some (t, n) =>
        if 1 < handle.length && handle.getLast? == some '!' then
          if n == 0 then none else some (.tag (textOf handle) t, handle.length + n)
        else
          let suffix := textOf (handle.drop 1) ++ t
          if suffix.isEmpty then some (.tag [] "!", handle.length)
          else some (.tag "!" suffix, handle.length + n)
  match read with
  | some (t, n) => if c.endsAt n then some (t, c.advance n) else none
  | none => none

/-- Takes a version number of at most two digits. -/
def takeNumber? (c : Cursor) : Option (Nat × Cursor) :=
  let digits := c.rest.takeWhile Char.isDigit
  if digits.isEmpty || 2 < digits.length then none
  else some (Text.digitsValue 10 (digits.map Char.toUInt8), c.advance digits.length)

/-- Reads the content of a directive behind its name. -/
def readDirective? (name : List Char) (c : Cursor) : Option (Token × Cursor) :=
  let c := c.skipWhile isWhite
  if name == ['Y', 'A', 'M', 'L'] then
    match takeNumber? c with
    | none => none
    | some (major, c) =>
      if !c.next (· == '.') then none
      else (takeNumber? c.skip).map fun (minor, c) => (.version major minor, c)
  else if name == ['T', 'A', 'G'] && c.next (· == '!') then
    let handle := tagHandle c.rest
    let c := c.advance handle.length
    if !c.next isWhite || (1 < handle.length && handle.getLast? != some '!') then none
    else
      let c := c.skipWhile isWhite
      match takeTag 0 c.rest with
      | some (t, n) =>
        if n == 0 || !c.endsAt n then none else some (.shorthand (textOf handle) t, c.advance n)
      | none => none
  else none

/-! ## Steps -/

/-- Reads a directive, which takes a whole line. -/
def stepDirective? (s : Scanner) : Option Scanner :=
  match (s.closeBlocks (-1)).dropPlace? with
  | none => none
  | some s =>
    let name := (s.cursor.rest.drop 1).takeWhile isNameChar
    let c := s.cursor.advance (name.length + 1)
    if name.isEmpty || !c.endsAt 0 then none
    else match readDirective? name c with
      | none => none
      | some (t, c) =>
        let c := c.skipWhile isWhite
        let c := if c.next (· == '#') then c.skipWhile (!isBreak ·) else c
        if !c.atEnd && !c.next isBreak then none
        else some { s.push t with cursor := c.skipBreak, keyAllowed := false }

/-- Reads the mark of a document's start or end. -/
def stepDocument? (t : Token) (s : Scanner) : Option Scanner :=
  (s.closeBlocks (-1)).dropPlace?.map fun s => { s.mark 3 t with keyAllowed := false }

def stepOpen? (t : Token) (s : Scanner) : Option Scanner :=
  s.savePlace?.map fun s => { s.mark 1 t with places := none :: s.places, keyAllowed := true }

def stepClose? (t : Token) (s : Scanner) : Option Scanner :=
  s.dropPlace?.map fun s =>
    { s.mark 1 t with places := if s.inFlow then s.places.tail else s.places, keyAllowed := false }

def stepComma? (s : Scanner) : Option Scanner :=
  s.dropPlace?.map fun s => { s.mark 1 .comma with keyAllowed := true }

def stepItem? (s : Scanner) : Option Scanner :=
  if !s.inFlow && !s.keyAllowed then none
  else (s.openBlockHere .blockSequence).dropPlace?.map fun s =>
    { s.mark 1 .item with keyAllowed := true }

def stepKey? (s : Scanner) : Option Scanner :=
  if !s.inFlow && !s.keyAllowed then none
  else (s.openBlockHere .blockMapping).dropPlace?.map fun s =>
    { s.mark 1 .key with keyAllowed := !s.inFlow }

/-- Reads a colon. A key that ends here gets its token, and opens a block if it is deeper than the
block around. -/
def stepValue? (s : Scanner) : Option Scanner :=
  match s.keyPlace? with
  | none => none
  | some (some p) =>
    let s := ((s.insert p.count .key).openBlock p.column p.count .blockMapping).setPlace none
    some { s.mark 1 .value with keyAllowed := false }
  | some none =>
    if !s.inFlow && !s.keyAllowed then none
    else
      let s := (s.setPlace none).openBlockHere .blockMapping
      some { s.mark 1 .value with keyAllowed := !s.inFlow }

/-- What may follow a name that stands for a node. -/
def isNameEnd (c : Char) : Bool := isGap c || "?:,]\x7d%@\x60".toList.contains c

/-- Reads an anchor or alias. -/
def stepName? (t : Text → Token) (s : Scanner) : Option Scanner :=
  s.savePlace?.bind fun s =>
    let name := (s.cursor.rest.drop 1).takeWhile isNameChar
    let ends := (s.cursor.rest.drop (name.length + 1)).head?.all isNameEnd
    if name.isEmpty || !ends then none
    else some { s.mark (name.length + 1) (t (textOf name)) with keyAllowed := false }

def stepTag? (s : Scanner) : Option Scanner :=
  s.savePlace?.bind fun s =>
    (readTag? s.cursor).map fun (t, c) => { s.push t with cursor := c, keyAllowed := false }

def stepBlockScalar? (folded : Bool) (s : Scanner) : Option Scanner :=
  s.dropPlace?.bind fun s =>
    (readBlock folded s.indent s.cursor.skip).map fun (t, c) =>
      { s.push (.scalar (textOf t) false) with cursor := c, keyAllowed := true }

def stepQuoted? (fuel : Nat) (quote : Char) (s : Scanner) : Option Scanner :=
  s.savePlace?.bind fun s =>
    (readQuoted quote fuel s.cursor.skip).map fun (t, c) =>
      { s.push (.scalar (textOf t) false) with cursor := c, keyAllowed := false }

def stepPlain? (fuel : Nat) (s : Scanner) : Option Scanner :=
  s.savePlace?.bind fun s =>
    (readPlain s.inFlow (s.indent + 1).toNat fuel {} s.cursor).map fun p =>
      { s.push (.scalar (textOf p.text) true) with cursor := p.cursor, keyAllowed := p.broken }

/-- The characters with which no plain scalar begins, unless they are followed by more. -/
def isIndicator (c : Char) : Bool := "-?:,[]\x7b\x7d#&*!|>'\"%@\x60".toList.contains c

/-- Reads the next token, to which the cursor has gone; the fuel bounds its length. -/
def stepToken? (fuel : Nat) (s : Scanner) : Option Scanner :=
  let c := s.cursor
  match c.rest with
  | [] => none
  | d :: _ =>
    if d == '[' then s.stepOpen? .sequenceOpen
    else if d == '{' then s.stepOpen? .mappingOpen
    else if d == ']' then s.stepClose? .sequenceClose
    else if d == '}' then s.stepClose? .mappingClose
    else if d == ',' then s.stepComma?
    else if d == '-' && c.endsAt 1 then s.stepItem?
    else if d == '?' && (s.inFlow || c.endsAt 1) then s.stepKey?
    else if d == ':' && (s.inFlow || c.endsAt 1) then s.stepValue?
    else if d == '*' then s.stepName? .alias
    else if d == '&' then s.stepName? .anchor
    else if d == '!' then s.stepTag?
    else if d == '|' && !s.inFlow then s.stepBlockScalar? false
    else if d == '>' && !s.inFlow then s.stepBlockScalar? true
    else if d == '\'' || d == '"' then s.stepQuoted? fuel d
    else if (!isGap d && !isIndicator d) || d == '-' || (!s.inFlow && (d == '?' || d == ':')) then
      s.stepPlain? fuel
    else none

/-- Reads the end of the text, if the cursor is there. All blocks end, and no key may be missed. -/
def stepEnd? (s : Scanner) : Option Scanner :=
  (s.closeBlocks (-1)).dropPlace?.map (·.push .streamEnd)

/-- What a scanner found: the tokens, and whether they are all that the text has. -/
structure Scan where
  tokens : List Token
  complete : Bool

/-- Reads token after token, up to the end of the text or a fault. A token takes a character at
least, so the text ahead is never longer than the fuel. -/
def run : (fuel : Nat) → Scanner → Scan
  | 0, s => ⟨s.tokens.reverse, false⟩
  | fuel + 1, s =>
    let s := skipSpace (fuel + 1) s
    let s := s.closeBlocks s.cursor.column
    let fault : Scan := ⟨s.tokens.reverse, false⟩
    if s.cursor.atEnd then
      match s.stepEnd? with
      | some s => ⟨s.tokens.reverse, true⟩
      | none => fault
    else
      let step :=
        if s.cursor.column == 0 && s.cursor.next (· == '%') then s.stepDirective?
        else if s.cursor.atMark '-' then s.stepDocument? .documentStart
        else if s.cursor.atMark '.' then s.stepDocument? .documentEnd
        else (s.stepToken? (fuel + 1)).map skipLineComment
      match step with
      | some s => run fuel s
      | none => fault

/-- The tokens of a text. -/
def scan (text : List Char) : Scan := run (text.length + 2) { cursor := { rest := text } }

end Scanner

end GodotSurvey.Yaml
