import GodotSurvey.Text.Number
import GodotSurvey.Yaml.Cursor

/-!
# Scalars in a YAML text

The texts of scalars: in single or double quotes, plain, and in blocks of indented lines. Each reader
gives the characters that the scalar stands for and the cursor behind it.
-/

namespace GodotSurvey.Yaml

/-! ## Quoted scalars -/

/-- The characters that simple escapes stand for. -/
def escapes : List (Char × Nat) :=
  [('0', 0), ('a', 7), ('b', 8), ('t', 9), ('\t', 9), ('n', 10), ('v', 11), ('f', 12), ('r', 13),
    ('e', 27), (' ', 32), ('"', 34), ('\'', 39), ('\\', 92), ('N', 0x85), ('_', 0xA0),
    ('L', 0x2028), ('P', 0x2029)]

/-- The escapes that are followed by hexadecimal digits, with their number. -/
def codeLengths : List (Char × Nat) := [('x', 2), ('u', 4), ('U', 8)]

/-- The character of a code point. -/
def charOf? (p : Nat) : Option Char :=
  if (0xD800 ≤ p && p < 0xE000) || 0x110000 ≤ p then none else some (Char.ofNat p)

/-- The character of an escape, with the number of characters it takes behind the backslash. -/
def escape? (s : List Char) : Option (Char × Nat) :=
  match s with
  | [] => none
  | c :: rest =>
    match escapes.lookup c, codeLengths.lookup c with
    | some p, _ => some (Char.ofNat p, 1)
    | none, some n =>
      let digits := rest.take n
      if digits.length == n && digits.all (·.toNat < 128) then
        ((Text.parseNat? 16 (digits.map Char.toUInt8)).bind charOf?).map fun x => (x, n + 1)
      else none
    | none, none => none

/-- Reads the rest of a quoted scalar. In single quotes a quote is written twice; in double quotes a
backslash escapes, and before a line end it joins the lines. -/
def readQuoted (quote : Char) : (fuel : Nat) → Cursor → Option (List Char × Cursor)
  | 0, _ => none
  | fuel + 1, c =>
    match c.rest with
    | [] => none
    | d :: rest =>
      let go := fun (t : List Char) (c : Cursor) =>
        (readQuoted quote fuel c).map fun (s, c) => (t ++ s, c)
      if isGap d then (takeGap 0 {} c).bind fun (g, c) => go g.text c
      else if c.atDocumentMark then none
      else if d == quote then
        if quote == '\'' && rest.head? == some '\'' then go ['\''] (c.advance 2) else some ([], c.skip)
      else if quote == '"' && d == '\\' then
        if rest.head?.any isBreak then
          (takeGap 0 { broken := true } c.skip.skipBreak).bind fun (g, c) => go g.text c
        else match escape? rest with
          | some (x, n) => go [x] (c.advance (n + 1))
          | none => none
      else go [d] c.skip

/-! ## Plain scalars -/

/-- The marks that end a plain scalar inside brackets. -/
def isFlowMark (c : Char) : Bool :=
  c == ',' || c == '?' || c == '[' || c == ']' || c == '{' || c == '}'

/-- A word of a plain scalar: up to white space, a colon that ends a word, or inside brackets a
mark. -/
def plainWord (flow : Bool) : List Char → List Char
  | [] => []
  | c :: rest =>
    if isGap c || (c == ':' && rest.head?.all isGap) || (flow && isFlowMark c) then []
    else c :: plainWord flow rest

/-- A plain scalar: its text, the cursor behind it and the white space after it, and whether a line
ended there. -/
structure PlainScalar where
  text : List Char
  cursor : Cursor
  broken : Bool

/-- Reads a plain scalar, which goes on over lines that are indented to column `indent`; `before` is
the white space in front. -/
def readPlain (flow : Bool) (indent : Nat) : (fuel : Nat) → (before : Gap) → Cursor → Option PlainScalar
  | 0, _, _ => none
  | fuel + 1, before, c =>
    let stop := some ⟨[], c, before.broken⟩
    if c.atDocumentMark || c.next (· == '#') then stop
    else
      let word := plainWord flow c.rest
      if word.isEmpty then stop
      else
        let text := before.text ++ word
        let c := c.advance word.length
        if !c.next isGap then some ⟨text, c, false⟩
        else match takeGap indent {} c with
          | none => none
          | some (g, c) =>
            if !flow && c.column < indent then some ⟨text, c, g.broken⟩
            else (readPlain flow indent fuel g c).map fun s => { s with text := text ++ s.text }

/-! ## Blocks -/

/-- What becomes of the line ends at the end of a block. -/
inductive Chomping where
  | strip
  | clip
  | keep
  deriving DecidableEq

/-- Takes empty lines and the indentation of the next line, of which `widest` tells the width so far.
While the indentation is not known, `indent` is zero. -/
def takeIndent (indent : Nat) : (fuel : Nat) → (widest : Nat) → Cursor → Option (List Char × Nat × Cursor)
  | 0, _, _ => none
  | fuel + 1, widest, c =>
    let width := if indent == 0 then c.rest.length else indent - c.column
    let spaces := ((c.rest.take width).takeWhile (· == ' ')).length
    let c := c.advance spaces
    let widest := max widest c.column
    if (indent == 0 || c.column < indent) && c.next (· == '\t') then none
    else if !c.next isBreak then some ([], widest, c)
    else
      let (t, c) := c.takeBreak
      (takeIndent indent fuel widest c).map fun (ts, w, c) => (t ++ ts, w, c)

/-- The lines of a block: their text, the line end behind the last one, the line ends after that, and
the cursor. -/
structure BlockLines where
  text : List Char := []
  last : List Char := []
  more : List Char := []
  cursor : Cursor

/-- Reads the lines of a block at an indentation. In a folded block a single line end between lines
that do not begin with a blank becomes a space. -/
def readBlockLines (folded : Bool) (indent : Nat) :
    (fuel : Nat) → (afterBlank : Bool) → (last more : List Char) → Cursor → Option BlockLines
  | 0, _, _, _, _ => none
  | fuel + 1, afterBlank, last, more, c =>
    if c.column != indent || c.atEnd then some { last, more, cursor := c }
    else
      let blank := c.next isWhite
      let joint :=
        if folded && !afterBlank && !blank && last == ['\n'] then (if more.isEmpty then [' '] else [])
        else last
      let line := c.rest.takeWhile (!isBreak ·)
      let (lineEnd, c) := (c.advance line.length).takeBreak
      match takeIndent indent (c.rest.length + 1) 0 c with
      | none => none
      | some (breaks, _, c) =>
        (readBlockLines folded indent fuel blank lineEnd breaks c).map fun b =>
          { b with text := joint ++ more ++ line ++ b.text }

/-- The two marks behind the sign of a block, in either order: what becomes of the line ends at its
end, and how much deeper than the node around it the block is indented. -/
def blockMarks? (s : List Char) : Option (Chomping × Nat × Nat) :=
  let chomping? : Option Char → Option Chomping
    | some '+' => some .keep
    | some '-' => some .strip
    | _ => none
  let depth? : Option Char → Option Nat
    | some d => if d.isDigit then some (d.toNat - 48) else none
    | none => none
  let (chomping, depth, n) : Option Chomping × Option Nat × Nat :=
    match chomping? s.head?, depth? s.head? with
    | some m, _ => match depth? (s.drop 1).head? with
      | some k => (some m, some k, 2)
      | none => (some m, none, 1)
    | none, some k => match chomping? (s.drop 1).head? with
      | some m => (some m, some k, 2)
      | none => (none, some k, 1)
    | none, none => (none, none, 0)
  if depth == some 0 then none else some (chomping.getD .clip, depth.getD 0, n)

/-- Reads a block behind its sign, inside a node whose indentation is `parent`, or -1 at the top. -/
def readBlock (folded : Bool) (parent : Int) (c : Cursor) : Option (List Char × Cursor) :=
  match blockMarks? c.rest with
  | none => none
  | some (chomping, depth, n) =>
    let c := (c.advance n).skipWhile isWhite
    let c := if c.next (· == '#') then c.skipWhile (!isBreak ·) else c
    if !c.atEnd && !c.next isBreak then none
    else
      let c := c.skipBreak
      let given := if depth == 0 then 0 else (max parent 0).toNat + depth
      match takeIndent given (c.rest.length + 1) 0 c with
      | none => none
      | some (breaks, widest, c) =>
        let indent := if given == 0 then max (max widest (parent + 1).toNat) 1 else given
        (readBlockLines folded indent (c.rest.length + 1) false [] breaks c).map fun b =>
          let tail := match chomping with
            | .strip => []
            | .clip => b.last
            | .keep => b.last ++ b.more
          (b.text ++ tail, b.cursor)

end GodotSurvey.Yaml
