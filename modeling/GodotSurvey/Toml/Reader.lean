import GodotSurvey.Toml.Key
import GodotSurvey.Toml.Tree

/-!
# Reading TOML

A text is a row of headers, which open tables, and of pairs, which belong to the table opened last.
The result is a tree of values. A text with a fault anywhere has no result; a header or a name that
occurs twice is a fault.
-/

namespace GodotSurvey.Toml

open Text
open Json (Value)

/-! ## White space -/

/-- Drops a comment up to the end of its line. -/
def dropComment (s : Text) : Text :=
  if s.head? == some '#' then s.dropWhile fun c : UInt8 => c != '\n' else s

/-- Drops blanks, line ends and comments; the fuel bounds the number of comments. -/
def dropTrivia : (fuel : Nat) → Text → Text
  | 0, s => s
  | fuel + 1, s =>
    let t := s.dropWhile isGap
    if t.head? == some '#' then dropTrivia fuel (dropComment t) else t

/-- What follows a value on its line: the text from the line's end on, if nothing but blanks and a
comment stand before it. -/
def endValue? (s : Text) : Option Text :=
  match dropComment (s.dropWhile isBlank) with
  | [] => some []
  | c :: rest => if c == '\n' || c == '\r' then some (c :: rest) else none

/-! ## Values -/

/-- The array of items: if all are tables, a list of tables. -/
def arrayOf (items : List Item) : Item :=
  let table? : Item → Option (Bool × Table)
    | .table c entries => some (c, entries)
    | _ => none
  match items.mapM table? with
  | some (t :: ts) => .tables (t :: ts)
  | _ => .value (.array (items.map Item.toValue))

mutual

/-- Takes a value; the fuel bounds the number of values and brackets read. -/
def readValue : (fuel : Nat) → Text → Option (Item × Text)
  | 0, _ => none
  | fuel + 1, s =>
    match s with
    | [] => none
    | c :: rest =>
      let scalar := fun r : Option (Value × Text) => r.map fun (v, r) => (Item.value v, r)
      if c == '"' || c == '\'' then scalar ((readString? s).map fun (t, r) => (.string t, r))
      else if c == '[' then
        (readItems fuel (dropTrivia fuel rest)).map fun (items, r) => (arrayOf items, r)
      else if c == '{' then
        (readPairs fuel [] (dropTrivia fuel rest)).map fun (t, r) => (.table true t, r)
      else match dropStart? s "true" with
        | some r => some (.value (.bool true), r)
        | none =>
        match dropStart? s "false" with
        | some r => some (.value (.bool false), r)
        | none => scalar (if isDigit c then readDigits? s else readNumber? s)

/-- Takes the items of an array up to its closing bracket. -/
def readItems : (fuel : Nat) → Text → Option (List Item × Text)
  | 0, _ => none
  | fuel + 1, s =>
    match dropStart? s "]" with
    | some r => some ([], r)
    | none =>
      match readValue fuel s with
      | none => none
      | some (v, r) =>
        let r := dropTrivia fuel r
        match dropStart? r "," with
        | some r => (readItems fuel (dropTrivia fuel r)).map fun (vs, r) => (v :: vs, r)
        | none => (dropStart? r "]").map fun r => ([v], r)

/-- Takes the pairs of a table in one line up to its closing bracket. Of a name that occurs twice
the last value counts, and no comma stands before the bracket. -/
def readPairs : (fuel : Nat) → Table → Text → Option (Table × Text)
  | 0, _, _ => none
  | fuel + 1, t, s =>
    match if t.isEmpty then dropStart? s "\x7d" else none with
    | some r => some (t, r)
    | none =>
      match readPair fuel s with
      | none => none
      | some (path, v, r) =>
        let t := t.force v path
        match dropStart? (dropComment (r.dropWhile isBlank)) "," with
        | some r => readPairs fuel t (dropTrivia fuel r)
        | none => (dropStart? (dropTrivia fuel r) "\x7d").map fun r => (t, r)

/-- Takes a pair. -/
def readPair : (fuel : Nat) → Text → Option (List Text × Item × Text)
  | 0, _ => none
  | fuel + 1, s =>
    match readKey (s.length + 1) s with
    | none => none
    | some (key, r) =>
      match parts? key, dropStart? (dropTrivia fuel r) "=" with
      | some path, some r =>
        (readValue fuel (r.dropWhile isBlank)).map fun (v, r) => (path, v, r)
      | _, _ => none

end

/-! ## Documents -/

/-- The state of the reader: the tree, the table that pairs belong to, and the headers read. -/
structure State where
  tree : Table := []
  here : List Text := []
  headers : List Text := []

/-- Opens a table. The same header must not have been read before, but one that is written otherwise
may. -/
def State.openTable? (st : State) (key : Text) (path : List Text) : Option State :=
  if st.headers.contains key then none
  else match st.tree.make? false path with
    | none => none
    | some tree =>
      match tree.get? path with
      | some (.table true _) => none
      | _ => some { tree, here := path, headers := key :: st.headers }

/-- Opens a new item of a list of tables; the headers below the item before may be read again. -/
def State.openItem? (st : State) (key : Text) (path : List Text) : Option State :=
  let tree := (st.tree.make? false path.dropLast).getD st.tree
  let headers := key :: st.headers.filter fun h => !startsWith h (key ++ ".")
  let started := fun items => some { tree := tree.force (.tables items) path, here := path, headers }
  match tree.get? path with
  | none => started [(false, [])]
  | some (.tables items) => started (items ++ [(false, [])])
  | some _ => none

/-- Reads a header: a written key between brackets, which holds no bracket itself. -/
def State.header? (st : State) (s : Text) : Option (State × Text) :=
  let isBracket := fun c : UInt8 => c == '[' || c == ']'
  let (item, inner) := match dropStart? s "[[" with
    | some r => (true, r)
    | none => (false, s.drop 1)
  let key := inner.takeWhile (!isBracket ·)
  let close : Text := if item then "]]" else "]"
  match parts? key, dropStart? (inner.drop key.length) close with
  | some path, some r =>
    (if item then st.openItem? key path else st.openTable? key path).map fun st => (st, r)
  | _, _ => none

/-- Reads a pair with the end of its line. -/
def State.pair? (fuel : Nat) (st : State) (s : Text) : Option (State × Text) :=
  match readPair fuel s with
  | none => none
  | some (path, v, r) =>
    match endValue? r, path.getLast? with
    | some r, some name =>
      (st.tree.add? (st.here ++ path.dropLast) name v).map fun tree => ({ st with tree }, r)
    | _, _ => none

/-- Reads headers and pairs up to the end of the text. -/
def readAll : (fuel : Nat) → State → Text → Option Table
  | 0, _, _ => none
  | fuel + 1, st, s =>
    match dropTrivia fuel s with
    | [] => some st.tree
    | c :: rest =>
      match if c == '[' then st.header? (c :: rest) else st.pair? fuel (c :: rest) with
      | none => none
      | some (st, r) => readAll fuel st r

/-- The byte order marks that may stand in front of a text. -/
def byteOrderMarks : List Text :=
  [[0x00, 0x00, 0xFE, 0xFF], [0xFF, 0xFE, 0x00, 0x00], [0xEF, 0xBB, 0xBF], [0xFE, 0xFF], [0xFF, 0xFE]]

/-- Reads a TOML text. -/
def parse? (s : Text) : Option Value :=
  let body := validUtf8 ((byteOrderMarks.findSome? (dropStart? s)).getD s)
  (readAll (2 * body.length + 4) {} body).map fun t => (Item.table false t).toValue

end GodotSurvey.Toml
