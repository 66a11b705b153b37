import GodotSurvey.Json.Data
import GodotSurvey.Text.Utf8
import GodotSurvey.Time.Instant

/-!
# Scalars of TOML

Strings of four kinds, numbers, truth values, and dates and times. Each reader takes its scalar from
the front of a text and gives the value with what follows; there is no result if the scalar has a
fault.
-/

namespace GodotSurvey.Toml

open Text
open Json (Value)

/-! ## Strings -/

/-- The bytes that a backslash takes away behind it. -/
def isGap (c : UInt8) : Bool := isBlank c || c == '\n' || c == '\r'

/-- The character of an escape, with the number of bytes it takes behind the backslash. -/
def escape? (s : Text) : Option (Text × Nat) :=
  match s with
  | [] => none
  | c :: rest =>
    let point := fun n : Nat => (parseNat? 16 (rest.take n)).bind fun p =>
      if (rest.take n).length == n then some (encode p, n + 1) else none
    if isGap c then some ([], (s.takeWhile isGap).length)
    else if c == 'b' then some ([0x08], 1)
    else if c == 't' then some ([0x09], 1)
    else if c == 'n' then some ([0x0A], 1)
    else if c == 'f' then some ([0x0C], 1)
    else if c == 'r' then some ([0x0D], 1)
    else if c == '"' || c == '\\' || c == '/' then some ([c], 1)
    else if c == 'u' then point 4
    else if c == 'U' then point 8
    else none

/-- The byte may stand in a basic string as it is. -/
def isBasic (lineEnds : Bool) (c : UInt8) : Bool :=
  0x20 ≤ c || c == '\t' || (lineEnds && (c == '\n' || c == '\r'))

/-- Reads a basic string up to its closing mark; `skip` bytes belong to the escape read last. -/
def readBasic (close : Text) (lineEnds : Bool) : (skip : Nat) → Text → Option (Text × Text)
  | _, [] => none
  | n + 1, _ :: rest => readBasic close lineEnds n rest
  | 0, c :: rest =>
    if startsWith (c :: rest) close then some ([], (c :: rest).drop close.length)
    else if c == '\\' then
      match escape? rest with
      | some (t, n) => (readBasic close lineEnds n rest).map fun (s, r) => (t ++ s, r)
      | none => none
    else if isBasic lineEnds c then
      (readBasic close lineEnds 0 rest).map fun (s, r) => (c :: s, r)
    else none

/-- A line end right behind the opening mark does not count. -/
def dropFirstLineEnd (s : Text) : Text :=
  match dropStart? s "\r\n" with
  | some r => r
  | none => stripStart s "\n"

/-- Takes a string of any kind. In a literal string, the one in single quotes, all bytes stand for
themselves. -/
def readString? (s : Text) : Option (Text × Text) :=
  match dropStart? s "\"\"\"" with
  | some r => readBasic "\"\"\"" true 0 (dropFirstLineEnd r)
  | none =>
  match dropStart? s "'''" with
  | some r => cut? (dropFirstLineEnd r) "'''"
  | none =>
  match s with
  | [] => none
  | c :: r =>
    if c == '"' then readBasic "\"" false 0 r
    else if c == '\'' then cut? r "'"
    else none

/-! ## Numbers -/

/-- Every underscore follows a digit, and none is the last character. -/
def underscoresFit (isDigitOf : UInt8 → Bool) (afterDigit : Bool) : Text → Bool
  | [] => true
  | c :: rest => (c != '_' || (afterDigit && !rest.isEmpty)) && underscoresFit isDigitOf (isDigitOf c) rest

/-- The text without underscores. -/
def dropUnderscores (s : Text) : Text := s.filter fun c : UInt8 => c != '_'

/-- The integer, if 64 bits can hold it. Without a sign all of them count for the size. -/
def integer? (base : Nat) (s : Text) : Option Value :=
  let (negative, digits) := splitSign s
  match parseNat? base digits with
  | none => none
  | some n =>
    let v : Int := if negative then -(n : Int) else n
    let unsigned := digits.length == s.length && v < 2 * int64Limit
    if fitsInt64 v || unsigned then some (Value.ofInt v) else none

/-- The base that a letter behind a zero marks. -/
def baseOf? (c : UInt8) : Option Nat :=
  if c == 'x' then some 16 else if c == 'o' then some 8 else if c == 'b' then some 2 else none

/-- Takes the digits of a number whose base is marked. -/
def readMarked? (base : Nat) (s : Text) : Option (Value × Text) :=
  let isDigitOf := fun c : UInt8 => (digitValue? c).any (· < base)
  let digits := s.takeWhile fun c : UInt8 => c == '_' || isDigitOf c
  if !underscoresFit isDigitOf false digits then none
  else (integer? base (dropUnderscores digits)).map fun v => (v, s.drop digits.length)

/-- The characters of a decimal number at the front of a text, behind its sign. -/
def decimalRun (afterMark : Bool) : Text → Text
  | [] => []
  | c :: rest =>
    if isDigit c || c == '_' || c == '.' then c :: decimalRun false rest
    else if c == 'e' || c == 'E' then c :: decimalRun true rest
    else if afterMark && (c == '+' || c == '-') then c :: decimalRun false rest
    else []

/-- A digit stands on either side of every point. -/
def pointsFit (digitSeen : Bool) : Text → Bool
  | [] => true
  | c :: rest =>
    (c != '.' || (digitSeen && rest.head?.any isDigit)) && pointsFit (digitSeen || isDigit c) rest

/-- A decimal number from its characters. An integer that begins with a zero has at most one digit
more, unless a sign stands in front. -/
def decimal? (w : Text) : Option Value :=
  let digits := dropUnderscores w
  if !underscoresFit isDigit false w || !pointsFit false w then none
  else if w.any fun c : UInt8 => c == '.' || c == 'e' || c == 'E' then
    if isFiniteDouble digits then some (Value.ofFloat (Value.floatOf digits)) else none
  else if 3 ≤ digits.length && digits.head? == some '0' then none
  else integer? 10 digits

/-- Takes a word for a number that is not finite. -/
def readSpecial? (negative : Bool) (s : Text) : Option (Value × Text) :=
  match dropStart? s "inf" with
  | some r => some (Value.ofFloat (if negative then -1.0 / 0.0 else 1.0 / 0.0), r)
  | none => (dropStart? s "nan").map fun r => (Value.ofFloat (0.0 / 0.0), r)

/-- Takes a number. A zero with a letter behind it marks a base. -/
def readNumber? (s : Text) : Option (Value × Text) :=
  match s with
  | z :: m :: rest =>
    if z == '0' && isLetter m then (baseOf? m).bind fun base => readMarked? base rest
    else signed s
  | _ => signed s
where
  /-- Takes a number without mark of a base. -/
  signed (s : Text) : Option (Value × Text) :=
    let (negative, body) := splitSign s
    match readSpecial? negative body with
    | some r => some r
    | none =>
      let w := s.take (s.length - body.length) ++ decimalRun false body
      (decimal? w).map fun v => (v, s.drop w.length)

/-! ## Dates and times -/

/-- Takes a time of day. -/
def readTime? (s : Text) : Option Text := do
  let (hour, r) ← Instant.digits? 2 s
  let r ← dropStart? r ":"
  let (minute, r) ← Instant.digits? 2 r
  let r ← dropStart? r ":"
  let (second, r) ← Instant.digits? 2 r
  let (_, r) ← Instant.fraction? r
  if hour < 24 && minute < 60 && second < 60 then some r else none

/-- Takes a time zone, if one is there. -/
def readZone? (s : Text) : Option Text :=
  match s with
  | [] => some s
  | c :: rest =>
    if c == 'Z' then some rest
    else if c != '+' && c != '-' then some s
    else do
      let (hour, r) ← Instant.digits? 2 rest
      let r ← dropStart? r ":"
      let (minute, r) ← Instant.digits? 2 r
      if hour ≤ 24 && minute ≤ 60 then some r else none

/-- Takes a date. -/
def readDate? (s : Text) : Option Text := do
  let (year, r) ← Instant.digits? 4 s
  let r ← dropStart? r "-"
  let (month, r) ← Instant.digits? 2 r
  let r ← dropStart? r "-"
  let (day, r) ← Instant.digits? 2 r
  if 1 ≤ month && month ≤ 12 && 1 ≤ day && day ≤ Instant.daysInMonth year month then some r
  else none

/-- Takes a date, and the time behind it that a `T` or a blank sets off. -/
def readDateTime? (s : Text) : Option Text :=
  match readDate? s with
  | none => none
  | some r =>
    match r with
    | [] => some r
    | c :: after =>
      let timeFollows := c == 'T' || (c == ' ' && (Instant.digits? 2 after).isSome)
      if timeFollows then (readTime? after).bind readZone? else some r

/-- Takes a number, a date or a time: two digits and a colon begin a time, four digits and a dash a
date. -/
def readDigits? (s : Text) : Option (Value × Text) :=
  let lead := (s.takeWhile isDigit).length
  let next := (s.drop lead).head?
  let read :=
    if lead == 2 && next == some ':' then some (readTime? s)
    else if lead == 4 && next == some '-' then some (readDateTime? s)
    else none
  match read with
  | some r => r.map fun r => (Value.ofMoment (s.take (s.length - r.length)), r)
  | none => readNumber? s

end GodotSurvey.Toml
