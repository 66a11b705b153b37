import GodotSurvey.Text.Basic

/-!
# Reading numbers

Decimal integers that fit a signed 64-bit word, and the texts that denote a finite double: decimal
with an optional fraction and exponent, or hexadecimal with a binary exponent.
-/

namespace GodotSurvey.Text

/-! ## Integers -/

/-- The value of a digit in bases up to 16. -/
def digitValue? (c : UInt8) : Option Nat :=
  if isDigit c then some (c.toNat - 48)
  else if 'a' ≤ c && c ≤ 'f' then some (c.toNat - 87)
  else if 'A' ≤ c && c ≤ 'F' then some (c.toNat - 55)
  else none

/-- The value of a row of digits, the most significant first. -/
def digitsValue (base : Nat) (s : Text) : Nat :=
  s.foldl (fun n c => n * base + (digitValue? c).getD 0) 0

/-- The value of a non-empty row of digits of the base. -/
def parseNat? (base : Nat) (s : Text) : Option Nat :=
  if !s.isEmpty && s.all (fun c => (digitValue? c).any (· < base)) then some (digitsValue base s)
  else none

/-- An optional sign and what follows it; the sign is `true` for minus. -/
def splitSign : Text → Bool × Text
  | [] => (false, [])
  | c :: rest => if c == '-' then (true, rest) else if c == '+' then (false, rest) else (false, c :: rest)

/-- The least number that is too large for a signed 64-bit word. -/
def int64Limit : Int := 9223372036854775808

/-- The integer fits a signed 64-bit word. -/
def fitsInt64 (n : Int) : Bool := -int64Limit ≤ n && n < int64Limit

/-- A signed decimal integer of 64 bits. -/
def parseInt64? (s : Text) : Option Int :=
  let (negative, digits) := splitSign s
  match parseNat? 10 digits with
  | none => none
  | some n =>
    let v : Int := if negative then -(n : Int) else n
    if fitsInt64 v then some v else none

/-- Underscores stand between digits, or between a base mark and a digit. -/
def underscoresSeparate (afterMark : Bool) : Text → Bool
  | [] => true
  | c :: rest =>
    if c == '_' then afterMark && rest.head?.any (fun d => (digitValue? d).isSome)
      && underscoresSeparate false rest
    else underscoresSeparate (digitValue? c).isSome rest

/-- The base that a number's first characters mark, and its digits; `true` if a mark stands
there that underscores may follow. -/
def splitBase (s : Text) : Nat × Bool × Text :=
  match s with
  | z :: m :: rest =>
    if z != '0' then (10, false, s)
    else if m == 'x' || m == 'X' then (16, true, rest)
    else if m == 'b' || m == 'B' then (2, true, rest)
    else if m == 'o' || m == 'O' then (8, true, rest)
    else (8, true, m :: rest)
  | _ => (10, false, s)

/-- A signed integer of 64 bits in the base that its first characters mark. -/
def parseMarkedInt? (s : Text) : Option Int :=
  let (negative, body) := splitSign s
  let (base, marked, digits) := splitBase body
  if !underscoresSeparate marked digits then none
  else match parseNat? base (digits.filter fun c : UInt8 => c != '_') with
    | none => none
    | some n =>
      let v : Int := if negative then -(n : Int) else n
      if fitsInt64 v then some v else none

/-- The decimal digits of a natural number. -/
def ofNat (n : Nat) : Text := (Nat.toDigits 10 n).map Char.toUInt8

/-- An integer in decimal, with a minus sign if negative. -/
def ofInt : Int → Text
  | .ofNat n => ofNat n
  | .negSucc n => "-" ++ ofNat (n + 1)

/-- The number in lower-case hexadecimal digits, without leading zeros. -/
def hexOfNat (n : Nat) : Text := (Nat.toDigits 16 n).map Char.toUInt8

/-- A byte as two hexadecimal digits. -/
def hexOfByte (c : UInt8) : Text := hexOfNat (c.toNat / 16) ++ hexOfNat (c.toNat % 16)

/-! ## Floating-point literals -/

/-- A number written with a point and an exponent: its value is `± mantissa · base ^ exponent`. -/
structure Scientific where
  negative : Bool
  mantissa : Nat
  base : Nat
  exponent : Int
  deriving Repr

/-- Splits digits, at most one point among them, into the digits and the count after the point. -/
def splitPoint (isDigitOf : UInt8 → Bool) (s : Text) : Text × Nat × Text :=
  let whole := s.takeWhile isDigitOf
  match s.dropWhile isDigitOf with
  | [] => (whole, 0, [])
  | c :: rest =>
    if c == '.' then
      let fraction := rest.takeWhile isDigitOf
      (whole ++ fraction, fraction.length, rest.dropWhile isDigitOf)
    else (whole, 0, c :: rest)

/-- An optional exponent marked by `mark` in either case, up to the end of the text. -/
def exponent? (mark : UInt8) (s : Text) : Option (Option Int) :=
  match s with
  | [] => some none
  | c :: rest =>
    if c == mark || c + 32 == mark then
      let (negative, digits) := splitSign rest
      (parseNat? 10 digits).map fun n => some (if negative then -(n : Int) else n)
    else none

/-- Reads a floating-point literal; the hexadecimal form needs an exponent. -/
def parseScientific? (s : Text) : Option Scientific :=
  let (negative, body) := splitSign s
  let hex := startsWith body "0x" || startsWith body "0X"
  let isHexDigit := fun c => (digitValue? c).isSome
  let (digits, places, tail) :=
    if hex then splitPoint isHexDigit (body.drop 2) else splitPoint isDigit body
  if digits.isEmpty then none
  else match exponent? (if hex then 'p' else 'e') tail with
    | none => none
    | some e =>
      if hex then
        e.map fun e => ⟨negative, digitsValue 16 digits, 2, e - 4 * places⟩
      else some ⟨negative, digitsValue 10 digits, 10, e.getD 0 - places⟩

/--
The number is too large for a double: it rounds to `2 ^ 1024` or more. Exponents far outside the
range are decided without computing the power.
-/
def Scientific.overflows (x : Scientific) : Bool :=
  if x.mantissa == 0 then false
  else if x.exponent > 2000 then true
  else
    let limit := Nat.pow 2 1024 - Nat.pow 2 970
    match x.exponent with
    | .ofNat e => limit ≤ x.mantissa * Nat.pow x.base e
    | .negSucc e =>
      if e > 2000 + 4 * x.mantissa.log2 then false
      else limit * Nat.pow x.base (e + 1) ≤ x.mantissa

/-- The text denotes a finite double. -/
def isFiniteDouble (s : Text) : Bool :=
  match parseScientific? s with
  | some x => !x.overflows
  | none => false

end GodotSurvey.Text
