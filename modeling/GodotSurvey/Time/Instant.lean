import GodotSurvey.Text.Number

/-!
# Points in time

A point in time is a number of nanoseconds since the beginning of 1970 in UTC. It is written as a
date and a time of day, in the manner of internet timestamps.
-/

namespace GodotSurvey

/-- A point in time. -/
structure Instant where
  nanoseconds : Int
  deriving DecidableEq, Repr

namespace Instant

open Text

/-! ## Dates -/

/-- The days from the beginning of 1970 to a date. Years are counted from March on, so a leap day is
the last day of its year. -/
def daysOfDate (year : Int) (month day : Nat) : Int :=
  let y := if month ≤ 2 then year - 1 else year
  let m : Int := (month + 9) % 12
  365 * y + Int.fdiv y 4 - Int.fdiv y 100 + Int.fdiv y 400 + (153 * m + 2) / 5 + day - 719469

/-- The date that lies so many days after the beginning of 1970. -/
def dateOfDays (days : Int) : Int × Nat × Nat :=
  let z := days + 719468
  let era := Int.fdiv z 146097
  let doe := z - era * 146097
  let yoe := (doe - doe / 1460 + doe / 36524 - doe / 146096) / 365
  let doy := doe - (365 * yoe + yoe / 4 - yoe / 100)
  let mp := (5 * doy + 2) / 153
  let day := doy - (153 * mp + 2) / 5 + 1
  let month := if mp < 10 then mp + 3 else mp - 9
  let year := yoe + era * 400 + (if month ≤ 2 then 1 else 0)
  (year, month.toNat, day.toNat)

def isLeapYear (y : Int) : Bool := y % 4 == 0 && (y % 100 != 0 || y % 400 == 0)

def daysInMonth (year : Int) (month : Nat) : Nat :=
  if month == 2 then (if isLeapYear year then 29 else 28)
  else if [4, 6, 9, 11].contains month then 30 else 31

/-! ## Reading -/

/-- A number of exactly `n` digits, and what follows it. -/
def digits? (n : Nat) (s : Text) : Option (Nat × Text) :=
  let ds := s.take n
  if ds.length == n && ds.all isDigit then some (digitsValue 10 ds, s.drop n) else none

/-- The nanoseconds of a fraction of a second, and what follows it. -/
def fraction? (s : Text) : Option (Nat × Text) :=
  match s with
  | [] => some (0, s)
  | c :: rest =>
    if c != '.' then some (0, s)
    else
      let ds := rest.takeWhile isDigit
      if ds.isEmpty then none
      else some (digitsValue 10 ((ds ++ List.replicate 9 48).take 9), rest.drop ds.length)

/-- The seconds by which a time zone is ahead of UTC. -/
def zone? (s : Text) : Option Int :=
  match s with
  | [] => none
  | c :: rest =>
    if c == 'Z' then (if rest.isEmpty then some 0 else none)
    else if c != '+' && c != '-' then none
    else do
      let (h, rest) ← digits? 2 rest
      let rest ← dropStart? rest ":"
      let (m, rest) ← digits? 2 rest
      if rest.isEmpty && h ≤ 24 && m < 60 then
        let seconds : Int := (h * 60 + m) * 60
        some (if c == '-' then -seconds else seconds)
      else none

/-- Reads a timestamp such as `2024-02-29T12:30:00.5+02:00`. -/
def parse? (s : Text) : Option Instant := do
  let (year, s) ← digits? 4 s
  let s ← dropStart? s "-"
  let (month, s) ← digits? 2 s
  let s ← dropStart? s "-"
  let (day, s) ← digits? 2 s
  let s ← dropStart? s "T"
  let (hour, s) ← digits? 2 s
  let s ← dropStart? s ":"
  let (minute, s) ← digits? 2 s
  let s ← dropStart? s ":"
  let (second, s) ← digits? 2 s
  let (nanos, s) ← fraction? s
  let offset ← zone? s
  if 1 ≤ month && month ≤ 12 && 1 ≤ day && day ≤ daysInMonth year month
      && hour < 24 && minute < 60 && second < 60 then
    let days := daysOfDate year month day
    let seconds : Int := days * 86400 + hour * 3600 + minute * 60 + second - offset
    some ⟨seconds * 1000000000 + nanos⟩
  else none

/-! ## Writing -/

/-- The number with at least so many digits. -/
def padded (width n : Nat) : Text :=
  let ds := ofNat n
  List.replicate (width - ds.length) 48 ++ ds

/-- The timestamp in UTC. -/
def format (t : Instant) : Text :=
  let nanos := t.nanoseconds.fmod 1000000000
  let seconds := t.nanoseconds.fdiv 1000000000
  let (year, month, day) := dateOfDays (seconds.fdiv 86400)
  let time := (seconds.fmod 86400).toNat
  let fraction := dropEndWhile (· == '0') (padded 9 nanos.toNat)
  padded 4 year.toNat ++ "-" ++ padded 2 month ++ "-" ++ padded 2 day ++ "T"
    ++ padded 2 (time / 3600) ++ ":" ++ padded 2 (time / 60 % 60) ++ ":" ++ padded 2 (time % 60)
    ++ onlyIf (!fraction.isEmpty) ("." ++ fraction) ++ "Z"

/-! ## Durations -/

/-- The longest duration in nanoseconds, about 292 years. -/
def maxDuration : Int := 9223372036854775807

/-- The nanoseconds from `a` to `b`, within the limits of a duration. -/
def since (b a : Instant) : Int :=
  max (-maxDuration - 1) (min maxDuration (b.nanoseconds - a.nanoseconds))

/-- So many hours as a duration. -/
def hours (n : Int) : Int := Int.bmod (n * 3600000000000) (Nat.pow 2 64)

end Instant

end GodotSurvey
