import GodotSurvey.Json.Value
import GodotSurvey.Text.Utf8

/-!
# Reading JSON

A strict reader: the whole text must be one value. Escaped surrogates that do not form a pair, and
bytes that are not valid UTF-8, become replacement characters.
-/

namespace GodotSurvey.Json

open Text

/-! ## Strings -/

/-- The number written by four hexadecimal digits. -/
def hex4? (a b c d : UInt8) : Option Nat := parseNat? 16 [a, b, c, d]

/-- The byte that a one-letter escape stands for. -/
def simpleEscape? (c : UInt8) : Option UInt8 :=
  if c == '"' || c == '\\' || c == '/' then some c
  else if c == 'b' then some 0x08
  else if c == 'f' then some 0x0C
  else if c == 'n' then some 0x0A
  else if c == 'r' then some 0x0D
  else if c == 't' then some 0x09
  else none

def isHighSurrogate (u : Nat) : Bool := 0xD800 ≤ u && u < 0xDC00

def isLowSurrogate (u : Nat) : Bool := 0xDC00 ≤ u && u < 0xE000

/-- The second half of a surrogate pair that begins the text. -/
def lowSurrogate? : Text → Option Nat
  | p :: q :: a :: b :: c :: d :: _ =>
    if p == '\\' && q == 'u' then (hex4? a b c d).filter isLowSurrogate else none
  | _ => none

/-- The code point of an escaped pair. -/
def pairPoint (high low : Nat) : Nat := 0x10000 + (high - 0xD800) * 0x400 + (low - 0xDC00)

/-- Reads the rest of a string literal behind its opening quote: the bytes it stands for, and what
follows the closing quote. `skip` bytes still belong to the escape read last. -/
def readString : (skip : Nat) → Text → Option (Text × Text)
  | _, [] => none
  | n + 1, _ :: rest => readString n rest
  | 0, c :: rest =>
    if c == '"' then some ([], rest)
    else if c < 0x20 then none
    else if c == '\\' then
      match rest with
      | e :: a :: b :: c :: d :: after =>
        if e == 'u' then
          match hex4? a b c d with
          | none => none
          | some u =>
            match if isHighSurrogate u then lowSurrogate? after else none with
            | some low => (readString 11 rest).map fun (s, r) => (encode (pairPoint u low) ++ s, r)
            | none => (readString 5 rest).map fun (s, r) => (encode u ++ s, r)
        else match simpleEscape? e with
          | none => none
          | some x => (readString 1 rest).map fun (s, r) => (x :: s, r)
      | e :: _ =>
        match simpleEscape? e with
        | none => none
        | some x => (readString 1 rest).map fun (s, r) => (x :: s, r)
      | [] => none
    else (readString 0 rest).map fun (s, r) => (c :: s, r)

/-! ## Numbers -/

/-- Takes a non-empty row of digits. -/
def readDigits? (s : Text) : Option (Text × Text) :=
  let ds := s.takeWhile isDigit
  if ds.isEmpty then none else some (ds, s.drop ds.length)

/-- Takes an optional part of a number: nothing, if `mark` does not begin the text. -/
def readPart (isMark : UInt8 → Bool) (signed : Bool) (s : Text) : Option (Text × Text) :=
  match s with
  | [] => some ([], [])
  | c :: rest =>
    if !isMark c then some ([], s)
    else
      let sign := if signed then (rest.take 1).filter (fun c : UInt8 => c == '+' || c == '-') else []
      (readDigits? (rest.drop sign.length)).map fun (ds, r) => (c :: sign ++ ds, r)

/-- Takes a number literal. -/
def readNumber? (s : Text) : Option (Text × Text) := do
  let sign := (s.take 1).filter fun c : UInt8 => c == '-'
  let (whole, r) ← readDigits? (s.drop sign.length)
  if 1 < whole.length && whole.head? == some '0' then none
  else
    let (fraction, r) ← readPart (fun c => c == '.') false r
    let (exponent, r) ← readPart (fun c => c == 'e' || c == 'E') true r
    some (sign ++ whole ++ fraction ++ exponent, r)

/-! ## Values -/

def isJsonSpace (c : UInt8) : Bool := c == ' ' || c == '\t' || c == '\n' || c == '\r'

def skipSpace (s : Text) : Text := s.dropWhile isJsonSpace

/-- Takes a string literal with its opening quote. -/
def readQuoted? (s : Text) : Option (Text × Text) :=
  match s with
  | [] => none
  | c :: rest =>
    if c == '"' then (readString 0 rest).map fun (t, r) => (validUtf8 t, r) else none

mutual

/-- Takes a value; the fuel bounds the number of values and brackets read. -/
def readValue : (fuel : Nat) → Text → Option (Value × Text)
  | 0, _ => none
  | fuel + 1, s =>
    match skipSpace s with
    | [] => none
    | c :: rest =>
      if c == '"' then (readQuoted? (c :: rest)).map fun (t, r) => (.string t, r)
      else if c == '[' then
        match skipSpace rest with
        | [] => none
        | d :: after =>
          if d == ']' then some (.array [], after)
          else (readItems fuel (d :: after)).map fun (vs, r) => (.array vs, r)
      else if c == '{' then
        match skipSpace rest with
        | [] => none
        | d :: after =>
          if d == '}' then some (.object [], after)
          else (readMembers fuel (d :: after)).map fun (ms, r) => (.object ms, r)
      else match dropStart? (c :: rest) "null" with
        | some r => some (.null, r)
        | none =>
        match dropStart? (c :: rest) "true" with
        | some r => some (.bool true, r)
        | none =>
        match dropStart? (c :: rest) "false" with
        | some r => some (.bool false, r)
        | none => (readNumber? (c :: rest)).map fun (n, r) => (.number n, r)

/-- Takes the items of an array up to its closing bracket. -/
def readItems : (fuel : Nat) → Text → Option (List Value × Text)
  | 0, _ => none
  | fuel + 1, s =>
    match readValue fuel s with
    | none => none
    | some (v, r) =>
      match skipSpace r with
      | [] => none
      | c :: r =>
        if c == ']' then some ([v], r)
        else if c == ',' then (readItems fuel r).map fun (vs, r) => (v :: vs, r)
        else none

/-- Takes the members of an object up to its closing bracket. -/
def readMembers : (fuel : Nat) → Text → Option (List (Text × Value) × Text)
  | 0, _ => none
  | fuel + 1, s =>
    match readQuoted? (skipSpace s) with
    | none => none
    | some (k, r) =>
      match skipSpace r with
      | [] => none
      | c :: r =>
        if c != ':' then none
        else match readValue fuel r with
          | none => none
          | some (v, r) =>
            match skipSpace r with
            | [] => none
            | c :: r =>
              if c == '}' then some ([(k, v)], r)
              else if c == ',' then (readMembers fuel r).map fun (ms, r) => ((k, v) :: ms, r)
              else none

end

/-- Reads a text that is one JSON value. -/
def parse? (s : Text) : Option Value :=
  match readValue (2 * s.length + 2) s with
  | some (v, rest) => if (skipSpace rest).isEmpty then some v else none
  | none => none

end GodotSurvey.Json
