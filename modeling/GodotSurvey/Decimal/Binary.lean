import GodotSurvey.Text.Number

/-!
# Doubles as exact numbers

A finite double is `± mantissa · 2 ^ exponent`. Decimal text is made from this exact value, so
every digit is that of the number itself and nothing is rounded twice.
-/

namespace GodotSurvey.Decimal

/-- The exact value of a finite double. -/
structure Binary where
  negative : Bool
  mantissa : Nat
  exponent : Int
  deriving DecidableEq, Repr

/-- The value of a double; the caller has made sure that it is finite. -/
def Binary.ofFloat (x : Float) : Binary :=
  let bits := x.toBits.toNat
  let e : Nat := bits / Nat.pow 2 52 % Nat.pow 2 11
  let f : Nat := bits % Nat.pow 2 52
  let negative := bits / Nat.pow 2 63 == 1
  if e == 0 then ⟨negative, f, -1074⟩ else ⟨negative, f + Nat.pow 2 52, (e : Int) - 1075⟩

/-- The nearest integer to `num / den`; a half goes to the even neighbour. -/
def roundHalfEven (num den : Nat) : Nat :=
  let q := num / den
  let r := num % den
  if 2 * r < den then q else if den < 2 * r then q + 1 else if q % 2 == 0 then q else q + 1

/-- The nearest integer to `mantissa · 2 ^ exponent · 10 ^ places`, halves to even. -/
def Binary.scaled (b : Binary) (places : Nat) : Nat :=
  match b.exponent with
  | .ofNat e => b.mantissa * Nat.pow 2 e * Nat.pow 10 places
  | .negSucc e => roundHalfEven (b.mantissa * Nat.pow 10 places) (Nat.pow 2 (e + 1))

/-- Digits with at least `n` of them, zeros in front. -/
def padDigits (n : Nat) (digits : Text) : Text :=
  List.replicate (n - digits.length) (Char.toUInt8 '0') ++ digits

/-- Writes `n · 10 ^ -places` with that many places. -/
def withPoint (n places : Nat) : Text :=
  let digits := padDigits (places + 1) (Text.ofNat n)
  if places == 0 then digits
  else digits.take (digits.length - places) ++ "." ++ digits.drop (digits.length - places)

/-- The text of a number that is not finite. -/
def special (x : Float) : Text := if x.isNaN then "NaN" else if x < 0 then "-Inf" else "+Inf"

/-- A double with a fixed number of places, rounded from its exact value. -/
def fixed (places : Nat) (x : Float) : Text :=
  if x.isNaN || x.isInf then special x
  else
    let b := Binary.ofFloat x
    (if b.negative then "-" else "") ++ withPoint (b.scaled places) places

end GodotSurvey.Decimal
