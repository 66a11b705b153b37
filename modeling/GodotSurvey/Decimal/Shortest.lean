import GodotSurvey.Decimal.Binary

/-!
# The shortest decimal of a double

Of all decimals that read back as a double, the one with the fewest digits, and of several such
the one nearest to the double's exact value. With `n` digits it is enough to look at the two
neighbours of the value on the grid of `n`-digit decimals.
-/

namespace GodotSurvey.Decimal

/-- A decimal number `digits · 10 ^ exponent`. -/
structure Digits where
  digits : Nat
  exponent : Int
  deriving DecidableEq, Repr

/-- Whether `a · 10 ^ k ≤ b · 2 ^ e`. -/
def leScaled (a : Nat) (k : Int) (b : Nat) (e : Int) : Bool :=
  let l := a * Nat.pow 10 k.toNat * Nat.pow 2 (-e).toNat
  let r := b * Nat.pow 2 e.toNat * Nat.pow 10 (-k).toNat
  l ≤ r

/-- Whether `b · 2 ^ e ≤ a · 10 ^ k`. -/
def geScaled (a : Nat) (k : Int) (b : Nat) (e : Int) : Bool :=
  let l := a * Nat.pow 10 k.toNat * Nat.pow 2 (-e).toNat
  let r := b * Nat.pow 2 e.toNat * Nat.pow 10 (-k).toNat
  r ≤ l

/-- The decimals that read back as the double lie between these two, in units of a quarter of the
last place of the mantissa; the ends belong to them iff the mantissa is even. -/
def neighbourhood (b : Binary) : Nat × Nat × Int :=
  let narrow := b.mantissa == Nat.pow 2 52 && b.exponent > -1074
  (4 * b.mantissa - (if narrow then 1 else 2), 4 * b.mantissa + 2, b.exponent - 2)

/-- The decimal reads back as the double. -/
def readsBack (b : Binary) (a : Nat) (k : Int) : Bool :=
  let (low, high, e) := neighbourhood b
  if b.mantissa % 2 == 0 then geScaled a k low e && leScaled a k high e
  else !leScaled a k low e && !geScaled a k high e

/-- The largest multiple of `10 ^ k` that is not above the value, as a multiple. -/
def gridBelow (b : Binary) (k : Int) : Nat :=
  let num := b.mantissa * Nat.pow 2 b.exponent.toNat * Nat.pow 10 (-k).toNat
  let den := Nat.pow 2 (-b.exponent).toNat * Nat.pow 10 k.toNat
  num / den

/-- The value is nearer to `(a + 1) · 10 ^ k` than to `a · 10 ^ k`. -/
def nearerAbove (b : Binary) (a : Nat) (k : Int) : Bool := leScaled (2 * a + 1) k (2 * b.mantissa) b.exponent

/-- A decimal on the grid `10 ^ k` that reads back, the nearer of two. -/
def gridHit? (b : Binary) (k : Int) : Option Digits :=
  let a := gridBelow b k
  match readsBack b a k, readsBack b (a + 1) k with
  | true, true => some ⟨if nearerAbove b a k then a + 1 else a, k⟩
  | true, false => some ⟨a, k⟩
  | false, true => some ⟨a + 1, k⟩
  | false, false => none

/-- The first hit on grids from coarse to fine. -/
def firstHit (b : Binary) : (fuel : Nat) → (k : Int) → Digits
  | 0, k => ⟨gridBelow b k, k⟩
  | fuel + 1, k => (gridHit? b k).getD (firstHit b fuel (k - 1))

/-- The power of ten above the value: the coarsest grid worth a look. -/
def coarsest (b : Binary) : Int :=
  let bits := (b.mantissa.log2 : Int) + 1 + b.exponent
  (bits * 30103) / 100000 + 1

/-- Moves zeros at the end of the digits into the exponent. -/
def dropZeros : (fuel : Nat) → Digits → Digits
  | 0, d => d
  | fuel + 1, d =>
    if d.digits != 0 && d.digits % 10 == 0 then dropZeros fuel ⟨d.digits / 10, d.exponent + 1⟩ else d

/-- The shortest decimal of a finite value. -/
def shortest (b : Binary) : Digits :=
  if b.mantissa == 0 then ⟨0, 0⟩ else dropZeros 400 (firstHit b 20 (coarsest b))

/-- A decimal without exponent. -/
def plain (d : Digits) : Text :=
  match d.exponent with
  | .ofNat e => Text.ofNat (d.digits * Nat.pow 10 e)
  | .negSucc e => withPoint d.digits (e + 1)

/-- The shortest plain decimal of a double. -/
def plainOfFloat (x : Float) : Text :=
  if x.isNaN || x.isInf then special x
  else
    let b := Binary.ofFloat x
    (if b.negative then "-" else "") ++ plain (shortest b)

/-- One digit, a point and the others, then the exponent with its sign and at least one digit. -/
def scientific (d : Digits) : Text :=
  let digits := Text.ofNat d.digits
  let e : Int := d.exponent + (digits.length : Int) - 1
  let mantissa := digits.take 1 ++ (if digits.length == 1 then [] else Text.ofString "." ++ digits.drop 1)
  mantissa ++ (if e < 0 then "e-" else "e+") ++ Text.ofNat e.natAbs

/-- The shortest decimal of a double, with an exponent below `10⁻⁶` and from `10²¹` on. -/
def compactOfFloat (x : Float) : Text :=
  let b := Binary.ofFloat x
  let d := shortest b
  let size : Int := d.exponent + ((Text.ofNat d.digits).length : Int)
  let sign : Text := if b.negative then "-" else ""
  if d.digits != 0 && (size ≤ -6 || 21 < size) then sign ++ scientific d else sign ++ plain d

end GodotSurvey.Decimal
