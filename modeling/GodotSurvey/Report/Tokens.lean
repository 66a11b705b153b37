import GodotSurvey.Decimal.Binary
import GodotSurvey.Text.Utf8

/-!
# Sizes

How large a text is for a language model, counted in tokens of about four characters, and how large a
file is in bytes.
-/

namespace GodotSurvey

open Text

/-- The estimated tokens of a text against a budget. -/
structure TokenBudget where
  tokens : Nat
  budget : Int
  deriving DecidableEq, Repr

namespace TokenBudget

/-- The budget that counts where none is given. -/
def defaultBudget : Int := 128000

/-- The number of tokens of a text: a quarter of its characters, rounded to the nearest. -/
def estimate (s : Text) : Nat := (runeCount s + 2) / 4

/-- The size of a text against a budget that has to be positive. -/
def ofText (s : Text) (budget : Int) : TokenBudget :=
  ⟨estimate s, if budget ≤ 0 then defaultBudget else budget⟩

/-- A number of tokens; from a thousand on it is counted in thousands. -/
def countText (n : Int) : Text :=
  if n < 1000 then ofInt n else Decimal.fixed 1 (Float.ofInt n / 1000) ++ "k"

/-- The budget in whole thousands, if it has any. -/
def label (b : TokenBudget) : Text :=
  if 1000 ≤ b.budget then ofInt (b.budget / 1000) ++ "k" else ofInt b.budget

/-- The share of the budget that is used, in percent. -/
def usage (b : TokenBudget) : Float := Float.ofNat b.tokens / Float.ofInt b.budget * 100

/-- What is left of the budget. -/
def remaining (b : TokenBudget) : Nat := (b.budget - b.tokens).toNat

def message (b : TokenBudget) : Text :=
  "~" ++ countText b.tokens ++ " tokens (" ++ Decimal.fixed 1 b.usage ++ "% of " ++ b.label ++ ")"

end TokenBudget

/-- The letters of the binary units of size. -/
def sizeUnits : List Char := ['K', 'M', 'G', 'T', 'P', 'E']

/-- The unit in which a number of bytes is less than 1024, counted from the given one. -/
def sizeUnit (n : Nat) : (fuel unit : Nat) → Nat
  | 0, unit => unit
  | fuel + 1, unit => if n < 1024 then unit else sizeUnit (n / 1024) fuel (unit + 1)

/-- A number of bytes; from 1024 on it is counted in binary units. -/
def sizeText (n : Int) : Text :=
  if n < 1024 then ofInt n ++ " B"
  else
    let unit := sizeUnit (n.toNat / 1024) 5 0
    let value := Float.ofInt n / Float.ofNat (Nat.pow 1024 (unit + 1))
    Decimal.fixed 1 value ++ " " ++ [(sizeUnits.getD unit 'E').toUInt8] ++ "iB"

end GodotSurvey
