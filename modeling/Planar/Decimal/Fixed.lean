import Planar.Decimal.Binary

/-! Decimals with a fixed number of places. -/
namespace Planar.Decimal

/-- The nearest quotient, an exact half going to the even one. -/
def roundDiv (num den : Nat) : Nat :=
  let q := num / den
  let twice := 2 * (num % den)
  if twice < den ∨ twice = den ∧ q % 2 = 0 then q else q + 1

def padLeft (n : Nat) (c : Char) (text : String) : String :=
  "".pushn c (n - text.length) ++ text

def padRight (n : Nat) (text : String) : String := text.pushn ' ' (n - text.length)

/-- A number of units in the given decimal place. -/
def layoutFixed (places units : Nat) : String :=
  if places = 0 then toString units
  else
    let fraction := padLeft places '0' (toString (units % Nat.pow 10 places))
    s!"{units / Nat.pow 10 places}.{fraction}"

/-- The exact value of a double, rounded to the given number of places. -/
def fixed (places : Nat) (x : Float) : String :=
  match Binary.ofFloat x with
  | .undefined => "NaN"
  | .infinite negative => signed negative "inf"
  | .finite negative mantissa exponent =>
    let scaled := mantissa * Nat.pow 10 places * Nat.pow 2 exponent.toNat
    signed negative (layoutFixed places (roundDiv scaled (Nat.pow 2 (-exponent).toNat)))

end Planar.Decimal
