import Planar.Decimal.Binary

/-! The fewest decimal digits that read back as the same double. -/
namespace Planar.Decimal

/-- A positive value and the ends of the interval of reals that round to it, as numerators over
one denominator. The ends belong to the interval if `closed`. -/
structure Interval where
  lower : Nat
  value : Nat
  upper : Nat
  den : Nat
  closed : Bool

/-- The rounding interval of a positive double. It is narrower below a power of two. -/
def Interval.ofParts (mantissa : Nat) (exponent : Int) : Interval :=
  let scale := Nat.pow 2 (exponent - 2).toNat
  let below := if mantissa = Nat.pow 2 52 ∧ -1074 < exponent then 1 else 2
  { lower := (4 * mantissa - below) * scale
    value := 4 * mantissa * scale
    upper := (4 * mantissa + 2) * scale
    den := Nat.pow 2 (2 - exponent).toNat
    closed := mantissa % 2 = 0 }

/-- Whether `digits * 10 ^ place` lies in the interval. -/
def Interval.contains (i : Interval) (digits : Nat) (place : Int) : Bool :=
  let point := digits * Nat.pow 10 place.toNat * i.den
  let unit := Nat.pow 10 (-place).toNat
  if i.closed then i.lower * unit ≤ point && point ≤ i.upper * unit
  else i.lower * unit < point && point < i.upper * unit

/-- The multiple of `10 ^ place` in the interval that is nearest to the value, a tie going up. -/
def Interval.nearest? (i : Interval) (place : Int) : Option Nat :=
  let num := i.value * Nat.pow 10 (-place).toNat
  let den := i.den * Nat.pow 10 place.toNat
  let digits := num / den
  let below := i.contains digits place
  let above := i.contains (digits + 1) place
  if below && (!above || 2 * (num % den) < den) then some digits
  else if above then some (digits + 1)
  else none

/-- The digits and place of the shortest decimal in the interval, tried from `place` down. -/
def Interval.shortest (i : Interval) (place : Int) : Nat → Nat × Int
  | 0 => (0, 0)
  | fuel + 1 =>
    match i.nearest? place with
    | some digits => (digits, place)
    | none => i.shortest (place - 1) fuel

/-- Writes `digits * 10 ^ place` without an exponent. -/
def layoutPositional (digits : Nat) (place : Int) : String :=
  let text := toString digits
  if 0 ≤ place then text.pushn '0' place.toNat
  else
    let places := (-place).toNat
    let padded := ("".pushn '0' (places + 1 - text.length) ++ text).toList
    let whole := padded.length - places
    String.ofList (padded.take whole) ++ "." ++ String.ofList (padded.drop whole)

/-- The shortest text that reads back as the double. -/
def shortest (x : Float) : String :=
  match Binary.ofFloat x with
  | .undefined => "NaN"
  | .infinite negative => signed negative "inf"
  | .finite negative 0 _ => signed negative "0"
  | .finite negative mantissa exponent =>
    let i := Interval.ofParts mantissa exponent
    let start := (toString (i.value / i.den)).length
    let (digits, place) := i.shortest start (start + 326)
    signed negative (layoutPositional digits place)

end Planar.Decimal
