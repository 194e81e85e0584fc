/-! Reading numbers from text. -/
namespace Planar.Decimal

def ofDigits (digits : List Char) : Nat :=
  digits.foldl (fun n c => 10 * n + (c.toNat - '0'.toNat)) 0

/-- A nonempty run of decimal digits after an optional plus sign, as a number below `limit`. -/
def readNat? (limit : Nat) (text : List Char) : Option Nat :=
  let digits := if text.head? = some '+' then text.tail else text
  if digits ≠ [] ∧ digits.all Char.isDigit ∧ ofDigits digits < limit then
    some (ofDigits digits)
  else none

/-- Splits an optional sign from a text and says whether it was a minus sign. -/
def takeSign : List Char → Bool × List Char
  | '-' :: rest => (true, rest)
  | '+' :: rest => (false, rest)
  | text => (false, text)

/-- The exponent after a decimal's digits: nothing, or `e` and a signed number. -/
def readExponent? : List Char → Option Int
  | [] => some 0
  | c :: rest =>
    let (negative, digits) := takeSign rest
    if c.toLower = 'e' ∧ digits ≠ [] ∧ digits.all Char.isDigit then
      some (if negative then -(ofDigits digits : Int) else ofDigits digits)
    else none

/-- The double nearest to `digits * 10 ^ exponent`. Exponents past the range of doubles are cut
off, for no digits can bring the value back into it. -/
def nearest (digits : Nat) (exponent : Int) : Float :=
  let length := (toString digits).length
  if digits = 0 ∨ exponent + length < -400 then 0
  else if 400 < exponent + length then 1 / 0
  else Float.ofScientific digits (exponent < 0) exponent.natAbs

/-- A double in decimal or exponent notation, or one of the words for infinity and NaN. -/
def readFloat? (text : String) : Option Float := do
  let (negative, unsigned) := takeSign text.toList
  let lower := String.ofList (unsigned.map Char.toLower)
  let magnitude ←
    if lower = "inf" ∨ lower = "infinity" then some (1 / 0)
    else if lower = "nan" then some (0 / 0)
    else
      let whole := unsigned.takeWhile Char.isDigit
      let rest := unsigned.dropWhile Char.isDigit
      let (places, rest) :=
        if rest.head? = some '.' then
          (rest.tail.takeWhile Char.isDigit, rest.tail.dropWhile Char.isDigit)
        else ([], rest)
      if whole ++ places = [] then none
      else (readExponent? rest).map fun e =>
        nearest (ofDigits (whole ++ places)) (e - places.length)
  return if negative then -magnitude else magnitude

end Planar.Decimal
