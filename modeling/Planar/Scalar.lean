/-! Arithmetic shared by machine doubles, which the program runs on, and exact rationals,
which its laws are stated over. -/
namespace Planar

/-- Ordered arithmetic with truncation to natural numbers. The comparison `totalLe` is total also
where `<` is not, so sorting by it is always defined. -/
class Scalar (α : Type) extends Add α, Sub α, Mul α, Div α, Neg α, NatCast α, LT α, BEq α where
  decLt : DecidableLT α
  /-- The largest natural number not above the value, and 0 for a negative or undefined one. -/
  floorNat : α → Nat
  /-- The least natural number not below the value, and 0 for a negative or undefined one. -/
  ceilNat : α → Nat
  /-- The nearest natural number, a half going up, and 0 for a negative or undefined value. -/
  roundNat : α → Nat
  abs : α → α
  totalLe : α → α → Bool

instance (priority := low) Scalar.decidableLT {α : Type} [Scalar α] : DecidableLT α := Scalar.decLt

/-- Square root and decimal logarithm, which only the reported measures need. -/
class Analytic (α : Type) where
  sqrt : α → α
  log10 : α → α

export Scalar (floorNat ceilNat roundNat)
export Analytic (sqrt log10)

namespace Scalar

/-- Left-to-right sum. It starts from minus zero, the neutral element of double addition. -/
@[specialize] def sum {α : Type} [Scalar α] (values : List α) : α :=
  values.foldl (· + ·) (-((0 : Nat) : α))

/-- Exactly the finite doubles leave zero when subtracted from themselves. -/
@[specialize] def isFinite {α : Type} [Scalar α] (x : α) : Bool :=
  x - x == ((0 : Nat) : α)

end Scalar

/-- A double's bit pattern made to count upwards from the most negative value. -/
def totalKey (x : Float) : UInt64 :=
  let bits := x.toBits
  let sign : UInt64 := 0x8000000000000000
  if bits < sign then bits + sign else ~~~bits

instance : Scalar Float where
  natCast := Float.ofNat
  decLt := Float.decLt
  floorNat x := x.toUInt64.toNat
  ceilNat x := x.ceil.toUInt64.toNat
  roundNat x := x.round.toUInt64.toNat
  abs := Float.abs
  totalLe x y := totalKey x ≤ totalKey y

instance : Analytic Float where
  sqrt := Float.sqrt
  log10 := Float.log10

instance : Scalar Rat where
  decLt := inferInstance
  floorNat x := x.floor.toNat
  ceilNat x := x.ceil.toNat
  roundNat x := (x + 1 / 2).floor.toNat
  abs x := if x < 0 then -x else x
  totalLe x y := decide (x ≤ y)

end Planar
