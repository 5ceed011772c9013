-- The arithmetic that weights and cross sections are computed in. The program runs in
-- binary64; the same definitions instantiated at the rationals compute the exact values
-- that the rounded ones approximate, so statements about exact arithmetic are statements
-- about this library's own code.
import FluxAverage.Decimal.Binary

namespace FluxAverage

/-- A number system for weights and cross sections: the four operations, literals, the
magnitude, comparisons, the larger of two values, and how a binary64 value enters it. -/
class Scalar (α : Type) extends Add α, Sub α, Mul α, Div α, Neg α, OfScientific α where
  /-- A count as a number. -/
  ofNat : Nat → α
  /-- The magnitude. -/
  abs : α → α
  /-- Strictly less; false when either side is not a number. -/
  lt : α → α → Bool
  /-- Less or equal; false when either side is not a number. -/
  le : α → α → Bool
  /-- Equal as numbers; a zero equals a zero of the other sign, and not-a-number nothing. -/
  eq : α → α → Bool
  /-- The larger of two values, ignoring a side that is not a number. -/
  larger : α → α → α
  /-- A binary64 value as a number of this system. -/
  ofFloat : Float → α

namespace Scalar

variable {α : Type} [Scalar α]

/-- Zero of the number system. -/
def zero : α := ofNat 0

/-- One of the number system. -/
def one : α := ofNat 1

end Scalar

/-- The larger of two binary64 values; a NaN on one side gives the other side. -/
def Float.larger (a b : Float) : Float :=
  if a.isNaN then b else if b.isNaN then a else if a < b then b else a

instance : Scalar Float where
  ofNat := Float.ofNat
  abs := Float.abs
  lt a b := decide (a < b)
  le a b := decide (a ≤ b)
  eq a b := a == b
  larger := Float.larger
  ofFloat x := x

/-- The exact rational value of a finite binary64 value; zero for a NaN or an infinity. -/
def Float.toRat (x : Float) : Rat :=
  match Decimal.Binary.ofFloat x with
  | .finite negative mantissa exponent =>
    let magnitude : Rat :=
      if 0 ≤ exponent then (mantissa * Nat.pow 2 exponent.toNat : Nat)
      else (mantissa : Rat) / ((Nat.pow 2 (-exponent).toNat : Nat) : Rat)
    if negative then -magnitude else magnitude
  | _ => 0

instance : Scalar Rat where
  ofNat n := (n : Rat)
  abs q := if q < 0 then -q else q
  lt a b := decide (a < b)
  le a b := decide (a ≤ b)
  eq a b := decide (a = b)
  larger a b := if a < b then b else a
  ofFloat := Float.toRat

end FluxAverage
