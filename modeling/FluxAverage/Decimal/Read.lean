-- Reading decimals into binary64. Two rules are in use: the correctly rounded one (the
-- nearest binary64 value to the decimal), and the quick one of the JSON reader, which rounds
-- the significand to binary64 first and then multiplies or divides once by a power of ten,
-- so that its last bit can differ from the nearest value.
import FluxAverage.Decimal.Binary

namespace FluxAverage.Decimal

/-- The binary64 value nearest to `digits · 10^exponent`, with the given sign. -/
def nearestDecimal (negative : Bool) (digits : Nat) (exponent : Int) : Float :=
  if 0 ≤ exponent then nearest negative (digits * Nat.pow 10 exponent.toNat) 1
  else nearest negative digits (Nat.pow 10 (-exponent).toNat)

/-- The binary64 values nearest to `10^0`, …, `10^308`. -/
def powersOfTen : Array Float :=
  (List.range 309).toArray.map fun k => nearest false (Nat.pow 10 k) 1

/-- Why the quick rule gives no value: the result does not fit binary64. -/
inductive ReadFault where
  | outOfRange
  deriving Repr, DecidableEq

/-- The quick rule on a significand already in binary64: for `0 ≤ e ≤ 308` one multiplication
by `10^e`, an infinite product being out of range; for `-308 ≤ e < 0` one division by `10^-e`;
below that, divisions by `10^308` that raise the exponent until it is in the table, stopping at
zero; above `308` a nonzero significand is out of range. The fuel bounds the divisions. -/
def quickScale (fuel : Nat) (x : Float) (e : Int) : Except ReadFault Float :=
  match powersOfTen[e.natAbs]? with
  | some p =>
    if 0 ≤ e then
      let y := x * p
      if y.isInf then .error .outOfRange else .ok y
    else .ok (x / p)
  | none =>
    if x == 0 then .ok x
    else if 0 ≤ e then .error .outOfRange
    else match fuel with
      | 0 => .ok 0
      | fuel + 1 => quickScale fuel (x / powersOfTen.getD 308 0) (e + 308)

/-- The quick rule from a significand below `2^64` and a power of ten: the significand is
rounded to binary64, scaled by `quickScale`, and the sign applied last. -/
def quickDecimal (negative : Bool) (significand : Nat) (e : Int) : Except ReadFault Float := do
  let x ← quickScale (e.natAbs / 308 + 1) (Float.ofNat significand) e
  return if negative then -x else x

end FluxAverage.Decimal
