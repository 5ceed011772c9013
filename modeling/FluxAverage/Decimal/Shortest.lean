-- The shortest decimal of a binary64 value: of all decimals that round back to the value,
-- those with the fewest significant digits, and of these the one nearest the value. Every
-- quantity is an exact natural, scaled so that the value and the two ends of the interval
-- that rounds to it are whole numbers.
import FluxAverage.Decimal.Binary

namespace FluxAverage.Decimal

/-- A decimal `digits · 10^exponent`. -/
structure Digits where
  digits : Nat
  exponent : Int
  deriving Repr, Inhabited, DecidableEq

/-- Number of decimal digits of a natural; zero has one. -/
def digitCount (n : Nat) : Nat :=
  if n < 10 then 1 else digitCount (n / 10) + 1
termination_by n
decreasing_by omega

/-- Drops the trailing zeros of the digits and raises the exponent to match. -/
def Digits.trim (d : Digits) : Digits :=
  if d.digits % 10 = 0 ∧ 0 < d.digits then Digits.trim ⟨d.digits / 10, d.exponent + 1⟩ else d
termination_by d.digits
decreasing_by omega

/-- The decimal digits of a natural, most significant first. -/
def digitChars (n : Nat) : List Char := (Nat.toDigits 10 n)

/-- Position of the decimal point: the value is `0.d₁d₂… · 10^point`. -/
def Digits.point (d : Digits) : Int := d.exponent + digitCount d.digits

/-- The interval of reals that round to `mantissa · 2^exponent`, scaled by `2^(exponent-2)` so
its ends are naturals: the value is `4m`, the upper end `4m+2`, and the lower end `4m-2`, or
`4m-1` when the mantissa is the least normal one (`2^52`) and the step below is half as wide.
Both ends belong to the interval when the mantissa is even, since a tie rounds to it. -/
structure Interval where
  low : Nat
  value : Nat
  high : Nat
  closed : Bool
  deriving Repr

/-- The rounding interval of a positive finite value, written as decimals sharing the exponent
`scale`: each end is the natural times `10^scale`. -/
def Interval.ofBinary (mantissa : Nat) (exponent : Int) : Interval × Int :=
  let s := exponent - 2
  let widen (x : Nat) : Nat := if 0 ≤ s then x * Nat.pow 2 s.toNat else x * Nat.pow 5 (-s).toNat
  let low := if mantissa = Nat.pow 2 52 then 4 * mantissa - 1 else 4 * mantissa - 2
  (⟨widen low, widen (4 * mantissa), widen (4 * mantissa + 2), mantissa % 2 == 0⟩, min s 0)

/-- Whether a scaled decimal lies in the interval. -/
def Interval.contains (i : Interval) (x : Nat) : Bool :=
  if i.closed then i.low ≤ x ∧ x ≤ i.high else i.low < x ∧ x < i.high

/-- How a value lying exactly halfway between its two nearest shortest decimals is settled. -/
inductive Tie where
  /-- The decimal of larger magnitude is taken. -/
  | up
  /-- The decimal whose last digit is even is taken. -/
  | even
  deriving Repr, DecidableEq

/-- The decimal with `count` significant digits nearest the value that lies in the interval,
if any: only the two neighbours of the value on that grid can lie in it. Of two, the nearer
wins, and an exact tie is settled by `tie`. -/
def Interval.onGrid (tie : Tie) (i : Interval) (count : Nat) : Option Nat :=
  let step := Nat.pow 10 (digitCount i.value - count)
  let below := i.value / step * step
  let above := below + step
  let nearer :=
    if i.value - below < above - i.value then below
    else if above - i.value < i.value - below then above
    else match tie with
      | .up => above
      | .even => if below / step % 2 = 0 then below else above
  match i.contains below, i.contains above with
  | true, true => some nearer
  | true, false => some below
  | false, true => some above
  | false, false => none

/-- The shortest decimal of the positive value `mantissa · 2^exponent` that reads back to it:
the grids of 1, 2, … digits are tried in turn and the first with a point in the interval
gives the answer. Seventeen digits always suffice for binary64; past them the exact value is
taken. -/
def shortest (tie : Tie) (mantissa : Nat) (exponent : Int) : Digits :=
  let (i, scale) := Interval.ofBinary mantissa exponent
  let exact : Digits := ⟨i.value, scale⟩
  let found := (List.range' 1 17).findSome? fun count =>
    (i.onGrid tie count).map fun x => (x, count)
  match found with
  | some (x, count) =>
    let step := digitCount i.value - count
    (Digits.mk (x / Nat.pow 10 step) (scale + step)).trim
  | none => exact.trim

end FluxAverage.Decimal
