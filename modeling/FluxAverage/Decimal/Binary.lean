-- A binary64 number read off its sixty-four bits: a NaN, an infinity, or a finite magnitude
-- `mantissa · 2^exponent` with a sign. Printing reads values through this view, and the
-- nearest binary64 value to a positive rational is built back through it.

namespace FluxAverage.Decimal

/-- What a binary64 value is. A zero is finite with mantissa zero, so the sign of zero is kept. -/
inductive Binary where
  | nan
  | infinite (negative : Bool)
  | finite (negative : Bool) (mantissa : Nat) (exponent : Int)
  deriving Repr, Inhabited, DecidableEq

namespace Binary

/-- Bits in the stored fraction. -/
def fractionBits : Nat := 52

/-- The exponent of the least subnormal step, `2^-1074`. -/
def leastExponent : Int := -1074

/-- Splits a bit pattern into sign, biased exponent and fraction. A biased exponent of zero
marks a subnormal number (no hidden bit), and the all-ones exponent a NaN or infinity. -/
def ofBits (bits : UInt64) : Binary :=
  let n := bits.toNat
  let negative := n / Nat.pow 2 63 % 2 == 1
  let biased : Nat := n / Nat.pow 2 fractionBits % Nat.pow 2 11
  let fraction : Nat := n % Nat.pow 2 fractionBits
  if biased = Nat.pow 2 11 - 1 then
    if fraction = 0 then .infinite negative else .nan
  else if biased = 0 then
    .finite negative fraction leastExponent
  else
    .finite negative (fraction + Nat.pow 2 fractionBits) ((biased : Int) - 1075)

/-- The view of a `Float`. -/
def ofFloat (x : Float) : Binary := ofBits x.toBits

end Binary

/-- Builds the value `mantissa · 2^exponent` for a mantissa below `2^53` whose exponent lies in
the binary64 range, with the hidden bit placed as the format stores it; a mantissa below `2^52`
at the least exponent is a subnormal number. -/
def encodeFinite (negative : Bool) (mantissa : Nat) (exponent : Int) : Float :=
  let sign := if negative then Nat.pow 2 63 else 0
  let pattern :=
    if mantissa < Nat.pow 2 52 then mantissa
    else (exponent + 1075).toNat * Nat.pow 2 52 + (mantissa - Nat.pow 2 52)
  Float.ofBits (UInt64.ofNat (sign + pattern))

/-- Positive infinity. -/
def infinity : Float := Float.ofBits 0x7ff0000000000000

/-- Bit length of a natural: the least `k` with `n < 2^k`. -/
def bitLength (n : Nat) : Nat := if n = 0 then 0 else Nat.log2 n + 1

/-- Division rounded to the nearest natural, a half going to the even neighbour. -/
def divRoundEven (num den : Nat) : Nat :=
  let q := num / den
  let r := num % den
  if 2 * r > den ∨ (2 * r = den ∧ q % 2 = 1) then q + 1 else q

/-- The binary64 value nearest to `num / den` (both positive), a tie going to the even
mantissa; past the largest finite value it is infinity, and below the least subnormal step
it rounds to zero or to that step. The exponent is first chosen so that the quotient has 53
bits, then clamped to the subnormal range, then the quotient is rounded once. -/
def nearest (negative : Bool) (num den : Nat) : Float :=
  if num = 0 then encodeFinite negative 0 Binary.leastExponent
  else
    -- `num / den` lies in `[2^(guess-1), 2^(guess+1))`
    let guess : Int := (bitLength num : Int) - bitLength den
    let scaled (e : Int) : Nat × Nat :=
      if 0 ≤ e then (num, den * Nat.pow 2 e.toNat) else (num * Nat.pow 2 (-e).toNat, den)
    -- the exponent that gives a quotient in `[2^52, 2^53)`
    let e0 := guess - 53
    let e1 := if (scaled e0).1 / (scaled e0).2 ≥ Nat.pow 2 53 then e0 + 1 else e0
    let e2 := if (scaled e1).1 / (scaled e1).2 < Nat.pow 2 52 then e1 - 1 else e1
    let e := max e2 Binary.leastExponent
    let q := divRoundEven (scaled e).1 (scaled e).2
    let (q, e) := if q = Nat.pow 2 53 then (Nat.pow 2 52, e + 1) else (q, e)
    if e + 52 > 1023 then (if negative then -infinity else infinity)
    else encodeFinite negative q e

end FluxAverage.Decimal
