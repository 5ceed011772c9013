-- How a binary64 value is written as text. The digits come from `shortest`; a `Layout`
-- record holds the decisions of one written form: where positional notation ends, whether a
-- whole number keeps `.0`, the exponent mark, and the words for the values that are not finite.
import FluxAverage.Decimal.Shortest

namespace FluxAverage.Decimal

/-- When a decimal is written positionally rather than as digits and an exponent. -/
inductive Notation where
  /-- Always positionally, however many zeros that takes. -/
  | positional
  /-- Always as a mantissa with one leading digit and an exponent. -/
  | scientific
  /-- Positionally when the point position `k` (the value is `0.d₁d₂… · 10^k`) satisfies
  `low < k ≤ high`, and as mantissa and exponent otherwise. -/
  | positionalWithin (low high : Int)
  deriving Repr, DecidableEq

/-- The decisions of one written form of binary64 numbers. -/
structure Layout where
  form : Notation
  /-- A whole number written positionally ends in `.0`. -/
  pointZero : Bool
  /-- The mark between mantissa and exponent. -/
  exponentMark : String
  nanText : String
  infinityText : String
  /-- How a value halfway between its two nearest shortest decimals is written. -/
  tie : Tie
  deriving Repr

/-- `n` zeros. -/
def zeros (n : Nat) : String := String.ofList (List.replicate n '0')

/-- The digits of `d` with the point at position `k` (value `0.d₁d₂… · 10^k`). -/
def writePositional (pointZero : Bool) (ds : List Char) (k : Int) : String :=
  if k ≤ 0 then "0." ++ zeros (-k).toNat ++ String.ofList ds
  else if k < ds.length then
    String.ofList (ds.take k.toNat) ++ "." ++ String.ofList (ds.drop k.toNat)
  else String.ofList ds ++ zeros (k.toNat - ds.length) ++ (if pointZero then ".0" else "")

/-- One digit, the rest after a point (if any), then the mark and the power of ten of the
leading digit. -/
def writeScientific (mark : String) (ds : List Char) (k : Int) : String :=
  let rest := ds.drop 1
  String.ofList (ds.take 1) ++ (if rest.isEmpty then "" else "." ++ String.ofList rest) ++
    mark ++ toString (k - 1)

/-- Writes a decimal by a layout; zero is the single digit `0` with its point after it. -/
def Layout.writeDigits (l : Layout) (d : Digits) : String :=
  let ds := digitChars d.digits
  let k := d.point
  let positional := match l.form with
    | .positional => true
    | .scientific => false
    | .positionalWithin low high => low < k ∧ k ≤ high
  if positional then writePositional l.pointZero ds k else writeScientific l.exponentMark ds k

/-- Writes a binary64 value: the sign (also of zero), then the shortest digits by the layout. -/
def Layout.write (l : Layout) (x : Float) : String :=
  match Binary.ofFloat x with
  | .nan => l.nanText
  | .infinite negative => (if negative then "-" else "") ++ l.infinityText
  | .finite negative mantissa exponent =>
    let d := if mantissa = 0 then ⟨0, 0⟩ else shortest l.tie mantissa exponent
    (if negative then "-" else "") ++ l.writeDigits d

/-- Numbers inside messages and the accumulator's summary: always positional, whole numbers
without a point (`100`, `0.0000001`, `-0`), and `NaN`, `inf`; a halfway value rounds up. -/
def Layout.plain : Layout := ⟨.positional, false, "e", "NaN", "inf", .up⟩

/-- Numbers in exponent form, as the ledger's imbalance message writes the relative difference:
`9.900990099009901e-3`, `1e0`, `0e0`; a halfway value rounds up. -/
def Layout.exponent : Layout := ⟨.scientific, false, "e", "NaN", "inf", .up⟩

end FluxAverage.Decimal
