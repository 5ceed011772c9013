-- Compensated (Kahan) summation. Besides the running sum, a correction keeps the low-order
-- part that the last addition lost, and the next term is reduced by it first. In exact
-- arithmetic the correction stays zero and the sum is the plain sum.
import FluxAverage.Scalar

namespace FluxAverage

/-- A running compensated sum. -/
structure KahanSum (α : Type) where
  sum : α
  correction : α

namespace KahanSum

variable {α : Type} [Scalar α]

/-- The empty sum. -/
def empty : KahanSum α := ⟨Scalar.zero, Scalar.zero⟩

instance : Inhabited (KahanSum α) := ⟨empty⟩

/-- Adds one term: `y = x - c`, `t = s + y`, the new correction is `(t - s) - y`, and `t`
the new sum. -/
def add (k : KahanSum α) (x : α) : KahanSum α :=
  let y := x - k.correction
  let t := k.sum + y
  ⟨t, (t - k.sum) - y⟩

/-- The value of the sum. -/
def value (k : KahanSum α) : α := k.sum

/-- Adds the terms in order. -/
def addAll (k : KahanSum α) (xs : List α) : KahanSum α := xs.foldl add k

/-- The compensated sum of the terms in order. -/
def ofList (xs : List α) : KahanSum α := empty.addAll xs

/-- The value after each term, in order. -/
def partials (xs : List α) : List α :=
  ((xs.foldl (fun (acc : KahanSum α × List α) x =>
    let k := acc.1.add x
    (k, k.value :: acc.2)) (empty, [])).2).reverse

end KahanSum

end FluxAverage
