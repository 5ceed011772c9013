-- Whether a ledger's entries add up to the total they were recorded beside. The check is
-- relative: the difference may be at most the tolerance times the larger magnitude. When it
-- fails, the anomaly carries both totals, the relative difference and the entries.
import FluxAverage.Ledger.Basic
import FluxAverage.Decimal.Layout

namespace FluxAverage

/-- A ledger whose entries do not add up to the expected total. -/
structure Anomaly (α : Type) where
  expected : α
  recorded : α
  relativeDifference : α
  entries : List (Species × α)

/-- The outcome of a balance check. -/
inductive Balance (α : Type) where
  | balanced
  | anomaly (a : Anomaly α)

namespace Ledger

variable {α : Type} [Scalar α]

/-- Checks the ledger's total against `expected`: balanced when `|recorded - expected|` is at
most `tolerance · max(|recorded|, |expected|)`. Otherwise the relative difference is the
difference over that larger magnitude, or the difference itself when the magnitude is zero. -/
def checkBalance (l : Ledger α) (expected tolerance : α) : Balance α :=
  let recorded := l.total
  let diff := Scalar.abs (recorded - expected)
  let scale := Scalar.larger (Scalar.abs recorded) (Scalar.abs expected)
  if Scalar.le diff (tolerance * scale) then .balanced
  else
    let rd := if Scalar.lt Scalar.zero scale then diff / scale else diff
    .anomaly ⟨expected, recorded, rd, l.toList⟩

end Ledger

/-- The message of an imbalance: the number of species, both totals, and the relative
difference in exponent form. -/
def Anomaly.message (a : Anomaly Float) : String :=
  "TARGET_LEDGER_IMBALANCE: " ++ toString a.entries.length ++ " species sum to " ++
    Decimal.Layout.plain.write a.recorded ++ ", expected " ++
    Decimal.Layout.plain.write a.expected ++ " (relative difference " ++
    Decimal.Layout.exponent.write a.relativeDifference ++ ")"

end FluxAverage
