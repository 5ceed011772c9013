-- Converting a cross section between unit systems. A change of scale is a constant factor.
-- A change of target normalisation is not: for a mixture of nuclei each species contributes
-- its share of the weight, divided by its nucleon count (per target to per nucleon) or times
-- the nucleon count of all species (per nucleon to per target).
import FluxAverage.Units
import FluxAverage.Error
import FluxAverage.Ledger.Basic

namespace FluxAverage

namespace Rescale

variable {α : Type} [Scalar α]

/-- How one concrete system converts to another. -/
inductive Conversion (α : Type) where
  | sameNorm (factor : α)
  | targetToNucleon (factor : α)
  | nucleonToTarget (factor : α)

/-- The factor from one scale to another: one for the same scale, else the ratio of their
sizes in picobarns. -/
def scaleFactor (source target : Scale) : Except Error α :=
  if source = target then .ok Scalar.one
  else match (source.picobarns : Option α), (target.picobarns : Option α) with
    | some f, some t => .ok (f / t)
    | _, _ => .error (.invalidUnits
        ("no conversion factor between scales " ++ source.symbol ++ " and " ++ target.symbol))

/-- Sorts a conversion; both systems must be concrete. -/
def classify (source target : UnitSystem) : Except Error (Conversion α) := do
  if !source.isConcrete || !target.isConcrete then
    throw (.invalidUnits ("cannot convert " ++ source.label ++ " to " ++ target.label ++
      ": custom or undetermined units"))
  let sf ← scaleFactor source.scale target.scale
  match source.norm, target.norm with
  | .perTarget, .perTarget | .perNucleon, .perNucleon => return .sameNorm sf
  | .perTarget, .perNucleon => return .targetToNucleon sf
  | .perNucleon, .perTarget => return .nucleonToTarget sf
  | _, _ => throw (.invalidUnits ("only /Target and /Nucleon conversions are supported; " ++
      "native unit " ++ source.label ++ ", requested " ++ target.label))

/-- The nucleon count of a species, which must have nucleons to normalise per nucleon. -/
def nucleons (t : Species) : Except Error α :=
  match t.massNumber with
  | 0 => .error (.invalidUnits
      ("target " ++ t.toText ++ " has no nucleons; cannot normalize per nucleon"))
  | a => .ok (Scalar.ofNat a)

/-- The compensated sum of the nucleon counts of the ledger's species. -/
def totalNucleons (l : Ledger α) : α :=
  (KahanSum.ofList (l.species.map fun t => (Scalar.ofNat t.massNumber : α))).value

/-- A weight ledger fit to convert with: not empty, and a total weight that is not zero. -/
def checkWeights (weights : Ledger α) (totalWeight : α) : Except Error Unit :=
  if weights.isEmpty || Scalar.le (Scalar.abs totalWeight) Scalar.zero then
    .error (.notYetInitialized "target weight ledger")
  else .ok ()

/-- Adds the terms in order to a compensated sum; the first failing term stops it. -/
def sumFrom (k : KahanSum α) : List (Except Error α) → Except Error α
  | [] => .ok k.value
  | .ok x :: rest => sumFrom (k.add x) rest
  | .error e :: _ => .error e

/-- The compensated sum of the terms, or the failure of the first failing one. -/
def sumTerms (terms : List (Except Error α)) : Except Error α := sumFrom KahanSum.empty terms

/-- The factor that converts a cross section in `source` into `target`, weighting each species
by its share `w / W` of the total weight `W`: per target to per nucleon sums
`sf · (w / W) / A` over the species, per nucleon to per target sums `sf · N · (w / W)` with
`N` the nucleons of all species. -/
def factor (source target : UnitSystem) (weights : Ledger α) (totalWeight : α) :
    Except Error α := do
  match ← classify source target with
  | .sameNorm sf => return sf
  | .targetToNucleon sf =>
    checkWeights weights totalWeight
    sumTerms (weights.toList.map fun (t, w) => do
      let a ← nucleons t
      return sf * (w / totalWeight) / a)
  | .nucleonToTarget sf =>
    checkWeights weights totalWeight
    let n := totalNucleons weights
    sumTerms (weights.toList.map fun (_, w) => .ok (sf * n * (w / totalWeight)))

/-- Converts a cross section built from one estimate per species, `w / r` for a species of
weight `w` and summed reciprocal cross section `r`: each species' share of the total weight
scales its own estimate, divided by its nucleons (to per nucleon) or times the nucleons `N` of
all species of the reciprocal ledger (to per target). A species without weight counts zero. -/
def perTarget (source target : UnitSystem) (estimate : α) (weights : Ledger α)
    (totalWeight : α) (reciprocals : Ledger α) : Except Error α := do
  let (sf, toNucleon) ← match ← classify source target with
    | .sameNorm sf => return estimate * sf
    | .targetToNucleon sf => pure (sf, true)
    | .nucleonToTarget sf => pure (sf, false)
  checkWeights weights totalWeight
  if reciprocals.isEmpty then throw (.notYetInitialized "reciprocal cross-section ledger")
  let n := totalNucleons reciprocals
  sumTerms (reciprocals.toList.map fun (t, r) => do
    let w := (weights.get? t).getD Scalar.zero
    let share := (w / r) * sf * (w / totalWeight)
    if toNucleon then
      let a ← nucleons t
      return share / a
    else return share * n)

end Rescale

end FluxAverage
