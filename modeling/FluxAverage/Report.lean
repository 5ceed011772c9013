-- The report of a finished accumulation: its strategy, event count and summed weight, the
-- run's units, a row per target species (atomic and mass number, weight, and share of the
-- summed weight), the composition of the targets, and the cross section in each requested
-- unit system or the reason it cannot be given.
import FluxAverage.Accumulator.Basic
import FluxAverage.Json.Value

namespace FluxAverage

/-- One target species of the report. -/
structure TargetRow where
  target : Species
  z : Nat
  a : Nat
  weight : Float
  fraction : Float

/-- The composition of the targets. -/
structure Composition where
  totalNucleons : Nat
  totalProtons : Nat
  totalNeutrons : Nat
  averageA : Option Float
  averageZ : Option Float
  averageN : Option Float

/-- The composition of a ledger's species. -/
def Composition.ofLedger (l : Ledger Float) : Composition :=
  ⟨l.totalNucleons, l.totalProtons, l.totalNeutrons, l.averageA, l.averageZ, l.averageN⟩

/-- The report. -/
structure Report where
  strategy : Strategy
  events : Nat
  sumWeights : Float
  nativeUnits : String
  targets : List TargetRow
  composition : Composition
  estimates : List (String × Except String Float)

namespace Report

/-- The report of an accumulation, with estimates in the unit systems in order. -/
def ofAccumulator (acc : Accumulator Float) (units : List UnitSystem) : Report :=
  let total := acc.sumweights
  { strategy := acc.strategy
    events := acc.events
    sumWeights := total
    nativeUnits := acc.nativeUnits.label
    targets := acc.weights.toList.map fun (t, w) =>
      ⟨t, t.atomicNumber, t.massNumber, w, acc.weights.fraction t total⟩
    composition := Composition.ofLedger acc.weights
    estimates := units.map fun u => (u.label, (acc.fatx u).mapError Error.message) }

/-- A number of the report: a value that is not finite is `null`. -/
def number (x : Float) : Json := if x.isFinite then .num (.float x) else .null

/-- An integer of the report. -/
def count (n : Nat) : Json := .num (.nat n)

/-- A code of the report. -/
def code (n : Int) : Json := if 0 ≤ n then .num (.nat n.toNat) else .num (.neg n)

/-- The JSON form of the composition. -/
def compositionJson (c : Composition) : Json :=
  let opt : Option Float → Json := fun | some x => number x | none => .null
  .obj [("total_nucleons", count c.totalNucleons), ("total_protons", count c.totalProtons),
    ("total_neutrons", count c.totalNeutrons), ("average_a", opt c.averageA),
    ("average_z", opt c.averageZ), ("average_n", opt c.averageN)]

/-- The JSON form of the report. -/
def toJson (r : Report) : Json :=
  .obj [("convention", .str r.strategy.token), ("events", count r.events),
    ("sum_weights", number r.sumWeights), ("native_units", .str r.nativeUnits),
    ("targets", .arr (r.targets.map fun t => .obj [("target", code t.target.pdg),
      ("z", count t.z), ("a", count t.a), ("weight", number t.weight),
      ("fraction", number t.fraction)])),
    ("composition", compositionJson r.composition),
    ("estimates", .arr (r.estimates.map fun (u, e) => match e with
      | .ok v => .obj [("units", .str u), ("value", number v)]
      | .error m => .obj [("units", .str u), ("error", .str m)]))]

end Report

end FluxAverage
