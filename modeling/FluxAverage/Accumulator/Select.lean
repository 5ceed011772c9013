-- Choosing the strategy of an accumulation: by the conventions a run declares (the most
-- trusted of the detectable ones), by name, or by configuration, where a named strategy
-- overrides the run's declaration. The central-value weight is found by its name among the
-- run's weight names.
import FluxAverage.Accumulator.Basic

namespace FluxAverage

/-- The settings of an accumulation: an optional strategy that overrides the run's conventions,
the name of the central-value weight, and the tolerance of the balance check. -/
structure AccumulatorSettings where
  conventionOverride : Option String
  cvWeightName : String
  balanceTolerance : Float
  deriving Inhabited

/-- The default settings: no override, the weight named `CV`, a tolerance of `1e-9`. -/
def AccumulatorSettings.default : AccumulatorSettings := ⟨none, "CV", 1e-9⟩

namespace Accumulator

variable {α : Type} [Scalar α]

/-- The strategy a name names; an unknown name is reported as the only declared one. -/
def named (name : String) : Except Error Strategy :=
  match Strategy.ofToken? name with
  | some s => .ok s
  | none => .error (.noMethod [name])

/-- An accumulation by the most trusted convention the run declares, with the weight of the
name as central value. -/
def ofRun (r : Run) (cvWeightName : String) : Except Error (Accumulator α) := do
  let declared ← r.conventions
  match Strategy.detectionOrder.find? (declared.contains ·.token) with
  | some s => return new s (r.weightIndex cvWeightName)
  | none => throw (.noMethod declared)

/-- An accumulation by a named strategy, with weight one for every event. -/
def ofName (name : String) : Except Error (Accumulator α) := do
  return new (← named name) none

/-- An accumulation by the settings: the override if there is one, else by the run. -/
def ofSettings (r : Run) (s : AccumulatorSettings) : Except Error (Accumulator α) :=
  match s.conventionOverride with
  | none => ofRun r s.cvWeightName
  | some name => do return new (← named name) (r.weightIndex s.cvWeightName)

end Accumulator

end FluxAverage
