-- The text summary of an accumulation, one item per line. It names the strategy and the
-- event count; the counting strategy then lists the events per target. The others give the
-- summed weight, the weight per target when there are several, the run's units, the estimate
-- per target in picobarn and per nucleon in `1e-38 cm2`, and their own state.
import FluxAverage.Accumulator.Basic
import FluxAverage.Decimal.Layout

namespace FluxAverage

namespace Accumulator

/-- A number as the summary writes it. -/
def numberText (x : Float) : String := Decimal.Layout.plain.write x

/-- The estimate in a unit system, or why it is unavailable. -/
def estimateText (acc : Accumulator Float) (u : UnitSystem) (label : String) : String :=
  match acc.fatx u with
  | .ok v => numberText v ++ " " ++ label
  | .error e => "unavailable in " ++ label ++ " (" ++ e.message ++ ")"

/-- One line per species: its code and a number. -/
def speciesLines (rows : List (Species × Float)) : List String :=
  rows.map fun (t, x) => "  " ++ t.toText ++ "  " ++ numberText x

/-- The lines of the strategy's own state. -/
def strategyLines (acc : Accumulator Float) : List String :=
  match acc.estimator with
  | .declared (some v) => ["declared fatx: " ++ numberText v]
  | .declared none => ["declared fatx: not yet read"]
  | .bestEstimate (some v) => ["best estimate: " ++ numberText v]
  | .bestEstimate none => ["best estimate: not yet read"]
  | .ratio b =>
    if b.reciprocals.size > 1 then
      ["target sumw / reciprocal xs:", "  Target PDG  sumw/rxs", "  --------------------"] ++
        speciesLines (b.reciprocals.toList.map fun (t, r) => (t, (b.weights.get? t).getD 0 / r))
    else []
  | .counting => []

/-- The lines of the summary. -/
def summaryLines (acc : Accumulator Float) : List String :=
  let head := ["accumulator: " ++ acc.strategy.token, "events: " ++ toString acc.events]
  match acc.estimator with
  | .counting => head ++ ["target events:"] ++ speciesLines acc.weights.toList
  | _ =>
    head ++ ["sumweights: " ++ numberText acc.sumweights] ++
      (if acc.weights.size > 1 then
        ["target weights:", "  Target PDG  sumw", "  ----------------"] ++
          speciesLines acc.weights.toList
      else []) ++
      ["native units: " ++ acc.nativeUnits.label,
       "fatx: " ++ acc.estimateText UnitSystem.pbPerTarget "pb/Target" ++ ", " ++
         acc.estimateText UnitSystem.cm2E38PerNucleon "1e-38 cm2/Nucleon"] ++
      acc.strategyLines

/-- The summary: every line ends with a line break. -/
def summary (acc : Accumulator Float) : String :=
  String.join ((acc.summaryLines).map (· ++ "\n"))

end Accumulator

end FluxAverage
