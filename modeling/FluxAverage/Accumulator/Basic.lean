-- The accumulation of a flux-averaged total cross section, event by event. Every strategy keeps
-- the event count, the summed weight, the weight per species and the run's units; they differ in
-- where the point estimate comes from, which is kept in the run's units and converted on request.
import FluxAverage.Strategy
import FluxAverage.Rescale
import FluxAverage.Ledger.Balance
import FluxAverage.Metadata.Event
import FluxAverage.Metadata.Run

namespace FluxAverage

/-- The books of the ratio strategy: the summed weight and summed weight per cross section,
in total and by species, over the events with a nonzero cross section. -/
structure RatioBooks (α : Type) where
  weight : KahanSum α
  weights : Ledger α
  reciprocal : KahanSum α
  reciprocals : Ledger α

/-- Ratio books with nothing recorded. -/
def RatioBooks.empty {α : Type} [Scalar α] : RatioBooks α :=
  ⟨KahanSum.empty, Ledger.empty, KahanSum.empty, Ledger.empty⟩

/-- Records one event of weight `w` and cross section `xs` for a species. -/
def RatioBooks.record {α : Type} [Scalar α] (b : RatioBooks α) (t : Species) (w xs : α) :
    RatioBooks α :=
  let r := w / xs
  ⟨b.weight.add w, b.weights.record t w, b.reciprocal.add r, b.reciprocals.record t r⟩

/-- What a strategy keeps beside the common books. -/
inductive Estimator (α : Type) where
  /-- The declared cross section, once read. -/
  | declared (fatx : Option α)
  /-- The best estimate of the last event. -/
  | bestEstimate (value : Option α)
  /-- The ratio books. -/
  | ratio (books : RatioBooks α)
  /-- Nothing: the counting strategy. -/
  | counting

/-- The strategy an estimator belongs to. -/
def Estimator.strategy {α : Type} : Estimator α → Strategy
  | .declared _ => .declared
  | .bestEstimate _ => .bestEstimate
  | .ratio _ => .ratio
  | .counting => .dummy

/-- The estimator a strategy starts with. -/
def Estimator.start {α : Type} [Scalar α] : Strategy → Estimator α
  | .declared => .declared none
  | .bestEstimate => .bestEstimate none
  | .ratio => .ratio RatioBooks.empty
  | .dummy => .counting

/-- An accumulation in progress. -/
structure Accumulator (α : Type) where
  cvWeightIndex : Option Nat
  events : Nat
  sumWeights : KahanSum α
  weights : Ledger α
  nativeUnits : UnitSystem
  estimator : Estimator α

namespace Accumulator

variable {α : Type} [Scalar α]

/-- The largest event count; the count stops there. -/
def eventLimit : Nat := Nat.pow 2 64 - 1

/-- A fresh accumulation by a strategy, reading weights at the index (or weight one). -/
def new (s : Strategy) (cvWeightIndex : Option Nat) : Accumulator α :=
  ⟨cvWeightIndex, 0, KahanSum.empty, Ledger.empty, UnitSystem.automatic, Estimator.start s⟩

/-- The strategy. -/
def strategy (acc : Accumulator α) : Strategy := acc.estimator.strategy

/-- The summed weight. -/
def sumweights (acc : Accumulator α) : α := acc.sumWeights.value

/-- The reciprocal ledger of the ratio strategy. -/
def reciprocals? (acc : Accumulator α) : Option (Ledger α) :=
  match acc.estimator with
  | .ratio b => some b.reciprocals
  | _ => none

/-- The event's central-value weight: one without an index, else the weight there. -/
def centralWeight (acc : Accumulator α) (e : Event) : Except Error α :=
  match acc.cvWeightIndex with
  | none => .ok Scalar.one
  | some i =>
    match e.weights[i]? with
    | some w => .ok (Scalar.ofFloat w)
    | none => .error (.missingWeight i e.weights.length)

/-- Counts an event of a weight for a species. -/
def record (acc : Accumulator α) (t : Species) (w : α) : Accumulator α :=
  { acc with
    sumWeights := acc.sumWeights.add w
    weights := acc.weights.record t w
    events := min (acc.events + 1) eventLimit }

/-- Reads the run's units if they are not yet known. -/
def resolveUnits (acc : Accumulator α) (r : Run) : Except Error (Accumulator α) :=
  if acc.nativeUnits.isAutomatic then
    (fun u => { acc with nativeUnits := u }) <$> r.nativeUnits
  else .ok acc

/-- The strategy's own bookkeeping for a counted event. -/
def bookkeep (acc : Accumulator α) (r : Run) (e : Event) (t : Species) (w : α) :
    Except Error (Accumulator α) :=
  match acc.estimator with
  | .declared none =>
    (fun x => { acc with estimator := .declared (some (Scalar.ofFloat x)) }) <$> r.declaredFatx
  | .declared (some _) => .ok acc
  | .bestEstimate _ =>
    (fun x => { acc with estimator := .bestEstimate (some (Scalar.ofFloat x)) }) <$>
      e.bestEstimate (acc.cvWeightIndex.getD 0)
  | .ratio b =>
    (fun xs =>
      let xs : α := Scalar.ofFloat xs
      if Scalar.eq xs Scalar.zero then acc
      else { acc with estimator := .ratio (b.record t w xs) }) <$> e.totalCrossSection
  | .counting => .ok acc

/-- Processes one event of a run, giving the new state beside the outcome. The counting
strategy records weight one for the target. The others read the weight and the target
(a failure there changes nothing), count the event, read the run's units if not yet known,
and do their own bookkeeping; a failure after the count keeps the count. -/
def process (acc : Accumulator α) (r : Run) (e : Event) : Accumulator α × Except Error α :=
  match acc.estimator with
  | .counting =>
    match e.targetSpecies with
    | .ok t => (acc.record t Scalar.one, .ok Scalar.one)
    | .error err => (acc, .error err)
  | _ =>
    match acc.centralWeight e with
    | .error err => (acc, .error err)
    | .ok w =>
      match e.targetSpecies with
      | .error err => (acc, .error err)
      | .ok t =>
        let acc := acc.record t w
        match acc.resolveUnits r with
        | .error err => (acc, .error err)
        | .ok acc =>
          match acc.bookkeep r e t w with
          | .error err => (acc, .error err)
          | .ok acc => (acc, .ok w)

/-- The point estimate in the run's units, once its strategy has one. -/
def pointEstimate (acc : Accumulator α) : Except Error α :=
  match acc.estimator with
  | .declared (some x) => .ok x
  | .declared none => .error (.notYetInitialized "declared flux-averaged total cross section")
  | .bestEstimate (some x) => .ok x
  | .bestEstimate none => .error (.notYetInitialized "best-estimate cross section")
  | .ratio b =>
    if b.reciprocals.isEmpty then .error (.notYetInitialized "reciprocal cross-section sum")
    else .ok (b.weight.value / b.reciprocal.value)
  | .counting => .ok Scalar.one

/-- The flux-averaged total cross section in a unit system. The counting strategy gives one.
The others need the run's units and a point estimate; in the run's units the estimate is the
answer, and otherwise the system must be concrete and the estimate is converted: through the
ratio books, one estimate per species, for the ratio strategy, and by the weight ledger for
the others. -/
def fatx (acc : Accumulator α) (u : UnitSystem) : Except Error α := do
  if acc.strategy = .dummy then return Scalar.one
  if acc.nativeUnits.isAutomatic then throw (.notYetInitialized "native cross-section units")
  let est ← acc.pointEstimate
  if u = acc.nativeUnits then return est
  if !u.isConcrete then
    throw (.invalidUnits ("fatx requested in " ++ u.label ++ ", which cannot be converted to"))
  match acc.estimator with
  | .ratio b => Rescale.perTarget acc.nativeUnits u est b.weights b.weight.value b.reciprocals
  | _ => return est * (← Rescale.factor acc.nativeUnits u acc.weights acc.sumweights)

/-- Checks the weight ledger against the summed weight. -/
def checkBalance (acc : Accumulator α) (tolerance : α) : Balance α :=
  acc.weights.checkBalance acc.sumweights tolerance

end Accumulator

end FluxAverage
