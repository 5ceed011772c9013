-- The settings of the program: the strategy override, the central-value weight and the balance
-- tolerance, the report's unit systems, and logging. They are read from YAML with a default for
-- every field, and two environment variables may then override the strategy and the weight.
import FluxAverage.Accumulator.Select
import FluxAverage.Yaml.Document
import FluxAverage.Yaml.Scalar
import FluxAverage.Text.Blank

namespace FluxAverage

/-- A unit system of the report as declared: a scale and a target normalisation string. -/
structure UnitSpec where
  scale : String
  targetNorm : String
  deriving Inhabited

/-- The unit system a declaration names. -/
def UnitSpec.unitSystem (u : UnitSpec) : UnitSystem := UnitSystem.ofDeclared u.scale u.targetNorm

/-- The settings of the program. -/
structure Config where
  accumulator : AccumulatorSettings
  units : List UnitSpec
  logLevel : String
  progressInterval : Nat
  deriving Inhabited

namespace Config

/-- The report's default unit systems: picobarn per target atom, `1e-38 cm2` per nucleon. -/
def defaultUnits : List UnitSpec := [⟨"pb", "PerTargetAtom"⟩, ⟨"1e-38 cm2", "PerTargetNucleon"⟩]

/-- Every setting at its default. -/
def default : Config := ⟨AccumulatorSettings.default, defaultUnits, "info", 10000⟩

/-- The variable that overrides the strategy. -/
def conventionVariable : String := "NUFATX_CONVENTION"

/-- The variable that overrides the name of the central-value weight. -/
def weightVariable : String := "NUFATX_CV_WEIGHT"

/-- Applies the overrides that the lookup finds; an empty value overrides too. -/
def withOverrides (c : Config) (lookup : String → Option String) : Config :=
  let a := c.accumulator
  let a := match lookup conventionVariable with
    | some v => { a with conventionOverride := some v }
    | none => a
  let a := match lookup weightVariable with
    | some v => { a with cvWeightName := v }
    | none => a
  { c with accumulator := a }

end Config

namespace Yaml.Document

/-- The entries of a record: a mapping, or none for the empty document or an empty plain
scalar. -/
def entries? (d : Document) (n : Node) : Option (List (Node × Node)) :=
  match d.resolve n with
  | .map es => some es
  | .empty => some []
  | .scalar "" .plain _ => some []
  | _ => none

/-- The items of a list: a sequence, or none for an empty plain scalar. -/
def items? (d : Document) (n : Node) : Option (List Node) :=
  match d.resolve n with
  | .seq xs => some xs
  | .empty => some []
  | .scalar "" .plain _ => some []
  | _ => none

/-- A text: any scalar, as written. -/
def text? (d : Document) (n : Node) : Option String :=
  match d.resolve n with
  | .scalar s _ _ => some s
  | _ => none

/-- An optional text: absent as `Yaml.readAbsent?` says, otherwise any scalar's text. -/
def optionalText? (d : Document) (n : Node) : Option (Option String) :=
  match d.resolve n with
  | .scalar s style tag => do
    if ← Yaml.readAbsent? s style tag then return none else return some s
  | .empty => some none
  | _ => none

/-- A floating-point number, read as `Yaml.readFloat?` says. -/
def float? (d : Document) (n : Node) : Option Float :=
  match d.resolve n with
  | .scalar s style tag => Yaml.readFloat? s style tag
  | _ => none

/-- A 64-bit count, read as `Yaml.readCount?` says. -/
def count? (d : Document) (n : Node) : Option Nat :=
  match d.resolve n with
  | .scalar s style tag => Yaml.readCount? s style tag
  | _ => none

/-- The fields of a record by name; a field given twice, or a key that is not a scalar, is
refused. -/
def fields (d : Document) (names : List String) (n : Node) : Option (List (Option Node)) := do
  let es ← d.entries? n
  let keyed ← es.mapM fun (k, v) => (·, v) <$> d.text? k
  names.mapM fun name =>
    match keyed.filter (·.1 == name) with
    | [] => some none
    | [(_, v)] => some (some v)
    | _ => none

/-- A field with a default for its absence. -/
def orDefault {α : Type} (dflt : α) (f : Node → Option α) : Option Node → Option α
  | some v => f v
  | none => some dflt

end Yaml.Document

namespace Config

open Yaml.Document in
/-- Reads the accumulation settings. -/
def accumulatorOf? (d : Yaml.Document) (n : Yaml.Node) : Option AccumulatorSettings := do
  match ← d.fields ["convention_override", "cv_weight_name", "balance_tolerance"] n with
  | [c, w, t] =>
    return ⟨← orDefault none d.optionalText? c, ← orDefault "CV" d.text? w,
      ← orDefault 1e-9 d.float? t⟩
  | _ => none

open Yaml.Document in
/-- Reads a declared unit system; both fields are required. -/
def unitSpecOf? (d : Yaml.Document) (n : Yaml.Node) : Option UnitSpec := do
  match ← d.fields ["scale", "target_norm"] n with
  | [some s, some t] => return ⟨← d.text? s, ← d.text? t⟩
  | _ => none

open Yaml.Document in
/-- Reads the settings from a YAML document. -/
def ofDocument? (d : Yaml.Document) : Option Config := do
  match ← d.fields ["accumulator", "output", "logging"] d.root with
  | [a, o, l] =>
    let acc ← orDefault AccumulatorSettings.default (accumulatorOf? d) a
    let units ← orDefault defaultUnits (fun o => do
      match ← d.fields ["units"] o with
      | [u] => orDefault defaultUnits (fun u => do (← d.items? u).mapM (unitSpecOf? d)) u
      | _ => none) o
    let (level, interval) ← orDefault ("info", 10000) (fun l => do
      match ← d.fields ["level", "progress_interval"] l with
      | [lv, pi] => return (← orDefault "info" d.text? lv, ← orDefault 10000 d.count? pi)
      | _ => none) l
    return ⟨acc, units, level, interval⟩
  | _ => none

/-- Reads the settings from YAML text; a text of blanks gives the defaults. -/
def parse? (yaml : String) : Option Config :=
  if Text.isBlankText yaml then some default
  else Yaml.Document.read? yaml >>= ofDocument?

end Config

end FluxAverage
