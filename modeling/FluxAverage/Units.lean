-- Cross-section units. A unit system pairs an area scale with a target normalisation (per
-- whole target or per target nucleon). Declared strings outside the standard vocabulary are
-- custom, and a system not yet read from the run is automatic; neither can be converted.
import FluxAverage.Scalar

namespace FluxAverage

/-- The area unit of a cross section. -/
inductive Scale where
  | custom
  | picobarn
  | nanobarn
  | cm2
  | cm2E38
  | automatic
  deriving Repr, Inhabited, DecidableEq

/-- What a cross section is counted per. -/
inductive TargetNorm where
  | custom
  | perTarget
  | perNucleon
  | automatic
  deriving Repr, Inhabited, DecidableEq

/-- A scale with a target normalisation. -/
structure UnitSystem where
  scale : Scale
  norm : TargetNorm
  deriving Repr, Inhabited, DecidableEq

namespace Scale

/-- The scale of a declared unit string; anything outside `pb`, `nb`, `cm2` and `1e-38 cm2`
(matched exactly) is custom. -/
def ofDeclared : String → Scale
  | "pb" => .picobarn
  | "nb" => .nanobarn
  | "cm2" => .cm2
  | "1e-38 cm2" => .cm2E38
  | _ => .custom

/-- The size of the scale in picobarns; none for a custom or automatic scale. -/
def picobarns {α : Type} [Scalar α] : Scale → Option α
  | .picobarn => some 1.0
  | .nanobarn => some 1e3
  | .cm2 => some 1e36
  | .cm2E38 => some 1e-2
  | .custom | .automatic => none

/-- The symbol of the scale. -/
def symbol : Scale → String
  | .custom => "CustomXSUnit"
  | .picobarn => "pb"
  | .nanobarn => "nb"
  | .cm2 => "cm2"
  | .cm2E38 => "1e-38 cm2"
  | .automatic => "Automatic"

/-- All scales, in the order of their declaration. -/
def all : List Scale := [.custom, .picobarn, .nanobarn, .cm2, .cm2E38, .automatic]

end Scale

namespace TargetNorm

/-- The normalisation of a declared string: `PerTargetAtom`, `PerAtom` and `PerTarget` are per
target, `PerTargetNucleon` and `PerNucleon` per nucleon, anything else custom. -/
def ofDeclared : String → TargetNorm
  | "PerTargetAtom" | "PerAtom" | "PerTarget" => .perTarget
  | "PerTargetNucleon" | "PerNucleon" => .perNucleon
  | _ => .custom

/-- The name a run declares the normalisation by. -/
def declaredName : TargetNorm → String
  | .custom => "CustomTargetScale"
  | .perTarget => "PerTargetAtom"
  | .perNucleon => "PerTargetNucleon"
  | .automatic => "Automatic"

/-- The name the normalisation is shown by. -/
def label : TargetNorm → String
  | .custom => "CustomTargetScale"
  | .perTarget => "PerTarget"
  | .perNucleon => "PerTargetNucleon"
  | .automatic => "Automatic"

/-- All normalisations, in the order of their declaration. -/
def all : List TargetNorm := [.custom, .perTarget, .perNucleon, .automatic]

end TargetNorm

namespace UnitSystem

/-- The system not yet read from a run. -/
def automatic : UnitSystem := ⟨.automatic, .automatic⟩

/-- Picobarn per target. -/
def pbPerTarget : UnitSystem := ⟨.picobarn, .perTarget⟩

/-- `1e-38 cm2` per nucleon. -/
def cm2E38PerNucleon : UnitSystem := ⟨.cm2E38, .perNucleon⟩

/-- The system of a declared scale and normalisation. -/
def ofDeclared (scale norm : String) : UnitSystem := ⟨Scale.ofDeclared scale, TargetNorm.ofDeclared norm⟩

/-- Either axis is custom. -/
def isCustom (u : UnitSystem) : Bool := u.scale == .custom || u.norm == .custom

/-- Either axis is automatic. -/
def isAutomatic (u : UnitSystem) : Bool := u.scale == .automatic || u.norm == .automatic

/-- Neither axis is custom or automatic, so the system can be converted. -/
def isConcrete (u : UnitSystem) : Bool := !u.isCustom && !u.isAutomatic

/-- The system shown as `[scale, normalisation]`. -/
def label (u : UnitSystem) : String := "[" ++ u.scale.symbol ++ ", " ++ u.norm.label ++ "]"

/-- All 24 systems, scales outer and normalisations inner, each in declaration order. -/
def all : List UnitSystem := Scale.all.flatMap fun s => TargetNorm.all.map fun n => ⟨s, n⟩

end UnitSystem

end FluxAverage
