-- The JSON form of units: a scale or a normalisation is the name of its case (also read as
-- an object of one member, the name with null), and a unit system is the object of its two
-- axes.
import FluxAverage.Units
import FluxAverage.Json.Value

namespace FluxAverage

namespace Scale

/-- The name of the case. -/
def caseName : Scale → String
  | .custom => "Custom"
  | .picobarn => "Picobarn"
  | .nanobarn => "Nanobarn"
  | .cm2 => "Cm2"
  | .cm2E38 => "Cm2E38"
  | .automatic => "Automatic"

/-- The scale a case name names. -/
def ofCaseName? : String → Option Scale
  | "Custom" => some .custom
  | "Picobarn" => some .picobarn
  | "Nanobarn" => some .nanobarn
  | "Cm2" => some .cm2
  | "Cm2E38" => some .cm2E38
  | "Automatic" => some .automatic
  | _ => none

/-- The JSON form. -/
def toJson (s : Scale) : Json := .str s.caseName

/-- Reads the JSON form: the case name, or an object of one member, the case name with null. -/
def ofJson? : Json → Option Scale
  | .str s => ofCaseName? s
  | .obj [(s, .null)] => ofCaseName? s
  | _ => none

end Scale

namespace TargetNorm

/-- The name of the case. -/
def caseName : TargetNorm → String
  | .custom => "Custom"
  | .perTarget => "PerTarget"
  | .perNucleon => "PerNucleon"
  | .automatic => "Automatic"

/-- The normalisation a case name names. -/
def ofCaseName? : String → Option TargetNorm
  | "Custom" => some .custom
  | "PerTarget" => some .perTarget
  | "PerNucleon" => some .perNucleon
  | "Automatic" => some .automatic
  | _ => none

/-- The JSON form. -/
def toJson (n : TargetNorm) : Json := .str n.caseName

/-- Reads the JSON form: the case name, or an object of one member, the case name with null. -/
def ofJson? : Json → Option TargetNorm
  | .str s => ofCaseName? s
  | .obj [(s, .null)] => ofCaseName? s
  | _ => none

end TargetNorm

namespace UnitSystem

/-- The JSON form: `{"scale": …, "target_norm": …}`. -/
def toJson (u : UnitSystem) : Json :=
  .obj [("scale", u.scale.toJson), ("target_norm", u.norm.toJson)]

/-- Reads a unit system from an object with both axes (other members ignored, a repeated
axis refused) or from an array of the two axes. -/
def ofJson? : Json → Option UnitSystem
  | .obj members => do
    let scales := members.filter (·.1 == "scale")
    let norms := members.filter (·.1 == "target_norm")
    match scales, norms with
    | [(_, s)], [(_, n)] => return ⟨← Scale.ofJson? s, ← TargetNorm.ofJson? n⟩
    | _, _ => none
  | .arr [s, n] => return ⟨← Scale.ofJson? s, ← TargetNorm.ofJson? n⟩
  | _ => none

end UnitSystem

end FluxAverage
