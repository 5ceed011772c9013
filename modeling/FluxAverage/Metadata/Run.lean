-- What is read off a run header: the conventions its producer follows, its cross-section
-- units, its declared flux-averaged cross section, its exposure, and the version of the
-- format it was written in. Conventions of a format older than 1.0.0 are numbered
-- differently and are renumbered on reading.
import FluxAverage.Metadata.Typed
import FluxAverage.Model.Run
import FluxAverage.Units

namespace FluxAverage

-- Attribute names of a run header.
namespace RunKey

def conventions : String := "NuHepMC.Conventions"
def fatx : String := "NuHepMC.FluxAveragedTotalCrossSection"
def unit : String := "NuHepMC.Units.CrossSection.Unit"
def targetScale : String := "NuHepMC.Units.CrossSection.TargetScale"
def nEvents : String := "NuHepMC.Exposure.NEvents"
def pot : String := "NuHepMC.Exposure.POT"
def livetime : String := "NuHepMC.Exposure.Livetime"
def major : String := "NuHepMC.Version.Major"
def minor : String := "NuHepMC.Version.Minor"
def patch : String := "NuHepMC.Version.Patch"
def fluxUnit : String := "NuHepMC.Beam.FluxUnit"
def legacyRateUnit : String := "NuHepMC.Beam.RateUnit"

end RunKey

/-- A format version, ordered lexicographically. -/
structure FormatVersion where
  major : Int
  minor : Int
  patch : Int
  deriving Repr, Inhabited, DecidableEq

namespace FormatVersion

/-- The current format, 1.0.0. -/
def current : FormatVersion := ⟨1, 0, 0⟩

/-- Lexicographic order on major, minor and patch. -/
def lt (a b : FormatVersion) : Bool :=
  a.major < b.major || (a.major == b.major && (a.minor < b.minor ||
    (a.minor == b.minor && a.patch < b.patch)))

/-- The version as `major.minor.patch`. -/
def label (v : FormatVersion) : String :=
  toString v.major ++ "." ++ toString v.minor ++ "." ++ toString v.patch

end FormatVersion

/-- Inserts a text into an ascending list without repeats. -/
def insertText (s : String) : List String → List String
  | [] => [s]
  | t :: rest => if s < t then s :: t :: rest else if s = t then t :: rest else t :: insertText s rest

/-- The texts as an ascending list without repeats. -/
def textSet (xs : List String) : List String := xs.foldl (fun acc s => insertText s acc) []

/-- The current name of a convention of a format older than 1.0.0: G.C.1, G.C.2 and G.C.4 are
withdrawn; G.C.3 and G.C.5 to G.C.8 move down (to G.C.1 and G.C.2 to G.C.5); others keep
their names. -/
def renumberLegacy : String → Option String
  | "G.C.1" | "G.C.2" | "G.C.4" => none
  | "G.C.3" => some "G.C.1"
  | "G.C.5" => some "G.C.2"
  | "G.C.6" => some "G.C.3"
  | "G.C.7" => some "G.C.4"
  | "G.C.8" => some "G.C.5"
  | other => some other

namespace Run

/-- The version of the format: major, minor and patch, read in that order. -/
def version (r : Run) : Except Error FormatVersion := do
  let major ← r.attributes.read RunKey.major
  let minor ← r.attributes.read RunKey.minor
  let patch ← r.attributes.read RunKey.patch
  return ⟨major, minor, patch⟩

/-- The declared version; none when the major number is absent. -/
def declaredVersion (r : Run) : Except Error (Option FormatVersion) :=
  if r.attributes.contains RunKey.major then some <$> r.version else .ok none

/-- Whether the run declares a version older than the current format. -/
def predatesCurrentFormat (r : Run) : Except Error Bool := do
  match ← r.declaredVersion with
  | some v => return v.lt FormatVersion.current
  | none => return false

/-- The declared conventions as an ascending set, renumbered for older formats. The list is
read before the version. -/
def conventions (r : Run) : Except Error (List String) := do
  let declared : List String ← r.attributes.readOr RunKey.conventions []
  if ← r.predatesCurrentFormat then return textSet (declared.filterMap renumberLegacy)
  else return textSet declared

/-- Whether the run declares a convention. -/
def signals (r : Run) (c : String) : Except Error Bool := do
  return (← r.conventions).contains c

/-- Whether the run declares all of the conventions. -/
def signalsAll (r : Run) (cs : List String) : Except Error Bool := do
  let declared ← r.conventions
  return cs.all declared.contains

/-- The declared unit and target scale, `pb` and `PerTargetAtom` when absent. -/
def crossSectionUnits (r : Run) : Except Error (String × String) := do
  let scale ← r.attributes.readOr RunKey.unit "pb"
  let norm ← r.attributes.readOr RunKey.targetScale "PerTargetAtom"
  return (scale, norm)

/-- The units the run's cross sections are in; a unit outside the vocabulary is refused. -/
def nativeUnits (r : Run) : Except Error UnitSystem := do
  let (scale, norm) ← r.crossSectionUnits
  let u := UnitSystem.ofDeclared scale norm
  if u.isCustom then throw (.nonStandardUnits scale norm)
  return u

/-- The declared flux-averaged total cross section. -/
def declaredFatx (r : Run) : Except Error Float := r.attributes.read RunKey.fatx

/-- The number of events of the exposure. -/
def exposureEvents (r : Run) : Except Error Int := r.attributes.read RunKey.nEvents

/-- The protons on target of the exposure. -/
def exposurePot (r : Run) : Except Error Float := r.attributes.read RunKey.pot

/-- The live time of the exposure. -/
def exposureLivetime (r : Run) : Except Error Float := r.attributes.read RunKey.livetime

end Run

end FluxAverage
