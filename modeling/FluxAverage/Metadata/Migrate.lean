-- Bringing a run header of a format older than 1.0.0 into the current format. The
-- conventions are renumbered, the beam's rate unit becomes its flux unit, an older spelling
-- of the target scale is respelled, and the version is set to 1.0.0. Every read that can fail
-- comes before the first change, so a failure leaves the header as it was.
import FluxAverage.Metadata.Run

namespace FluxAverage

/-- The current spelling of a target scale that older files spell differently. -/
def currentTargetScale : String → Option String
  | "PerTarget" | "PerAtom" => some "PerTargetAtom"
  | "PerNucleon" => some "PerTargetNucleon"
  | _ => none

namespace Attributes

/-- Moves the value under one name to another name, replacing what was there. -/
def rename (a : Attributes) (source target : String) : Attributes :=
  match a.get? source with
  | some v => (a.erase source).insert target v
  | none => a

/-- Respells a target scale that is a text in an older spelling. -/
def respellTargetScale (a : Attributes) : Attributes :=
  match a.get? RunKey.targetScale with
  | some (.text declared) =>
    match currentTargetScale declared with
    | some current => a.insert RunKey.targetScale (.text current)
    | none => a
  | _ => a

/-- Declares the current format version, as three integers. -/
def setCurrentVersion (a : Attributes) : Attributes :=
  ((a.insert RunKey.major (.int FormatVersion.current.major)).insert RunKey.minor
    (.int FormatVersion.current.minor)).insert RunKey.patch (.int FormatVersion.current.patch)

end Attributes

namespace Run

/-- Migrates a header that declares a version older than the current one, and tells whether
it did; a header without a version, or of the current format or newer, is left alone. -/
def migrate (r : Run) : Except Error (Bool × Run) := do
  let some v ← r.declaredVersion | return (false, r)
  if !v.lt FormatVersion.current then return (false, r)
  let attrs ←
    if r.attributes.contains RunKey.conventions then do
      let cs ← r.conventions
      pure (r.attributes.insert RunKey.conventions (.texts cs))
    else pure r.attributes
  let attrs := (attrs.rename RunKey.legacyRateUnit RunKey.fluxUnit).respellTargetScale
  return (true, { r with attributes := attrs.setCurrentVersion })

end Run

end FluxAverage
