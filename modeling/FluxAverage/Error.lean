-- Why a cross section cannot be given. Each cause carries what its message needs; the message
-- is written in one place, and so is the structured (field by field) form that the command
-- line reports.

namespace FluxAverage

/-- A cause of failure. -/
inductive Error where
  /-- The run declares a unit outside the standard vocabulary. -/
  | nonStandardUnits (scale norm : String)
  /-- A requested conversion between units is not possible. -/
  | invalidUnits (message : String)
  /-- None of the supported estimation conventions is declared. -/
  | noMethod (declared : List String)
  /-- An attribute is absent; the names that are present are listed. -/
  | missingAttribute (name : String) (known : List String)
  /-- An attribute holds another type than the one asked for. -/
  | typeMismatch (name expected found : String)
  /-- A quantity has not received its first contribution. -/
  | notYetInitialized (what : String)
  /-- The event has no particle of target status. -/
  | missingTargetParticle
  /-- The central-value weight index is past the event's weights. -/
  | missingWeight (index available : Nat)
  deriving Repr, Inhabited, DecidableEq

namespace Error

/-- Joins names with a comma and a blank. -/
def joinNames (names : List String) : String := ", ".intercalate names

/-- The kind of the failure, by name. -/
def kind : Error → String
  | .nonStandardUnits .. => "NonStandardUnits"
  | .invalidUnits .. => "InvalidUnits"
  | .noMethod .. => "NoMethodToCalculateFatx"
  | .missingAttribute .. => "MissingAttribute"
  | .typeMismatch .. => "TypeMismatch"
  | .notYetInitialized .. => "NotYetInitialized"
  | .missingTargetParticle => "MissingTargetParticle"
  | .missingWeight .. => "MissingWeight"

/-- The message of the failure. -/
def message : Error → String
  | .nonStandardUnits scale norm =>
    "non-standard cross-section units declared: " ++ scale ++ " " ++ norm
  | .invalidUnits m => "invalid units: " ++ m
  | .noMethod declared =>
    "no method to calculate the flux-averaged total cross section " ++
      "(supported: G.C.5, E.C.4, E.C.2); declared: [" ++ joinNames declared ++ "]"
  | .missingAttribute name known =>
    "missing attribute `" ++ name ++ "`; known attributes: [" ++ joinNames known ++ "]"
  | .typeMismatch name expected found =>
    "attribute `" ++ name ++ "` has type " ++ found ++ ", expected " ++ expected
  | .notYetInitialized what => "not yet initialized: " ++ what
  | .missingTargetParticle => "event has no target particle (status 20, or legacy status 11)"
  | .missingWeight index available =>
    "central-value weight index " ++ toString index ++ " out of range; event carries " ++
      toString available ++ " weight(s)"

end Error

end FluxAverage
