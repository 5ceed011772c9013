-- One generated event: its number, its weights (one per weight name of the run), its
-- particles with their status codes, its attributes, and optionally a record of
-- cross-section estimates, one per weight.
import FluxAverage.Species
import FluxAverage.Model.Attributes

namespace FluxAverage

/-- A particle of an event: its PDG code and its status code. -/
structure Particle where
  pid : Int
  status : Int
  deriving Repr, Inhabited, DecidableEq

-- Status codes of particles.
namespace Status

/-- The incoming beam particle. -/
def beam : Int := 4

/-- The target particle. -/
def target : Int := 20

/-- The target particle as older files mark it. -/
def legacyTarget : Int := 11

end Status

/-- An event. -/
structure Event where
  number : Nat
  weights : List Float
  particles : List Particle
  attributes : Attributes
  crossSection : Option (List Float)
  deriving Inhabited

namespace Event

/-- An event with a number and nothing else. -/
def new (number : Nat) : Event := ⟨number, [], [], Attributes.empty, none⟩

/-- Replaces the weights. -/
def withWeights (e : Event) (ws : List Float) : Event := { e with weights := ws }

/-- Appends a particle. -/
def withParticle (e : Event) (pid status : Int) : Event :=
  { e with particles := e.particles ++ [⟨pid, status⟩] }

/-- Appends a target particle of the species. -/
def withTarget (e : Event) (t : Species) : Event := e.withParticle t.pdg Status.target

/-- Sets an attribute. -/
def withAttribute (e : Event) (name : String) (v : AttrValue) : Event :=
  { e with attributes := e.attributes.insert name v }

/-- Replaces the cross-section record. -/
def withCrossSection (e : Event) (values : List Float) : Event :=
  { e with crossSection := some values }

/-- The first particle with the status code. -/
def firstWithStatus (e : Event) (status : Int) : Option Particle :=
  e.particles.find? (·.status == status)

end Event

end FluxAverage
