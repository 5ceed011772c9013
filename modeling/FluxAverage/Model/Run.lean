-- The header of a run of events: the names of the event weights, in the order the events
-- carry them, and the run's attributes.
import FluxAverage.Model.Attributes

namespace FluxAverage

/-- The header of a run: the names of its weights and its attributes. -/
structure Run where
  weightNames : List String
  attributes : Attributes
  deriving Inhabited

namespace Run

/-- A run with no weight names and no attributes. -/
def new : Run := ⟨[], Attributes.empty⟩

/-- Replaces the weight names. -/
def withWeightNames (r : Run) (names : List String) : Run := { r with weightNames := names }

/-- Sets an attribute. -/
def withAttribute (r : Run) (name : String) (v : AttrValue) : Run :=
  { r with attributes := r.attributes.insert name v }

/-- The position of the first weight of the name. -/
def weightIndex (r : Run) (name : String) : Option Nat := r.weightNames.idxOf? name

end Run

end FluxAverage
