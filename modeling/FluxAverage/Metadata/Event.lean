-- What is read off an event: its target species (the first particle of target status, or of
-- the older target status when there is none), its total cross section, its best estimate of
-- the cross section for a weight, and its process number under either of two names.
import FluxAverage.Metadata.Typed
import FluxAverage.Model.Event

namespace FluxAverage

namespace Event

/-- The total cross section's attribute. -/
def totalCrossSectionName : String := "TotXS"

/-- The process number's attribute. -/
def processIdName : String := "signal_process_id"

/-- The process number's attribute as older files name it. -/
def legacyProcessIdName : String := "ProcID"

/-- The target species: the first particle of target status, else of the older target status. -/
def targetSpecies (e : Event) : Except Error Species :=
  match (e.firstWithStatus Status.target).orElse fun _ => e.firstWithStatus Status.legacyTarget with
  | some p => .ok ⟨p.pid⟩
  | none => .error .missingTargetParticle

/-- The event's total cross section. -/
def totalCrossSection (e : Event) : Except Error Float :=
  e.attributes.read totalCrossSectionName

/-- The best estimate of the cross section in a slot of the record. Without a record the
failure lists the event's attributes; past the record's end it lists the slots there are. -/
def bestEstimate (e : Event) (slot : Nat) : Except Error Float :=
  match e.crossSection with
  | none => .error (.missingAttribute "cross_section" e.attributes.names)
  | some values =>
    match values[slot]? with
    | some x => .ok x
    | none => .error (.missingAttribute ("cross_section[" ++ toString slot ++ "]")
        ((List.range values.length).map fun i => "cross_section[" ++ toString i ++ "]"))

/-- The process number, under the older name whenever that is present. -/
def processId (e : Event) : Except Error Int :=
  if e.attributes.contains legacyProcessIdName then e.attributes.read legacyProcessIdName
  else e.attributes.read processIdName

end Event

end FluxAverage
