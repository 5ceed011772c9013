-- The conventions by which a flux-averaged total cross section is estimated. A run names the
-- conventions its producer follows; three of them carry enough to compute the cross section,
-- and when several are declared a declared aggregate is trusted over a per-event best
-- estimate, and both over a per-event reconstruction.

namespace FluxAverage

/-- An estimation convention. -/
inductive Strategy where
  /-- The run declares the flux-averaged total cross section itself (G.C.5). -/
  | declared
  /-- Each event carries a best estimate; the last one counts (E.C.4). -/
  | bestEstimate
  /-- Each event carries its total cross section; the estimate is the summed weight over the
  summed weight per cross section (E.C.2). -/
  | ratio
  /-- Counts events only; every cross section is one. -/
  | dummy
  deriving Repr, Inhabited, DecidableEq

namespace Strategy

/-- The token that names the convention. -/
def token : Strategy → String
  | .declared => "G.C.5"
  | .bestEstimate => "E.C.4"
  | .ratio => "E.C.2"
  | .dummy => "Dummy"

/-- The convention a token names. -/
def ofToken? : String → Option Strategy
  | "G.C.5" => some .declared
  | "E.C.4" => some .bestEstimate
  | "E.C.2" => some .ratio
  | "Dummy" => some .dummy
  | _ => none

/-- The conventions that can be detected from a run, most trusted first. -/
def detectionOrder : List Strategy := [.declared, .bestEstimate, .ratio]

end Strategy

end FluxAverage
