-- Why the command line gives no report, and the structured form in which it names the cause:
-- the name of the case, then its fields in braces, texts quoted.
import FluxAverage.Error
import FluxAverage.Text.Quoted

namespace FluxAverage

/-- The structured form of a failure of the computation. -/
def Error.structured : Error → String
  | .nonStandardUnits scale norm =>
    "NonStandardUnits \x7b scale: " ++ Text.quoted scale ++ ", target_norm: " ++ Text.quoted norm ++ " \x7d"
  | .invalidUnits m => "InvalidUnits \x7b message: " ++ Text.quoted m ++ " \x7d"
  | .noMethod declared => "NoMethodToCalculateFatx \x7b declared: " ++ Text.quotedList declared ++ " \x7d"
  | .missingAttribute name known =>
    "MissingAttribute \x7b name: " ++ Text.quoted name ++ ", known: " ++ Text.quotedList known ++ " \x7d"
  | .typeMismatch name expected found =>
    "TypeMismatch \x7b name: " ++ Text.quoted name ++ ", expected: " ++ Text.quoted expected ++
      ", found: " ++ Text.quoted found ++ " \x7d"
  | .notYetInitialized what => "NotYetInitialized \x7b what: " ++ Text.quoted what ++ " \x7d"
  | .missingTargetParticle => "MissingTargetParticle"
  | .missingWeight index available =>
    "MissingWeight \x7b index: " ++ toString index ++ ", available: " ++ toString available ++ " \x7d"

/-- Why the command line gives no report. -/
inductive Failure where
  /-- The arguments do not fit the usage. -/
  | usage (message : String)
  /-- The configuration file cannot be read or is not valid. -/
  | config
  /-- The run header cannot be migrated, or no strategy can be chosen. -/
  | fatx (e : Error)
  /-- An event cannot be processed. -/
  | event (number : Nat) (e : Error)
  /-- The event stream cannot be opened or read (a line that is not UTF-8 included). -/
  | io
  /-- A line of the stream is not a valid header or event; lines count from one, blank
  lines included. -/
  | parse (line : Nat)
  /-- The stream holds no header. -/
  | emptyStream
  deriving Inhabited

namespace Failure

/-- The name of the case. -/
def kind : Failure → String
  | .usage _ => "Usage"
  | .config => "Config"
  | .fatx _ => "Fatx"
  | .event .. => "Event"
  | .io => "Io"
  | .parse _ => "Parse"
  | .emptyStream => "EmptyStream"

/-- The structured form of the failure. -/
def structured : Failure → String
  | .usage m => "Usage \x7b message: " ++ Text.quoted m ++ " \x7d"
  | .config => "Config"
  | .fatx e => "Fatx \x7b source: " ++ e.structured ++ " \x7d"
  | .event n e => "Event \x7b number: " ++ toString n ++ ", source: " ++ e.structured ++ " \x7d"
  | .io => "Io"
  | .parse line => "Parse \x7b line: " ++ toString line ++ " \x7d"
  | .emptyStream => "EmptyStream"

end Failure

end FluxAverage
