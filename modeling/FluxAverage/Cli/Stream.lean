-- The event stream: lines of records, the first that is not blank a run header and each later one
-- an event. How a line reads as a record is the reader's business. The header is migrated, the
-- strategy chosen, and the events processed in order until the first that fails.
import FluxAverage.Cli.Failure
import FluxAverage.Config
import FluxAverage.Metadata.Migrate
import FluxAverage.Report

namespace FluxAverage

/-- How a line of the stream reads as a record: as a run header, as an event, or as neither. -/
structure LineReader where
  run : String → Option Run
  event : String → Option Event

namespace Stream

/-- Splits bytes into lines at line feeds; a carriage return before a line feed is dropped,
and a last line without a line feed counts if it is not empty. -/
def splitLines (acc : List UInt8) : List UInt8 → List (List UInt8)
  | [] => if acc.isEmpty then [] else [acc.reverse]
  | b :: rest =>
    if b == 10 then
      let line := match acc with
        | 13 :: earlier => earlier.reverse
        | _ => acc.reverse
      line :: splitLines [] rest
    else splitLines (b :: acc) rest

/-- The lines of a stream with their numbers, from one. -/
def numberedLines (bytes : ByteArray) : List (Nat × List UInt8) :=
  (splitLines [] bytes.toList).zipIdx.map fun (l, i) => (i + 1, l)

/-- A line as text, if it is UTF-8. -/
def lineText (bytes : List UInt8) : Option String := String.fromUTF8? ⟨bytes.toArray⟩

/-- The run header: the first line that is not blank. -/
def header (rd : LineReader) :
    List (Nat × List UInt8) → Except Failure (Run × List (Nat × List UInt8))
  | [] => .error .emptyStream
  | (n, bytes) :: rest =>
    match lineText bytes with
    | none => .error .io
    | some text =>
      if Text.isBlankText text then header rd rest
      else match rd.run text with
        | some r => .ok (r, rest)
        | none => .error (.parse n)

/-- Processes the events of the remaining lines in order; the first that fails stops. -/
def processAll (rd : LineReader) (r : Run) (acc : Accumulator Float) :
    List (Nat × List UInt8) → Except Failure (Accumulator Float)
  | [] => .ok acc
  | (n, bytes) :: rest =>
    match lineText bytes with
    | none => .error .io
    | some text =>
      if Text.isBlankText text then processAll rd r acc rest
      else match rd.event text with
        | none => .error (.parse n)
        | some e =>
          match acc.process r e with
          | (acc', .ok _) => processAll rd r acc' rest
          | (_, .error err) => .error (.event e.number err)

/-- The report of a stream under the settings. -/
def report (rd : LineReader) (c : Config) (bytes : ByteArray) : Except Failure Report := do
  let (r, rest) ← header rd (numberedLines bytes)
  let (_, r) ← r.migrate.mapError .fatx
  let acc ← (Accumulator.ofSettings r c.accumulator).mapError .fatx
  let acc ← processAll rd r acc rest
  return Report.ofAccumulator acc (c.units.map UnitSpec.unitSystem)

end Stream

end FluxAverage
