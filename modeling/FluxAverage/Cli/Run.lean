-- The command line: `<events> [config]`. The settings come from the configuration file (or
-- the defaults) with the environment's overrides; the report is computed from the event
-- stream, each line read as the JSON of a record. What the command line sees of its machine is
-- a `Host`: the files it may open, and its environment.
import FluxAverage.Cli.Stream
import FluxAverage.Codec.Model
import FluxAverage.Json.Parse

namespace FluxAverage

/-- A file the command line may open. A stream (such as standard input) is empty once read. -/
structure HostFile where
  path : String
  contents : ByteArray
  stream : Bool

/-- The files and the environment the command line sees. -/
structure Host where
  files : List HostFile
  env : List (String × String)

namespace Host

/-- Reads a file, giving its contents and the host after the read; none for a missing file. -/
def read (h : Host) (path : String) : Option (ByteArray × Host) :=
  match h.files.find? (·.path == path) with
  | none => none
  | some f =>
    let drained := h.files.map fun g =>
      if g.path == path && g.stream then { g with contents := ByteArray.empty } else g
    some (f.contents, { h with files := drained })

/-- The value of an environment variable; of a name set twice, the last counts. -/
def lookup (h : Host) (name : String) : Option String :=
  (h.env.reverse.find? (·.1 == name)).map (·.2)

end Host

/-- The program's reader: a line is the JSON text of a run header or of an event. -/
def LineReader.json : LineReader :=
  ⟨fun s => Json.parse s >>= Run.ofJson?, fun s => Json.parse s >>= Event.ofJson?⟩

namespace Cli

/-- The event stream's path and the configuration's, if given; a third argument is refused. -/
def parseArgs : List String → Except Failure (String × Option String)
  | [] => .error (.usage "missing event stream path")
  | [events] => .ok (events, none)
  | [events, config] => .ok (events, some config)
  | _ :: _ :: extra :: _ => .error (.usage ("unexpected argument `" ++ extra ++ "`"))

/-- The settings: from the file if given (a missing, unreadable or invalid file fails), else
the defaults; then the environment's overrides. -/
def loadConfig (h : Host) : Option String → Except Failure (Config × Host)
  | none => .ok (Config.default.withOverrides h.lookup, h)
  | some path =>
    match h.read path with
    | none => .error .config
    | some (bytes, h') =>
      match String.fromUTF8? bytes >>= Config.parse? with
      | some c => .ok (c.withOverrides h'.lookup, h')
      | none => .error .config

/-- Runs the command line with its arguments on a host. -/
def run (h : Host) (args : List String) : Except Failure Report := do
  let (eventsPath, configPath) ← parseArgs args
  let (c, h) ← loadConfig h configPath
  match h.read eventsPath with
  | none => throw .io
  | some (bytes, _) => Stream.report LineReader.json c bytes

end Cli

end FluxAverage
