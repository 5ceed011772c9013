-- The program: `<events> [config]`. It reads the files named on the command line and the two
-- environment variables that override settings, computes the report, and prints it as JSON;
-- a failure is printed to the error stream with its structured form, and the exit code is one.
import FluxAverage.Cli.Run
import FluxAverage.Json.Print

open FluxAverage

/-- The files the arguments name, read in the order the command line opens them: the
configuration, then the events. Standard input is a stream. -/
def readHostFiles (args : List String) : IO (List HostFile) := do
  let paths := match args with
    | events :: config :: _ => [config, events]
    | events :: _ => [events]
    | [] => []
  let mut files : List HostFile := []
  for path in (paths.eraseDups : List String) do
    try
      let contents ← IO.FS.readBinFile path
      files := files ++ [⟨path, contents, path == "/dev/stdin"⟩]
    catch _ => pure ()
  return files

/-- Runs the command line. -/
def main (args : List String) : IO UInt32 := do
  let files ← readHostFiles args
  let mut env : List (String × String) := []
  for name in [Config.conventionVariable, Config.weightVariable] do
    if let some v ← IO.getEnv name then env := env ++ [(name, v)]
  match Cli.run ⟨files, env⟩ args with
  | .ok report =>
    IO.println (Json.renderPretty 0 report.toJson)
    return 0
  | .error failure =>
    IO.eprintln ("Error: " ++ failure.structured)
    return 1
