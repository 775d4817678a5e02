import TableCache.Command.Run

/-!
# The command line

Collects the arguments, the environment and the content of the configuration file, and writes what
the run answers: the report and the metrics to the output, messages and errors beside it.
-/

namespace TableCache.Command

/-- What a file holds. -/
def readFile (path : String) : IO (Except FileError ByteArray) := do
  try
    return .ok (← IO.FS.readBinFile path)
  catch error =>
    match error with
    | .noFileOrDirectory .. => return .error .notFound
    | .inappropriateType .. => return .error .isADirectory
    | _ => return .error .other

/-- The values of the variables that options have. -/
def readEnvironment : IO (List (String × String)) := do
  let values ← (directivesName :: Item.all.map Item.envName).mapM fun name => do
    return (← IO.getEnv name).map fun value => (name, value)
  return values.filterMap id

/-- Runs a soak and writes what it answers. -/
def soak (options : Options) : IO UInt32 := do
  let content ←
    match options.configPath with
    | some path => readFile path
    | none => pure (.error .notFound)
  match options.run fun _ => content with
  | .error failure =>
      IO.eprintln ("Error: " ++ failure.describe)
      return failure.status
  | .ok run =>
      for message in run.messages do
        IO.eprintln message
      IO.println (Json.lines 0 run.summary.record)
      IO.print run.metrics
      return 0

end TableCache.Command

open TableCache TableCache.Command in
def main (arguments : List String) : IO UInt32 := do
  let environment ← readEnvironment
  match Request.ofArguments? arguments fun name => environment.lookup name with
  | none =>
      IO.eprint usage
      return 2
  | some .help =>
      IO.print usage
      return 0
  | some .version =>
      IO.println ("buffer-cache " ++ version)
      return 0
  | some (.soak options) => soak options
