import TableCache.Command.LogFilter
import TableCache.Command.Options
import TableCache.Config.Yaml
import TableCache.Exposition.Exporter
import TableCache.Soak.Record
import TableCache.Text.Lower

/-!
# Runs of the command

A run looks at the level and the directives of its log first, then at the configuration of the
cache, then at the settings of the soak. Where all can be used, it logs what it uses, runs the soak,
and reports.

Main definitions:

1. `Options.config`: the configuration of the cache, from a file and from options;
2. `Run`, `Failure`, `Options.run`: what a run logs and reports, or why there is none.
-/

namespace TableCache.Command

/-- What a run logs, its report, and the text with its metrics, which is empty unless it is asked
for. -/
structure Run where
  messages : List String
  summary : Soak.Summary
  metrics : String
  deriving DecidableEq, Repr

/-- Why there is no run. -/
inductive Failure where
  /-- What an option or a file says is refused. -/
  | refused (error : CacheError)
  /-- A part of a log directive starts or ends inside of a character. -/
  | splitDirective
  /-- The soak stopped before its tasks ran. -/
  | stopped (fault : Fault)
  deriving DecidableEq, Repr

namespace Failure

/-- A failure as text. -/
def describe : Failure → String
  | .refused error => error.describe
  | .splitDirective => "a part of a log directive starts or ends inside of a character"
  | .stopped fault => fault.message

/-- The exit status of the command after a failure. -/
def status : Failure → UInt32
  | .refused _ => 1
  | .splitDirective | .stopped _ => 101

/-- Why there is no run when its soak has no outcome. -/
def ofSoak : Soak.Failure → Failure
  | .refused error => .refused error
  | .stopped fault => .stopped fault

end Failure

namespace Options

/-- The level from which on messages are logged. Its name may be written in any case. -/
def level (options : Options) : Except CacheError Level :=
  let name := Text.lower options.logLevel
  match Level.ofName? name with
  | some level => .ok level
  | none => .error (.invalidArgument ("unknown log level: " ++ name))

/-- What is logged: from the level of the options on, and what directives say of parts of the
log. -/
def filter (options : Options) (level : Level) : Except Failure LogFilter :=
  match LogFilter.ofText? options.logDirectives with
  | some directives => .ok (directives ++ [⟨none, none, [], some level⟩])
  | none => .error .splitDirective

/-- The part of the program that logs what a run uses. -/
def part : String := "buffer_cache"

/-- The configuration of the cache. That of a file has to be valid before options override it. -/
def config (options : Options) (file : String → Except FileError ByteArray) :
    Except CacheError Config := do
  let base ←
    match options.configPath with
    | some path => Config.ofFile (file path)
    | none => .ok Config.standard
  let config : Config :=
    ⟨options.recencyCapacity.getD base.recencyCapacity,
      options.statisticsIntervalSecs.getD base.statisticsIntervalSecs⟩
  config.validate
  return config

/-- What a run says of what it uses. -/
def messages (options : Options) (config : Config) : List String :=
  ["Starting buffer cache soak",
    "  Recency capacity: " ++ toString config.recencyCapacity,
    "  Statistics interval: " ++ toString config.statisticsIntervalSecs ++ " seconds",
    "  Producers: " ++ toString options.settings.producers ++ ", consumers: "
      ++ toString options.settings.consumers,
    "  Duration: " ++ toString options.durationSecs ++ " seconds"]

/-- A run, with what is known of files. -/
def run (options : Options) (file : String → Except FileError ByteArray) : Except Failure Run := do
  let level ← options.level.mapError .refused
  let filter ← options.filter level
  let config ← (options.config file).mapError .refused
  let outcome ←
    (Soak.runUntil config options.settings (options.durationSecs * 1000)).mapError .ofSoak
  let summary := outcome.summary
  return {
    messages :=
      if filter.shows part ["message"] .info then options.messages config else []
    summary
    metrics :=
      if options.writesMetrics then
        (Exporter.fresh.observe summary.statistics summary.occupancy).encode
      else "" }

end Options

end TableCache.Command
