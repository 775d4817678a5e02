import TableCache.Soak.Settings
import TableCache.Text.Digits

/-!
# Options of the command

An option is given by its name among the arguments, or else by a variable of the environment. An
option with a value takes the next argument, or what stands behind an equals sign; a flag takes
nothing. No option may be given twice among the arguments, and there are no arguments besides
options.

Main definitions:

1. `Options`, `Options.standard`: what the options say, and what holds without them;
2. `Item`, `Item.all`: the options, each with what it changes;
3. `Request.ofArguments?`: what some arguments and an environment ask for.
-/

namespace TableCache.Command

/-- What the options say. -/
structure Options where
  configPath : Option String
  recencyCapacity : Option Nat
  statisticsIntervalSecs : Option Nat
  settings : Soak.Settings
  durationSecs : Nat
  /-- Metrics are written after the report. -/
  writesMetrics : Bool
  logLevel : String
  /-- Directives for parts of the log, which only the environment gives. -/
  logDirectives : String
  logsRecords : Bool
  deriving DecidableEq, Repr

/-- What holds without options. -/
def Options.standard : Options where
  configPath := none
  recencyCapacity := none
  statisticsIntervalSecs := none
  settings := .standard
  durationSecs := 10
  writesMetrics := false
  logLevel := "info"
  logDirectives := ""
  logsRecords := false

/-! ## The options -/

/-- An option. -/
structure Item where
  name : String
  /-- The variable that stands in for the option. -/
  envName : String
  isFlag : Bool
  /-- What the option is for. -/
  help : String
  /-- What a value changes; `none` refuses the value. -/
  set? : String → Options → Option Options

namespace Item

/-- An option whose value is a word. -/
def number (name envName help : String) (set : Nat → Options → Options) : Item :=
  ⟨name, envName, false, help, fun value options => (Text.word? value).map (set · options)⟩

/-- An option whose value is any text. -/
def text (name envName help : String) (set : String → Options → Options) : Item :=
  ⟨name, envName, false, help, fun value options => some (set value options)⟩

/-- An option whose value is a path, which is not empty. -/
def path (name envName help : String) (set : String → Options → Options) : Item :=
  ⟨name, envName, false, help, fun value options =>
    if value.isEmpty then none else some (set value options)⟩

/-- A flag. A variable turns it on or off. -/
def flag (name envName help : String) (set : Bool → Options → Options) : Item :=
  ⟨name, envName, true, help, fun value options =>
    if value = "true" then some (set true options)
    else if value = "false" then some (set false options)
    else none⟩

/-- All options. -/
def all : List Item :=
  [path "config" "BUFFER_CACHE_CONFIG" "Optional YAML cache configuration file"
      fun value options => { options with configPath := some value },
    number "recency-capacity" "RECENCY_CAPACITY"
      "Override the number of recently used tables kept softly"
      fun value options => { options with recencyCapacity := some value },
    number "statistics-interval-secs" "STATISTICS_INTERVAL_SECS"
      "Override the statistics logging interval in seconds"
      fun value options => { options with statisticsIntervalSecs := some value },
    number "producers" "SOAK_PRODUCERS" "Producer tasks"
      fun value options => { options with settings.producers := value },
    number "consumers" "SOAK_CONSUMERS" "Consumer tasks"
      fun value options => { options with settings.consumers := value },
    number "tables" "SOAK_TABLES" "Tables created per producer"
      fun value options => { options with settings.tablesPerProducer := value },
    number "rows" "SOAK_ROWS" "Rows per table"
      fun value options => { options with settings.rowsPerTable := value },
    number "row-bytes" "SOAK_ROW_BYTES" "Bytes per row"
      fun value options => { options with settings.rowBytes := value },
    number "flush-delay-ms" "SOAK_FLUSH_DELAY_MS" "Delay before a cached table counts as persisted"
      fun value options => { options with settings.flushDelay := value },
    number "invalidate-every" "SOAK_INVALIDATE_EVERY" "Invalidate every Nth table (0 disables)"
      fun value options => { options with settings.invalidateEvery := value },
    number "reclaim-interval-ms" "SOAK_RECLAIM_INTERVAL_MS" "Interval between reclaim passes"
      fun value options => { options with settings.reclaimInterval := value },
    number "reclaim-batch" "SOAK_RECLAIM_BATCH" "Tables cleared per reclaim pass"
      fun value options => { options with settings.reclaimBatch := value },
    number "duration-secs" "SOAK_DURATION_SECS" "Run duration in seconds"
      fun value options => { options with durationSecs := value },
    flag "prometheus" "SOAK_PROMETHEUS" "Print Prometheus metrics after the run"
      fun value options => { options with writesMetrics := value },
    text "log-level" "LOG_LEVEL" "Log level (trace, debug, info, warn, error)"
      fun value options => { options with logLevel := value },
    flag "log-json" "LOG_JSON" "Output logs as JSON"
      fun value options => { options with logsRecords := value }]

/-- The option with a name. -/
def ofName? (name : String) : Option Item := all.find? fun item => item.name = name

/-- What is said of an option when help is asked for. -/
def line (item : Item) : String :=
  "  --" ++ item.name ++ (if item.isFlag then "" else " <VALUE>") ++ "\n      " ++ item.help
    ++ " [env: " ++ item.envName ++ "]\n"

end Item

/-! ## Reading arguments -/

/-- What is asked for. -/
inductive Request where
  | help
  | version
  | soak (options : Options)
  deriving DecidableEq, Repr

/-- What arguments say: the names that were given, and the options; or that something else than a
soak is asked for, which ends the reading. -/
inductive Given where
  | instead (request : Request)
  | options (names : List String) (options : Options)
  deriving DecidableEq, Repr

/-- The part of a text before the first equals sign, and what comes after it if there is one. -/
def splitAtEquals (text : List Char) : String × Option String :=
  match text.dropWhile (· ≠ '=') with
  | [] => (String.ofList text, none)
  | _ :: value => (String.ofList (text.takeWhile (· ≠ '=')), some (String.ofList value))

/-- An argument may be the value of the option before it: it does not start with a hyphen, or is
one. -/
def isValue (argument : String) : Bool := argument = "-" || argument.toList.head? != some '-'

/-- Goes through arguments, with the names and the options so far. -/
def readArguments (names : List String) (options : Options) : List String → Option Given
  | [] => some (.options names options)
  | argument :: rest =>
      match argument.toList with
      | ['-', '-'] => if rest.isEmpty then some (.options names options) else none
      | '-' :: '-' :: chars =>
          match splitAtEquals chars with
          | ("help", none) => some (.instead .help)
          | ("version", none) => some (.instead .version)
          | (name, attached) =>
              match Item.ofName? name with
              | none => none
              | some item =>
                  if names.contains name then none
                  else if item.isFlag then
                    if attached.isSome then none
                    else do readArguments (name :: names) (← item.set? "true" options) rest
                  else
                    match attached, rest with
                    | some value, rest => do
                        readArguments (name :: names) (← item.set? value options) rest
                    | none, value :: rest =>
                        if isValue value then do
                          readArguments (name :: names) (← item.set? value options) rest
                        else none
                    | none, [] => none
      | '-' :: 'h' :: _ => some (.instead .help)
      | '-' :: 'V' :: _ => some (.instead .version)
      | _ => none

/-- The variable with directives for parts of the log. -/
def directivesName : String := "RUST_LOG"

/-- Options that the arguments do not name are taken from the environment. -/
def readVariables (environment : String → Option String) (names : List String) (options : Options) :
    Option Options :=
  Item.all.foldlM (fun options item =>
    if names.contains item.name then some options
    else
      match environment item.envName with
      | some value => item.set? value options
      | none => some options)
    { options with logDirectives := (environment directivesName).getD "" }

/-- What arguments and an environment ask for, if they can be read. -/
def Request.ofArguments? (arguments : List String) (environment : String → Option String) :
    Option Request := do
  match ← readArguments [] .standard arguments with
  | .instead request => return request
  | .options names options => return .soak (← readVariables environment names options)

/-- The text that is shown when help is asked for. -/
def usage : String :=
  "Soak the tiered table cache under concurrent load\n\nOptions:\n"
    ++ String.join (Item.all.map Item.line) ++ "  --help\n  --version\n"

end TableCache.Command
