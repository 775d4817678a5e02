import TableCache.Error
import TableCache.Recency
import TableCache.Statistics.Recorder

/-!
# Configuration of a cache
-/

namespace TableCache

/-- The version of this cache. -/
def version : String := "0.1.0"

/-- How many tables are kept in recent use, and the least number of seconds between two reports of
the counters. -/
structure Config where
  recencyCapacity : Nat
  statisticsIntervalSecs : Nat
  deriving DecidableEq, Repr

namespace Config

/-- What holds where nothing else is said. -/
def standard : Config := ⟨Recency.defaultCapacity, Recorder.defaultInterval⟩

instance : Inhabited Config := ⟨standard⟩

/-- Refuses a configuration under which a cache cannot work. The capacity is looked at first. -/
def validate (config : Config) : Except CacheError Unit :=
  if config.recencyCapacity = 0 then
    .error (.invalidArgument "recency_capacity must be at least 1")
  else if config.statisticsIntervalSecs = 0 then
    .error (.invalidArgument "statistics_interval_secs must be at least 1")
  else .ok ()

theorem validate_eq_ok_iff {config : Config} :
    config.validate = .ok () ↔ 0 < config.recencyCapacity ∧ 0 < config.statisticsIntervalSecs := by
  unfold validate
  split
  next zero => simp [zero]
  next positive =>
    split
    next zero => simp [zero]
    next other => simp; omega

/-! ## Records -/

/-- The names of the parts of a configuration in records. -/
def names : List String := ["recency_capacity", "statistics_interval_secs"]

/-- A configuration from what a record says of its two parts; what is missing is standard. -/
def ofWords : List (Option Nat) → Config
  | [recencyCapacity, statisticsIntervalSecs] =>
      ⟨recencyCapacity.getD standard.recencyCapacity,
        statisticsIntervalSecs.getD standard.statisticsIntervalSecs⟩
  | _ => standard

end Config

end TableCache
