import TableCache.Key.Basic
import TableCache.Pressure
import TableCache.Statistics.Basic

/-!
# Logged events

Operations of the cache log what they did. An event is a value; its level, its message and its
fields are read off it when a log is written.
-/

namespace TableCache

/-- How important an event is. -/
inductive Level where
  | trace
  | debug
  | info
  | warn
  | error
  deriving DecidableEq, Repr, Inhabited

/-- Everything that the cache logs. -/
inductive Event where
  /-- A table with some number of rows was put under a key. -/
  | cached (key : Key) (rows : Nat)
  /-- The strong handle of a key was dropped. -/
  | cleared (key : Key)
  /-- Every handle of a key was dropped. -/
  | invalidated (key : Key)
  /-- A look-up removed an entry whose table had been reclaimed. -/
  | swept (key : Key)
  /-- Entries of keys without owners were removed. -/
  | expunged (count : Nat)
  /-- A pass cleared a table that was not in recent use. -/
  | reclaimedWeak (keyId : Nat)
  /-- A pass cleared a table in recent use. -/
  | reclaimedRecent (keyId : Nat)
  /-- A pass cleared something. -/
  | passFinished (pressure : Pressure) (report : Report)
  /-- The counters, logged at most once in an interval. -/
  | statistics (counters : Statistics)
  /-- A look-up saw the counters being logged. -/
  | intervalElapsed (counters : Statistics)
  deriving DecidableEq, Repr, Inhabited

/-- The value of one field of an event. -/
inductive Field where
  | number (value : Nat)
  | text (value : String)
  | ratio (value : Binary64)
  deriving DecidableEq, Repr, Inhabited

namespace Level

/-- A level as it appears in logs. -/
def text : Level → String
  | .trace => "TRACE"
  | .debug => "DEBUG"
  | .info => "INFO"
  | .warn => "WARN"
  | .error => "ERROR"

/-- The level with a name in lower case. -/
def ofName? : String → Option Level
  | "trace" => some .trace
  | "debug" => some .debug
  | "info" => some .info
  | "warn" => some .warn
  | "error" => some .error
  | _ => none

/-- The place of a level among all, the least important first. -/
def rank : Level → Nat
  | .trace => 0
  | .debug => 1
  | .info => 2
  | .warn => 3
  | .error => 4

/-- A log from a level on shows what is of another level. -/
def shows (least level : Level) : Bool := least.rank ≤ level.rank

end Level

namespace Event

/-- The level of an event: what touches one table is for tracing, the rest for debugging. -/
def level : Event → Level
  | .cached .. | .cleared .. | .invalidated .. | .reclaimedWeak .. | .reclaimedRecent ..
  | .intervalElapsed .. => .trace
  | .swept .. | .expunged .. | .passFinished .. | .statistics .. => .debug

/-- The message of an event. -/
def message : Event → String
  | .cached .. => "Cached table"
  | .cleared .. => "Cleared table for reclaim"
  | .invalidated .. => "Invalidated table"
  | .swept .. => "Swept reclaimed table"
  | .expunged .. => "Expunged entries of dropped keys"
  | .reclaimedWeak .. => "Reclaimed weakly held table"
  | .reclaimedRecent .. => "Reclaimed recently used table"
  | .passFinished .. => "Reclaim pass finished"
  | .statistics .. => "Buffer cache statistics"
  | .intervalElapsed .. => "Statistics interval elapsed"

/-- The fields of an event, by name. -/
def fields : Event → List (String × Field)
  | .cached key rows => [("key", .text key.text), ("rows", .number rows)]
  | .cleared key | .invalidated key | .swept key => [("key", .text key.text)]
  | .expunged count => [("count", .number count)]
  | .reclaimedWeak keyId | .reclaimedRecent keyId => [("key_id", .number keyId)]
  | .passFinished pressure report =>
      [("pressure", .text pressure.text), ("weak_cleared", .number report.weakCleared),
        ("recent_cleared", .number report.recentCleared)]
  | .statistics counters =>
      ((Statistics.names.zip counters.toList).filter fun field =>
        field.1 != "recent_reclaimed").map fun field => (field.1, .number field.2)
  | .intervalElapsed counters =>
      [("accesses", .number counters.accesses),
        ("hit_ratio", .ratio (counters.hitRatio?.getD (Binary64.ofNat 0)))]

end Event

end TableCache
