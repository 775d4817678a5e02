import TableCache.Engine.Basic

/-!
# The language of sessions

A session is a history of keys, holds, reclaim passes and calls on engines. Its steps speak of keys
and holds by name: a key name owns one share of a key, a hold name holds one table. This module says
what steps there are and what they answer.
-/

namespace TableCache

universe u

/-- Steps on keys. A buffer owns its key and knows whether it was persisted. -/
inductive KeyStep where
  /-- A new key under a name. -/
  | create (name label : String)
  /-- A new buffer under a name, not persisted yet. -/
  | createBuffer (name label : String)
  /-- One more owner of a key under another name. -/
  | clone (source target : String)
  /-- An owner gives a key up. -/
  | drop (name : String)
  /-- Whether two names own the same key. -/
  | same (first second : String)
  /-- How many keys some names own. -/
  | count (names : List String)
  /-- The label of a key. -/
  | label (name : String)
  /-- A key as text, and described. -/
  | describe (name : String)
  /-- A buffer is persisted from now on; a bare key has nothing to persist. -/
  | markPersisted (name : String)
  /-- Whether a buffer is persisted. -/
  | isPersisted (name : String)
  deriving DecidableEq, Repr

/-- Steps on holds. -/
inductive HoldStep where
  /-- The rows of a held table. -/
  | rows (name : String)
  /-- A held table, described. -/
  | describe (name : String)
  /-- A hold is given up. -/
  | drop (name : String)
  /-- One more hold on a table under another name. -/
  | clone (source target : String)
  /-- Whether two holds are on the same table. -/
  | same (first second : String)
  deriving DecidableEq, Repr

/-- Steps of the memory manager. They work on the memory of the current engine, also after the
engine was dropped. -/
inductive ManagerStep where
  | reclaim (pressure : Pressure)
  | reclaimable
  | tracked
  /-- The manager goes on with a copy of its reclaimer. -/
  | renew
  deriving DecidableEq, Repr

/-- Steps that call the current engine. A table that is found is held under `hold`, if a name is
given, and else given back at once. -/
inductive Call (Row : Type u) where
  | put (name : String) (rows : List Row) (hold : Option String)
  | get (name : String) (hold : Option String)
  | lookup (name : String) (hold : Option String)
  | peek (name : String) (hold : Option String)
  /-- Gives up the strong handle. A buffer says itself whether it is persisted; for a bare key
  `isPersisted` says so. -/
  | clear (name : String) (isPersisted : Bool)
  | contains (name : String)
  | invalidate (name : String)
  | tier (name : String)
  | compareTiers (first second : String)
  | purge
  | statistics
  | hitRatio
  | occupancy
  | size
  | isEmpty
  | config
  | describe
  /-- The exporter observes the engine. -/
  | observe
  deriving DecidableEq, Repr

/-- All steps. -/
inductive Step (Row : Type u) where
  | key (step : KeyStep)
  | hold (step : HoldStep)
  | manager (step : ManagerStep)
  | call (call : Call Row)
  /-- The engine with a number, counted round, becomes the current one. -/
  | select (number : Nat)
  /-- The current engine is dropped. -/
  | dropEngine
  /-- The exporter's metrics as text. -/
  | encode
  deriving DecidableEq, Repr

/-- What steps answer. -/
inductive Answer (Row : Type u) where
  | nothing
  | flag (value : Bool)
  | number (value : Nat)
  | text (value : String)
  | texts (values : List String)
  | table (rows : List Row)
  | found (access : Access) (rows : Option (List Row))
  | tier (value : Tier)
  | order (value : Ordering)
  | statistics (value : Statistics)
  | ratio (value : Binary64)
  | occupancy (value : Occupancy)
  | report (value : Report)
  | config (value : Config)
  /-- No key has the name. -/
  | noKey
  /-- No hold has the name. -/
  | noHold
  /-- The current engine was dropped. -/
  | noEngine
  deriving DecidableEq, Repr

namespace Config

/-- A configuration on one line, its parts named. -/
def describe (config : Config) : String :=
  "CacheConfig \x7b recency_capacity: " ++ toString config.recencyCapacity
    ++ ", statistics_interval_secs: " ++ toString config.statisticsIntervalSecs ++ " \x7d"

end Config

namespace Engine

variable {Row : Type u}

/-- An engine on one line; of its parts only the configuration is shown. -/
def describe (engine : Engine Row) : String :=
  "CacheEngine \x7b config: " ++ engine.config.describe ++ ", .. \x7d"

/-- An engine on several lines; of its parts only the configuration is shown. -/
def describeLines (engine : Engine Row) : String :=
  "CacheEngine \x7b\n    config: CacheConfig \x7b\n        recency_capacity: "
    ++ toString engine.config.recencyCapacity ++ ",\n        statistics_interval_secs: "
    ++ toString engine.config.statisticsIntervalSecs ++ ",\n    \x7d,\n    ..\n\x7d"

end Engine

/-- A table described by its number of rows. -/
def describeRows (count : Nat) : String := "Payload \x7b rows: " ++ toString count ++ " \x7d"

end TableCache
