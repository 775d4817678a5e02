import TableCache.Assoc
import TableCache.Exposition.Basic
import TableCache.Statistics.Basic
import TableCache.Store.Tier

/-!
# The exporter

The exporter turns counters and occupancies of a cache into metrics. An exposed counter grows by
what the cache counted since the last observation; counters that went back add nothing. Exposed
counters start again from zero above the greatest word. Gauges show the last observation.
-/

namespace TableCache

/-- The exposed metrics, and the counters at the last observation. The look-ups of a class appear
with the first observation. -/
structure Exporter where
  tablesCached : Nat
  tablesReclaimed : Nat
  rowsReclaimed : Nat
  accesses : Assoc Access Nat
  entries : Int
  strongEntries : Int
  recentEntries : Int
  last : Statistics
  deriving DecidableEq, Repr

namespace Exporter

/-- Nothing observed yet. -/
def fresh : Exporter := ⟨0, 0, 0, .empty, 0, 0, 0, .zero⟩

instance : Inhabited Exporter := ⟨fresh⟩

/-- The exposed look-ups of a class. -/
def accessCount (exporter : Exporter) (access : Access) : Nat :=
  (exporter.accesses.find? access).getD 0

/-- Adds the look-ups of one class since the last observation. -/
def advanceAccess (counters last : Statistics) (accesses : Assoc Access Nat) (access : Access) :
    Assoc Access Nat :=
  accesses.insert access
    (Word.wrapAdd ((accesses.find? access).getD 0) (counters.count access - last.count access))

/-- Takes over counters and an occupancy of the cache. -/
def observe (exporter : Exporter) (counters : Statistics) (occupancy : Occupancy) : Exporter where
  tablesCached :=
    Word.wrapAdd exporter.tablesCached (counters.tablesCached - exporter.last.tablesCached)
  tablesReclaimed :=
    Word.wrapAdd exporter.tablesReclaimed
      (counters.tablesReclaimed - exporter.last.tablesReclaimed)
  rowsReclaimed :=
    Word.wrapAdd exporter.rowsReclaimed (counters.rowsReclaimed - exporter.last.rowsReclaimed)
  accesses := Access.all.foldl (advanceAccess counters exporter.last) exporter.accesses
  entries := Word.toSigned occupancy.entries
  strongEntries := Word.toSigned occupancy.strong
  recentEntries := Word.toSigned occupancy.recent
  last := counters

/-- A family with one sample. -/
def single (name help : String) (kind : Exposition.Kind) (value : Int) : Exposition.Family :=
  ⟨name, help, kind, [⟨[], value⟩]⟩

/-- The metrics as families. -/
def families (exporter : Exporter) : List Exposition.Family :=
  [single "buffer_cache_tables_cached_total" "Tables put into the buffer cache" .counter
      exporter.tablesCached,
    single "buffer_cache_tables_reclaimed_total" "Tables cleared by the memory reclaimer" .counter
      exporter.tablesReclaimed,
    single "buffer_cache_rows_reclaimed_total" "Rows freed by the memory reclaimer" .counter
      exporter.rowsReclaimed,
    ⟨"buffer_cache_accesses_total", "Buffer cache lookups by outcome", .counter,
      exporter.accesses.pairs.map fun pair => ⟨[("outcome", pair.1.label)], pair.2⟩⟩,
    single "buffer_cache_entries" "Cached tables not yet reclaimed" .gauge exporter.entries,
    single "buffer_cache_strong_entries" "Cached tables pinned until persisted" .gauge
      exporter.strongEntries,
    single "buffer_cache_recent_entries" "Cached tables holding a recent handle" .gauge
      exporter.recentEntries]

/-- The metrics as text. -/
def encode (exporter : Exporter) : String := Exposition.page exporter.families

/-- A fresh exporter whose metrics are added to those registered, unless one of them is registered
already. -/
def create (registered : List String) : Except CacheError (Exporter × List String) :=
  (Exposition.register registered (fresh.families.map Exposition.Family.name)).map fun names =>
    (fresh, names)

end Exporter

end TableCache
