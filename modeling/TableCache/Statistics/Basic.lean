import TableCache.Binary64
import TableCache.Word

/-!
# What is counted

Every look-up falls into one of four classes, named for the strongest handle under which the table
was found. `Statistics` counts look-ups by class, and tables and rows that came and went.
-/

namespace TableCache

/-- The class of one look-up. -/
inductive Access where
  | hardHit
  | softHit
  | weakHit
  | miss
  deriving DecidableEq, Repr, Inhabited

namespace Access

/-- All classes. -/
def all : List Access := [.hardHit, .softHit, .weakHit, .miss]

/-- Whether the table was found. -/
def isHit : Access → Bool
  | .miss => false
  | _ => true

/-- The short word used in metrics. -/
def label : Access → String
  | .hardHit => "hard"
  | .softHit => "soft"
  | .weakHit => "weak"
  | .miss => "miss"

/-- The name used in records. -/
def name : Access → String
  | .hardHit => "hard_hit"
  | .softHit => "soft_hit"
  | .weakHit => "weak_hit"
  | .miss => "miss"

/-- The class with a given name. -/
def ofName? (name : String) : Option Access := all.find? fun access => access.name == name

end Access

/-- All counters of a cache. -/
structure Statistics where
  /-- Tables ever put into the cache. -/
  tablesCached : Nat
  /-- Tables cleared by reclaim passes. -/
  tablesReclaimed : Nat
  /-- Reclaimed tables that still were in recent use. -/
  recentReclaimed : Nat
  /-- Rows of all reclaimed tables. -/
  rowsReclaimed : Nat
  /-- Look-ups. -/
  accesses : Nat
  /-- Look-ups answered under a strong handle. -/
  hardHits : Nat
  /-- Look-ups answered under a recent handle. -/
  softHits : Nat
  /-- Look-ups answered through the weak handle alone. -/
  weakHits : Nat
  /-- Look-ups that found nothing. -/
  misses : Nat
  deriving DecidableEq, Repr

namespace Statistics

/-- Nothing counted yet. -/
def zero : Statistics := ⟨0, 0, 0, 0, 0, 0, 0, 0, 0⟩

instance : Inhabited Statistics := ⟨zero⟩

/-- The counters in the order of their names in records. -/
def toList (statistics : Statistics) : List Nat :=
  [statistics.tablesCached, statistics.tablesReclaimed, statistics.recentReclaimed,
    statistics.rowsReclaimed, statistics.accesses, statistics.hardHits, statistics.softHits,
    statistics.weakHits, statistics.misses]

/-- The names of the counters in records. -/
def names : List String :=
  ["tables_cached", "tables_reclaimed", "recent_reclaimed", "rows_reclaimed", "accesses",
    "hard_hits", "soft_hits", "weak_hits", "misses"]

/-- The counters from a list of nine numbers. -/
def ofList? : List Nat → Option Statistics
  | [tablesCached, tablesReclaimed, recentReclaimed, rowsReclaimed, accesses, hardHits, softHits,
      weakHits, misses] =>
      some ⟨tablesCached, tablesReclaimed, recentReclaimed, rowsReclaimed, accesses, hardHits,
        softHits, weakHits, misses⟩
  | _ => none

/-- The counters of one class of look-ups. -/
def count (statistics : Statistics) : Access → Nat
  | .hardHit => statistics.hardHits
  | .softHit => statistics.softHits
  | .weakHit => statistics.weakHits
  | .miss => statistics.misses

/-- Look-ups that found their table, if their number is a word. -/
def hits? (statistics : Statistics) : Option Nat := do
  let found ← Word.add? statistics.hardHits statistics.softHits
  Word.add? found statistics.weakHits

/-- The share of look-ups that found their table: zero without look-ups, else the quotient of the
two counts, each rounded to a binary64 number first. -/
def hitRatio? (statistics : Statistics) : Option Binary64 :=
  if statistics.accesses = 0 then some (Binary64.ofNat 0)
  else do
    let hits ← statistics.hits?
    return (Binary64.ofNat hits).div (Binary64.ofNat statistics.accesses)

/-- Whether every look-up is counted in exactly one class, if the sum of the classes is a word. -/
def isConsistent? (statistics : Statistics) : Option Bool := do
  let hits ← statistics.hits?
  let classified ← Word.add? hits statistics.misses
  return statistics.accesses == classified

theorem ofList?_toList (statistics : Statistics) : ofList? statistics.toList = some statistics :=
  rfl

end Statistics

end TableCache
