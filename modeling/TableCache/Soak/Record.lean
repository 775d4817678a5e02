import TableCache.Json.Record
import TableCache.Soak.Run

/-!
# Soak reports as records
-/

namespace TableCache.Soak

/-- A report of passes as a record. -/
def ofReport (report : Report) : Json :=
  .object
    [("weak_cleared", .ofNat report.weakCleared), ("recent_cleared", .ofNat report.recentCleared)]

/-- An occupancy as a record. -/
def ofOccupancy (occupancy : Occupancy) : Json :=
  .object
    [("entries", .ofNat occupancy.entries), ("strong", .ofNat occupancy.strong),
      ("recent", .ofNat occupancy.recent), ("weak_only", .ofNat occupancy.weakOnly)]

/-- The members of a summary, in order. -/
def Summary.members (summary : Summary) : List (String × Json) :=
  [("tables_produced", .ofNat summary.tablesProduced), ("lookups", .ofNat summary.lookups),
    ("reclaimed", ofReport summary.reclaimed),
    ("statistics", Json.ofStatistics summary.statistics),
    ("occupancy", ofOccupancy summary.occupancy)]

/-- A summary as a record. -/
def Summary.record (summary : Summary) : Json := .object summary.members

end TableCache.Soak
