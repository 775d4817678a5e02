import TableCache.Exposition.Exporter
import TableCache.Reply

/-!
# Histories of an exporter

Observations of any counters and occupancies, and the text exposed in between.
-/

namespace TableCache.Exporter

/-- Steps of a history. -/
inductive Step where
  | observe (counters : Statistics) (occupancy : Occupancy)
  | encode
  /-- Another exporter asks for the same metric names. -/
  | registerAgain
  deriving DecidableEq, Repr

/-- What steps answer. -/
inductive Answer where
  | nothing
  | text (value : String)
  | refused (error : CacheError)
  deriving DecidableEq, Repr

/-- An exporter, and the metric names registered. -/
structure History where
  exporter : Exporter
  registered : List String
  deriving DecidableEq, Repr

/-- The start of a history: an exporter with names of its own. -/
def History.create : Except CacheError History :=
  (Exporter.create []).map fun (exporter, registered) => ⟨exporter, registered⟩

/-- One step. -/
def History.step (history : History) : Step → Reply History Answer
  | .observe counters occupancy =>
      .ok { history with exporter := history.exporter.observe counters occupancy } .nothing
  | .encode => .ok history (.text history.exporter.encode)
  | .registerAgain =>
      match Exporter.create history.registered with
      | .error error => .ok history (.refused error)
      | .ok (_, registered) => .ok { history with registered := registered } .nothing

end TableCache.Exporter
