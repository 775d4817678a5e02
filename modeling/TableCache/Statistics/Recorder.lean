import TableCache.Reply

/-!
# The statistics recorder

The recorder counts puts and look-ups as they happen. Reclaimed tables it learns of through
clearances, which wait in a queue until the recorder next looks: at a look-up, or when the counters
are read. After a look-up it also reports its counters, unless its last report is less than an
interval ago.

Main definitions:

1. `Recorder.recordPut`, `Recorder.recordAccess`: one put, one look-up;
2. `Recorder.drain`: counts the waiting clearances;
3. `Recorder.snapshot`: the counters, with every clearance counted.
-/

namespace TableCache

/-- The notice that a table was reclaimed: the key it was cached under, its number of rows, and
whether it was in recent use. -/
structure Clearance where
  keyId : Nat
  rows : Nat
  recentlyUsed : Bool
  deriving DecidableEq, Repr, Inhabited

/-- The counters, the least time between two reports and the time of the last one in seconds, and
the clearances that wait to be counted. -/
structure Recorder where
  counters : Statistics
  interval : Nat
  lastEmission : Nat
  pending : List Clearance
  deriving DecidableEq, Repr, Inhabited

namespace Recorder

/-- Reports are at least five minutes apart unless told otherwise. -/
def defaultInterval : Nat := 300

/-- A recorder that has counted nothing. Its first report is an interval after time zero. -/
def ofInterval (interval : Nat) : Recorder := ⟨.zero, interval, 0, []⟩

/-- A clearance joins the queue. -/
def post (recorder : Recorder) (clearances : List Clearance) : Recorder :=
  { recorder with pending := recorder.pending ++ clearances }

/-- Counts one table put into the cache. -/
def recordPut (recorder : Recorder) : Reply Recorder Unit :=
  match Word.add? recorder.counters.tablesCached 1 with
  | none => .stop recorder .overflow
  | some tablesCached =>
      .ok { recorder with counters := { recorder.counters with tablesCached := tablesCached } } ()

/-- Counts the rows of one reclaimed table, and the table itself if it was in recent use. -/
def countRows (counters : Statistics) (clearance : Clearance) : Except Fault Unit × Statistics :=
  match Word.add? counters.rowsReclaimed clearance.rows with
  | none => (.error .overflow, counters)
  | some rowsReclaimed =>
      let counters := { counters with rowsReclaimed := rowsReclaimed }
      if clearance.recentlyUsed then
        match Word.add? counters.recentReclaimed 1 with
        | none => (.error .overflow, counters)
        | some recentReclaimed => (.ok (), { counters with recentReclaimed := recentReclaimed })
      else (.ok (), counters)

/-- Counts the rows of clearances one by one. A clearance leaves the queue before it is counted; the
number of clearances counted, the counters, and the clearances still waiting come back. -/
def countAll : List Clearance → Statistics → Except Fault Nat × Statistics × List Clearance
  | [], counters => (.ok 0, counters, [])
  | clearance :: rest, counters =>
      match countRows counters clearance with
      | (.error fault, counters) => (.error fault, counters, rest)
      | (.ok _, counters) =>
          let counted := countAll rest counters
          (counted.1.map (· + 1), counted.2)

/-- Counts the waiting clearances. Their number is added to the tables reclaimed when the queue is
empty. -/
def drain (recorder : Recorder) : Reply Recorder Nat :=
  let counted := countAll recorder.pending recorder.counters
  let recorder := { recorder with counters := counted.2.1, pending := counted.2.2 }
  match counted.1 with
  | .error fault => .stop recorder fault
  | .ok drained =>
      match Word.add? recorder.counters.tablesReclaimed drained with
      | none => .stop recorder .overflow
      | some tablesReclaimed =>
          .ok
            { recorder with
              counters := { recorder.counters with tablesReclaimed := tablesReclaimed } }
            drained

/-- The counters, after counting the waiting clearances. -/
def snapshot (recorder : Recorder) : Reply Recorder Statistics :=
  recorder.drain.andThen fun recorder _ => .ok recorder recorder.counters

/-- One more look-up of a class. -/
def countAccess (counters : Statistics) (access : Access) : Except Fault Statistics × Statistics :=
  match Word.add? counters.accesses 1 with
  | none => (.error .overflow, counters)
  | some accesses =>
      let counters := { counters with accesses := accesses }
      match Word.add? (counters.count access) 1 with
      | none => (.error .overflow, counters)
      | some count =>
          let counters :=
            match access with
            | .hardHit => { counters with hardHits := count }
            | .softHit => { counters with softHits := count }
            | .weakHit => { counters with weakHits := count }
            | .miss => { counters with misses := count }
          (.ok counters, counters)

/-- Reports the counters if the last report is at least an interval before `now`. A time before the
last report counts as no time passed. -/
def emit? (recorder : Recorder) (now : Nat) : Reply Recorder (Option Statistics) :=
  if now - recorder.lastEmission < recorder.interval then .ok recorder none
  else
    let recorder := { recorder with lastEmission := now }
    match recorder.counters.isConsistent? with
    | none => .stop recorder .overflow
    | some false => .stop recorder .outOfBalance
    | some true =>
        .logged recorder [.statistics recorder.counters] (some recorder.counters)

/-- Counts one look-up at time `now`, then the waiting clearances, and reports the counters if it is
time. -/
def recordAccess (recorder : Recorder) (access : Access) (now : Nat) :
    Reply Recorder (Option Statistics) :=
  match countAccess recorder.counters access with
  | (.error fault, counters) => .stop { recorder with counters := counters } fault
  | (.ok _, counters) =>
      ({ recorder with counters := counters } : Recorder).drain.andThen fun recorder _ =>
        recorder.emit? now

end Recorder

end TableCache
