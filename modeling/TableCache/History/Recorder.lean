import TableCache.Statistics.Recorder

/-!
# Histories of a recorder

Puts, look-ups at any times, and clearances that arrive while their queue is open.
-/

namespace TableCache.Recorder

/-- Steps of a history. -/
inductive Step where
  | put
  | access (access : Access) (time : Nat)
  /-- A clearance arrives. -/
  | clear (clearance : Clearance)
  /-- No clearance arrives any more. -/
  | close
  | drain
  | snapshot
  deriving DecidableEq, Repr

/-- What steps answer. -/
inductive Answer where
  | nothing
  | flag (value : Bool)
  | number (value : Nat)
  | statistics (value : Statistics)
  deriving DecidableEq, Repr

/-- A recorder, and whether clearances still arrive. -/
structure History where
  recorder : Recorder
  isOpen : Bool
  deriving DecidableEq, Repr

/-- The start of a history. -/
def History.create (interval : Nat) : History := ⟨.ofInterval interval, true⟩

/-- Puts a recorder back. -/
def History.restore (history : History) (recorder : Recorder) : History :=
  { history with recorder := recorder }

/-- One step. -/
def History.step (history : History) : Step → Reply History Answer
  | .put => (history.recorder.recordPut.map fun _ => Answer.nothing).within history.restore
  | .access access time =>
      ((history.recorder.recordAccess access time).map fun emitted =>
        (emitted.map Answer.statistics).getD .nothing).within history.restore
  | .clear clearance =>
      if history.isOpen then
        .ok (history.restore (history.recorder.post [clearance])) (.flag true)
      else .ok history (.flag false)
  | .close => .ok { history with isOpen := false } (.flag history.isOpen)
  | .drain => (history.recorder.drain.map Answer.number).within history.restore
  | .snapshot => (history.recorder.snapshot.map Answer.statistics).within history.restore

end TableCache.Recorder
