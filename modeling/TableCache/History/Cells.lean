import TableCache.Assoc
import TableCache.Memory.Reclaim

/-!
# Histories of cells

Cells, recent handles and holds by name, in any order: a cell name is one owner of a cell, a handle
name is one recent handle, a hold name is one holder of a table. What a name stood for before is
given up after the name was given anew. Clearances wait in a queue until they are taken or the queue
is closed.
-/

namespace TableCache.Cells

/-- Steps of a history. -/
inductive Step where
  /-- A new registered cell for a key, with a table of some number of rows. -/
  | create (cell : String) (keyId rows : Nat)
  | dropCell (cell : String)
  /-- A new recent handle on a cell. -/
  | openRecent (handle cell : String)
  | touch (handle : String)
  | isHandleAlive (handle : String)
  | dropRecent (handle : String)
  | keyId (cell : String)
  | isRecentlyHeld (cell : String)
  | isAlive (cell : String)
  | isCleared (cell : String)
  | isReclaimable (cell : String)
  | tryClear (cell : String)
  /-- The order of the last uses of two cells. -/
  | compareUse (first second : String)
  /-- Reads the table of a cell, and holds it under a name if one is given. -/
  | read (cell : String) (hold : Option String)
  | holders (hold : String)
  | dropHold (hold : String)
  /-- Takes all waiting clearances. -/
  | drain
  /-- Clearances are lost from now on. -/
  | close
  /-- The keys of the registered cells that exist, in order of registration. -/
  | live
  | reclaim (pressure : Pressure)
  | reclaimable
  | tracked
  deriving DecidableEq, Repr

/-- What steps answer. -/
inductive Answer where
  | nothing
  | flag (value : Bool)
  | number (value : Nat)
  | numbers (values : List Nat)
  | order (value : Ordering)
  | clearance (value : Option Clearance)
  | clearances (values : List Clearance)
  | report (value : Report)
  | noCell
  | noHandle
  | noHold
  deriving DecidableEq, Repr

/-- A memory with a clock, names for cells, recent handles and holds, and the waiting clearances
while their queue is open. -/
structure History where
  memory : Memory Unit
  clock : Nat
  cells : Assoc String Nat
  handles : Assoc String Nat
  holds : Assoc String Nat
  queue : Option (List Clearance)
  deriving DecidableEq, Repr

namespace History

/-- The start of a history. -/
def create : History := ⟨.empty, 1, .empty, .empty, .empty, some []⟩

/-- The clock ticks once. -/
def tick (history : History) : Nat × History :=
  (history.clock, { history with clock := history.clock + 1 })

/-- Replaces the memory. -/
def withMemory (history : History) (memory : Memory Unit) : History :=
  { history with memory := memory }

/-- Clearances join the queue while it is open. -/
def post (history : History) (clearances : List Clearance) : History :=
  { history with queue := history.queue.map (· ++ clearances) }

/-- Gives a cell a name. -/
def nameCell (history : History) (name : String) (cell : Nat) : History :=
  let named := { history with cells := history.cells.insert name cell }
  match history.cells.find? name with
  | none => named
  | some replaced => named.withMemory (named.memory.disown replaced)

/-- Gives a recent handle a name. -/
def nameHandle (history : History) (name : String) (cell : Nat) : History :=
  let named := { history with handles := history.handles.insert name cell }
  match history.handles.find? name with
  | none => named
  | some replaced => named.withMemory (named.memory.closeRecent replaced)

/-- Gives a hold a name. -/
def nameHold (history : History) (name : String) (table : Nat) : History :=
  let named := { history with holds := history.holds.insert name table }
  match history.holds.find? name with
  | none => named
  | some replaced => named.withMemory (named.memory.release replaced)

/-- Asks something of the cell with a name. -/
def askCell (history : History) (name : String) (ask : Nat → Answer) : Reply History Answer :=
  .ok history (((history.cells.find? name).map ask).getD .noCell)

/-- One step. -/
def step (history : History) : Step → Reply History Answer
  | .create name keyId rows =>
      let (table, memory) := history.memory.newTable (List.replicate rows ())
      let (tick, history) := history.tick
      let (cell, memory) := memory.newCell keyId table tick
      .ok ((history.withMemory (memory.register cell)).nameCell name cell) .nothing
  | .dropCell name =>
      match history.cells.find? name with
      | none => .ok history (.flag false)
      | some cell =>
          .ok
            { history with
              cells := history.cells.erase name
              memory := history.memory.disown cell }
            (.flag true)
  | .openRecent handle name =>
      match history.cells.find? name with
      | none => .ok history .noCell
      | some cell =>
          let (tick, history) := history.tick
          .ok ((history.withMemory (history.memory.openRecent cell tick)).nameHandle handle cell)
            .nothing
  | .touch handle =>
      match history.handles.find? handle with
      | none => .ok history .noHandle
      | some cell =>
          let (tick, history) := history.tick
          .ok (history.withMemory (history.memory.touchRecent cell tick)) .nothing
  | .isHandleAlive handle =>
      .ok history
        (((history.handles.find? handle).map fun cell =>
          Answer.flag (history.memory.isAlive cell)).getD .noHandle)
  | .dropRecent handle =>
      match history.handles.find? handle with
      | none => .ok history (.flag false)
      | some cell =>
          .ok
            { history with
              handles := history.handles.erase handle
              memory := history.memory.closeRecent cell }
            (.flag true)
  | .keyId name => history.askCell name fun cell => .number (history.memory.keyId cell)
  | .isRecentlyHeld name =>
      history.askCell name fun cell => .flag (history.memory.isRecentlyHeld cell)
  | .isAlive name => history.askCell name fun cell => .flag (history.memory.isAlive cell)
  | .isCleared name => history.askCell name fun cell => .flag (!history.memory.isAlive cell)
  | .isReclaimable name =>
      history.askCell name fun cell => .flag (history.memory.isReclaimable cell)
  | .tryClear name =>
      match history.cells.find? name with
      | none => .ok history .noCell
      | some cell =>
          match history.memory.tryClear cell with
          | none => .ok history (.clearance none)
          | some (clearance, memory) =>
              .ok ((history.withMemory memory).post [clearance]) (.clearance (some clearance))
  | .compareUse first second =>
      match history.cells.find? first, history.cells.find? second with
      | some first, some second =>
          .ok history
            (.order (compare (history.memory.lastUsed first) (history.memory.lastUsed second)))
      | _, _ => .ok history .noCell
  | .read name hold =>
      match history.cells.find? name with
      | none => .ok history .noCell
      | some cell =>
          match history.memory.read cell with
          | (none, _) => .ok history .nothing
          | (some table, memory) =>
              let answer := Answer.number (memory.rows table).length
              match hold with
              | none => .ok (history.withMemory (memory.release table)) answer
              | some hold => .ok ((history.withMemory memory).nameHold hold table) answer
  | .holders hold =>
      .ok history
        (((history.holds.find? hold).map fun table =>
          Answer.number (history.memory.holders table)).getD .noHold)
  | .dropHold hold =>
      match history.holds.find? hold with
      | none => .ok history (.flag false)
      | some table =>
          .ok
            { history with
              holds := history.holds.erase hold
              memory := history.memory.release table }
            (.flag true)
  | .drain =>
      match history.queue with
      | none => .ok history .nothing
      | some waiting => .ok { history with queue := some [] } (.clearances waiting)
  | .close => .ok { history with queue := none } (.flag history.queue.isSome)
  | .live =>
      .ok (history.withMemory history.memory.live.2)
        (.numbers (history.memory.live.1.map history.memory.keyId))
  | .reclaim pressure =>
      let pass := history.memory.reclaim pressure
      .logged ((history.withMemory pass.memory).post pass.clearances) pass.events
        (.report pass.report)
  | .reclaimable =>
      .ok (history.withMemory history.memory.reclaimable.2)
        (.number history.memory.reclaimable.1)
  | .tracked =>
      .ok (history.withMemory history.memory.tracked.2) (.number history.memory.tracked.1)

end History

end TableCache.Cells
