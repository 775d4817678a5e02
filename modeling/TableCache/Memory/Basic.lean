import TableCache.Memory.Registry
import TableCache.Numbered
import TableCache.Statistics.Recorder

/-!
# Tables and the cells they live in

A cached table lives in a cell. The table exists as long as somebody holds it: the cell, a strong
handle, or a reader. The cell exists as long as somebody owns it: a weak handle or a recent handle.
A cell may be cleared when it is the only holder of its table, and it is cleared at most once.

Main definitions:

1. `Memory`: tables and cells by number, and the registry of cells;
2. `share`, `release`: one holder of a table more, one less;
3. `own`, `disown`: one owner of a cell more, one less;
4. `openRecent`, `touchRecent`, `closeRecent`: recent handles;
5. `isReclaimable`, `tryClear`: when a cell may be cleared, and clearing it.
-/

namespace TableCache

universe u

/-- The rows of a table, and how many hold it. -/
structure Table (Row : Type u) where
  rows : List Row
  holders : Nat
  deriving DecidableEq, Repr

/-- A cell: the key its table is cached under, the table unless cleared, the number of recent
handles on the cell, the tick of its last use, and the number of its owners, recent handles
included. -/
structure Cell where
  keyId : Nat
  slot : Option Nat
  recentHolds : Nat
  lastUsed : Nat
  owners : Nat
  deriving DecidableEq, Repr, Inhabited

/-- The tables and the cells of one cache, each by number, and the registry of the cells. -/
structure Memory (Row : Type u) where
  tables : Numbered (Table Row)
  cells : Numbered Cell
  registry : Registry
  deriving DecidableEq, Repr

namespace Memory

variable {Row : Type u}

/-- No table and no cell. -/
def empty : Memory Row := ⟨.empty, .empty, .empty⟩

instance : Inhabited (Memory Row) := ⟨empty⟩

/-! ## Tables -/

/-- A new table with one holder, and its number. -/
def newTable (memory : Memory Row) (rows : List Row) : Nat × Memory Row :=
  (memory.tables.next, { memory with tables := memory.tables.add ⟨rows, 1⟩ })

/-- The rows of a table. -/
def rows (memory : Memory Row) (table : Nat) : List Row :=
  ((memory.tables.find? table).map Table.rows).getD []

/-- How many hold a table. -/
def holders (memory : Memory Row) (table : Nat) : Nat :=
  ((memory.tables.find? table).map Table.holders).getD 0

/-- One more holder of a table. -/
def share (memory : Memory Row) (table : Nat) : Memory Row :=
  { memory with
    tables := memory.tables.adjust table fun table => { table with holders := table.holders + 1 } }

/-- One holder of a table less; the last one takes the table with it. -/
def release (memory : Memory Row) (table : Nat) : Memory Row :=
  { memory with
    tables :=
      if memory.holders table ≤ 1 then memory.tables.erase table
      else
        memory.tables.adjust table fun table => { table with holders := table.holders - 1 } }

/-! ## Cells -/

/-- Whether a cell exists. -/
def isPresent (memory : Memory Row) (cell : Nat) : Bool := memory.cells.contains cell

/-- A new cell with one owner that takes over one holder's share of a table, and its number. -/
def newCell (memory : Memory Row) (keyId table tick : Nat) : Nat × Memory Row :=
  (memory.cells.next, { memory with cells := memory.cells.add ⟨keyId, some table, 0, tick, 1⟩ })

/-- Lets reclaim passes visit a cell. -/
def register (memory : Memory Row) (cell : Nat) : Memory Row :=
  { memory with registry := memory.registry.register memory.isPresent cell }

/-- The table in a cell, unless the cell was cleared. -/
def slot? (memory : Memory Row) (cell : Nat) : Option Nat :=
  (memory.cells.find? cell).bind Cell.slot

/-- One more owner of a cell. -/
def own (memory : Memory Row) (cell : Nat) : Memory Row :=
  { memory with
    cells := memory.cells.adjust cell fun cell => { cell with owners := cell.owners + 1 } }

/-- One owner of a cell less; the last one takes the cell with it, and the cell gives up its
table. -/
def disown (memory : Memory Row) (cell : Nat) : Memory Row :=
  match memory.cells.find? cell with
  | none => memory
  | some found =>
      if found.owners ≤ 1 then
        let memory := { memory with cells := memory.cells.erase cell }
        match found.slot with
        | none => memory
        | some table => memory.release table
      else
        { memory with
          cells := memory.cells.adjust cell fun cell => { cell with owners := cell.owners - 1 } }

/-- The table in a cell, with one more holder: the reader that asked. -/
def read (memory : Memory Row) (cell : Nat) : Option Nat × Memory Row :=
  match memory.slot? cell with
  | none => (none, memory)
  | some table => (some table, memory.share table)

/-- Whether a cell still has its table. -/
def isAlive (memory : Memory Row) (cell : Nat) : Bool := (memory.slot? cell).isSome

/-- The key under which the table of a cell is cached. -/
def keyId (memory : Memory Row) (cell : Nat) : Nat :=
  ((memory.cells.find? cell).map Cell.keyId).getD 0

/-- The tick of the last use of a cell. -/
def lastUsed (memory : Memory Row) (cell : Nat) : Nat :=
  ((memory.cells.find? cell).map Cell.lastUsed).getD 0

/-- How many recent handles a cell has. -/
def recentHolds (memory : Memory Row) (cell : Nat) : Nat :=
  ((memory.cells.find? cell).map Cell.recentHolds).getD 0

/-- Whether a cell has a recent handle. -/
def isRecentlyHeld (memory : Memory Row) (cell : Nat) : Bool := 0 < memory.recentHolds cell

/-! ## Recent handles -/

/-- A new recent handle on a cell, which is a use of the cell at `tick`. -/
def openRecent (memory : Memory Row) (cell tick : Nat) : Memory Row :=
  { memory with
    cells := memory.cells.adjust cell fun cell =>
      { cell with
        owners := cell.owners + 1
        recentHolds := cell.recentHolds + 1
        lastUsed := tick } }

/-- A use of a cell at `tick` through a recent handle. -/
def touchRecent (memory : Memory Row) (cell tick : Nat) : Memory Row :=
  { memory with
    cells := memory.cells.adjust cell fun cell => { cell with lastUsed := tick } }

/-- One recent handle on a cell less. -/
def closeRecent (memory : Memory Row) (cell : Nat) : Memory Row :=
  ({ memory with
      cells := memory.cells.adjust cell fun cell =>
        { cell with recentHolds := cell.recentHolds - 1 } } : Memory Row).disown cell

/-! ## Clearing -/

/-- Whether a cell is the only holder of its table. -/
def isReclaimable (memory : Memory Row) (cell : Nat) : Bool :=
  match memory.slot? cell with
  | none => false
  | some table => memory.holders table = 1

/-- Clears a cell that is the only holder of its table, and gives notice of it. -/
def tryClear (memory : Memory Row) (cell : Nat) : Option (Clearance × Memory Row) :=
  match memory.slot? cell with
  | none => none
  | some table =>
      if memory.holders table = 1 then
        some
          (⟨memory.keyId cell, (memory.rows table).length, memory.isRecentlyHeld cell⟩,
            ({ memory with
                cells := memory.cells.adjust cell fun cell => { cell with slot := none } } :
              Memory Row).release table)
      else none

/-! ## Registered cells -/

/-- The registered cells that exist, in order of registration. The registry forgets the others. -/
def live (memory : Memory Row) : List Nat × Memory Row :=
  let registry := memory.registry.prune memory.isPresent
  (registry.cells, { memory with registry := registry })

/-- How many registered cells exist. -/
def tracked (memory : Memory Row) : Nat × Memory Row :=
  (memory.live.1.length, memory.live.2)

/-- How many registered cells could be cleared now. -/
def reclaimable (memory : Memory Row) : Nat × Memory Row :=
  (memory.live.1.countP memory.isReclaimable, memory.live.2)

end Memory

end TableCache
