import Mathlib.Order.Monotone.Defs
import TableCache.Proofs.Store.Backing

/-!
# Other names for ticks

Ticks are only compared. If they get other names in the same order, everything that is done to a
memory is done as before, and the ticks in it have the other names afterwards. In particular a
reclaim pass clears the same cells in the same order.

Main statements:

1. `lodge_retick`, `discard_retick`, `openRecent_retick`, ...: operations and other names for ticks
   go together;
2. `Renames.sortByUse_retick`: an order by last use does not depend on the names;
3. `Renames.reclaim_retick`: nor does a pass.
-/

namespace TableCache

universe u

/-- A cell with another name for the tick of its last use. -/
def Cell.retick (tick : Nat → Nat) (cell : Cell) : Cell :=
  { cell with lastUsed := tick cell.lastUsed }

namespace Memory

variable {Row : Type u}

/-- A memory with other names for the ticks of its cells. -/
def retick (tick : Nat → Nat) (memory : Memory Row) : Memory Row :=
  { memory with cells := memory.cells.map (Cell.retick tick) }

theorem retick_empty (tick : Nat → Nat) : (empty : Memory Row).retick tick = empty :=
  congrArg (Memory.mk .empty · .empty) (Numbered.map_empty _)

theorem retick_retick (tick other : Nat → Nat) (memory : Memory Row) :
    (memory.retick tick).retick other = memory.retick (other ∘ tick) :=
  congrArg (Memory.mk memory.tables · memory.registry) (Numbered.map_map _ _ memory.cells)

/-- Only the names of ticks that are in the memory matter. -/
theorem retick_congr {tick other : Nat → Nat} {memory : Memory Row}
    (same : ∀ cell found, memory.cells.find? cell = some found →
      tick found.lastUsed = other found.lastUsed) :
    memory.retick tick = memory.retick other := by
  refine congrArg (Memory.mk memory.tables · memory.registry) (Numbered.map_congr ?_)
  intro cell found there
  rw [Cell.retick, Cell.retick, same cell found there]

section

variable (tick : Nat → Nat) (memory : Memory Row)

/-! ## What is asked of a memory -/

theorem map_find?_retick {β : Type} {view : Cell → β} (cell : Nat)
    (same : ∀ cell : Cell, view (cell.retick tick) = view cell) :
    ((memory.retick tick).cells.find? cell).map view = (memory.cells.find? cell).map view := by
  rw [retick, Numbered.find?_map, Option.map_map]
  exact congrArg (Option.map · _) (funext same)

@[simp]
theorem next_retick : (memory.retick tick).cells.next = memory.cells.next :=
  Numbered.next_map _ _

@[simp]
theorem isPresent_retick : (memory.retick tick).isPresent = memory.isPresent :=
  funext fun cell => Numbered.contains_map _ memory.cells cell

@[simp]
theorem slot?_retick (cell : Nat) : (memory.retick tick).slot? cell = memory.slot? cell := by
  rw [slot?, slot?, retick, Numbered.find?_map, Option.bind_map]
  rfl

@[simp]
theorem keyId_retick (cell : Nat) : (memory.retick tick).keyId cell = memory.keyId cell := by
  rw [keyId, keyId, map_find?_retick tick memory cell fun _ => rfl]

@[simp]
theorem recentHolds_retick (cell : Nat) :
    (memory.retick tick).recentHolds cell = memory.recentHolds cell := by
  rw [recentHolds, recentHolds, map_find?_retick tick memory cell fun _ => rfl]

@[simp]
theorem isRecentlyHeld_retick :
    (memory.retick tick).isRecentlyHeld = memory.isRecentlyHeld :=
  funext fun cell => by rw [isRecentlyHeld, isRecentlyHeld, recentHolds_retick]

@[simp]
theorem isAlive_retick (cell : Nat) : (memory.retick tick).isAlive cell = memory.isAlive cell := by
  rw [isAlive, isAlive, slot?_retick]

@[simp]
theorem isReclaimable_retick : (memory.retick tick).isReclaimable = memory.isReclaimable := by
  funext cell
  rw [isReclaimable, isReclaimable, slot?_retick]
  rfl

/-! ## Operations -/

theorem adjust_retick (cell : Nat) (change other : Cell → Cell)
    (same : ∀ cell : Cell, (change cell).retick tick = other (cell.retick tick)) :
    ({ memory.retick tick with
        cells := (memory.retick tick).cells.adjust cell other } : Memory Row) =
      ({ memory with cells := memory.cells.adjust cell change } : Memory Row).retick tick :=
  congrArg (Memory.mk memory.tables · memory.registry)
    (Numbered.map_adjust same memory.cells cell).symm

theorem erase_retick (cell : Nat) :
    ({ memory.retick tick with cells := (memory.retick tick).cells.erase cell } : Memory Row) =
      ({ memory with cells := memory.cells.erase cell } : Memory Row).retick tick :=
  congrArg (Memory.mk memory.tables · memory.registry) (Numbered.map_erase _ memory.cells cell).symm

@[simp]
theorem share_retick (table : Nat) :
    (memory.retick tick).share table = (memory.share table).retick tick := rfl

@[simp]
theorem release_retick (table : Nat) :
    (memory.retick tick).release table = (memory.release table).retick tick := rfl

theorem newCell_retick (keyId table birth : Nat) :
    (memory.retick tick).newCell keyId table (tick birth) =
      ((memory.newCell keyId table birth).1,
        (memory.newCell keyId table birth).2.retick tick) := by
  have added := Numbered.map_add (Cell.retick tick) memory.cells ⟨keyId, some table, 0, birth, 1⟩
  refine Prod.ext (next_retick tick memory) ?_
  exact congrArg (Memory.mk memory.tables · memory.registry) added.symm

@[simp]
theorem register_retick (cell : Nat) :
    (memory.retick tick).register cell = (memory.register cell).retick tick := by
  rw [register, isPresent_retick]
  rfl

theorem openRecent_retick (cell use : Nat) :
    (memory.retick tick).openRecent cell (tick use) = (memory.openRecent cell use).retick tick :=
  adjust_retick tick memory cell _ _ fun _ => rfl

theorem touchRecent_retick (cell use : Nat) :
    (memory.retick tick).touchRecent cell (tick use) = (memory.touchRecent cell use).retick tick :=
  adjust_retick tick memory cell _ _ fun _ => rfl

@[simp]
theorem disown_retick (cell : Nat) :
    (memory.retick tick).disown cell = (memory.disown cell).retick tick := by
  have shared := adjust_retick tick memory cell
    (fun cell => { cell with owners := cell.owners - 1 })
    (fun cell => { cell with owners := cell.owners - 1 }) fun _ => rfl
  unfold disown
  rw [erase_retick, shared]
  rw [retick, Numbered.find?_map]
  cases memory.cells.find? cell with
  | none => rfl
  | some found =>
      obtain ⟨keyId, slot, recentHolds, lastUsed, owners⟩ := found
      simp only [Option.map_some, Cell.retick]
      split
      next => cases slot <;> rfl
      next => rfl

@[simp]
theorem closeRecent_retick (cell : Nat) :
    (memory.retick tick).closeRecent cell = (memory.closeRecent cell).retick tick := by
  rw [closeRecent, closeRecent, ← disown_retick]
  exact congrArg (disown · cell) (adjust_retick tick memory cell _ _ fun _ => rfl)

theorem lodge_retick (keyId : Nat) (rows : List Row) (birth use : Nat) :
    (memory.retick tick).lodge keyId rows (tick birth) (tick use) =
      (memory.lodge keyId rows birth use).retick tick := by
  let shared := (memory.newTable rows).2.share memory.tables.next
  have placed : ((memory.retick tick).newTable rows).2.share memory.tables.next =
      shared.retick tick := rfl
  have celled := newCell_retick tick shared keyId memory.tables.next birth
  unfold lodge
  simp only [next_retick]
  show ((((((memory.retick tick).newTable rows).2.share memory.tables.next).newCell keyId
    memory.tables.next (tick birth)).2.register memory.cells.next).share
    memory.tables.next).openRecent memory.cells.next (tick use) = _
  rw [placed, celled]
  simp only [register_retick, share_retick, openRecent_retick]
  rfl

@[simp]
theorem lodged_retick : (memory.retick tick).lodged = memory.lodged := by
  rw [lodged, lodged, next_retick]
  rfl

@[simp]
theorem discard_retick (entry : Entry) :
    entry.discard (memory.retick tick) = (entry.discard memory).retick tick := by
  obtain ⟨strong, recent, cell⟩ := entry
  cases strong <;> cases recent <;> simp [Entry.discard]

@[simp]
theorem tier_retick (entry : Entry) : entry.tier (memory.retick tick) = entry.tier memory := by
  rw [Entry.tier, Entry.tier, isAlive_retick]

@[simp]
theorem recentAlive_retick (entry : Entry) :
    entry.recentAlive (memory.retick tick) = entry.recentAlive memory := by
  rw [Entry.recentAlive, Entry.recentAlive]
  simp only [isAlive_retick]

@[simp]
theorem read_retick (cell : Nat) :
    (memory.retick tick).read cell = ((memory.read cell).1, (memory.read cell).2.retick tick) := by
  rw [read, read, slot?_retick]
  cases memory.slot? cell <;> rfl

/-! ## Passes -/

@[simp]
theorem live_retick :
    (memory.retick tick).live = (memory.live.1, memory.live.2.retick tick) := by
  rw [live, isPresent_retick]
  rfl

@[simp]
theorem tracked_retick :
    (memory.retick tick).tracked = (memory.tracked.1, memory.tracked.2.retick tick) := by
  rw [tracked, live_retick]
  rfl

@[simp]
theorem reclaimable_retick :
    (memory.retick tick).reclaimable =
      (memory.reclaimable.1, memory.reclaimable.2.retick tick) := by
  rw [reclaimable, live_retick, isReclaimable_retick]
  rfl

@[simp]
theorem candidates_retick : (memory.retick tick).candidates = memory.candidates := by
  rw [candidates, live_retick, isReclaimable_retick]
  rfl

@[simp]
theorem weakCandidates_retick : (memory.retick tick).weakCandidates = memory.weakCandidates := by
  rw [weakCandidates, candidates_retick, isRecentlyHeld_retick]
  rfl

@[simp]
theorem tryClear_retick (cell : Nat) :
    (memory.retick tick).tryClear cell =
      (memory.tryClear cell).map fun cleared => (cleared.1, cleared.2.retick tick) := by
  rw [tryClear, tryClear, slot?_retick]
  cases memory.slot? cell with
  | none => rfl
  | some table =>
      have emptied := adjust_retick tick memory cell
        (fun cell => { cell with slot := none }) (fun cell => { cell with slot := none })
        fun _ => rfl
      simp only [emptied, keyId_retick, isRecentlyHeld_retick, release_retick]
      show (if memory.holders table = 1 then _ else none) = _
      split <;> rfl

end

theorem clearEach_retick (tick : Nat → Nat) (cells : List Nat) (budget : Option Nat)
    (memory : Memory Row) :
    clearEach cells budget (memory.retick tick) =
      ((clearEach cells budget memory).1.retick tick, (clearEach cells budget memory).2) := by
  induction cells generalizing budget memory with
  | nil => rfl
  | cons cell rest ih =>
      rw [clearEach, clearEach, tryClear_retick]
      split
      next => rfl
      next =>
        cases memory.tryClear cell with
        | none => exact ih budget memory
        | some cleared => simp only [Option.map_some, ih]

end Memory

/-- Other names for the ticks of a clock, in the same order. The ticks that the clock will give out
are named one after the other. -/
structure Renames (tick : Nat → Nat) (clock : Nat) : Prop where
  mono : StrictMono tick
  zero : tick 0 = 0
  ahead : ∀ count, tick (clock + count) = tick clock + count

/-- Puts off the ticks that a clock has yet to give out. -/
def putOff (clock count tick : Nat) : Nat := if tick < clock then tick else tick + count

theorem putOff_of_lt {clock tick : Nat} (count : Nat) (early : tick < clock) :
    putOff clock count tick = tick := if_pos early

theorem putOff_of_le {clock tick : Nat} (count : Nat) (late : clock ≤ tick) :
    putOff clock count tick = tick + count := if_neg (Nat.not_lt.2 late)

namespace Renames

open Memory

variable {Row : Type u} {tick : Nat → Nat} {clock : Nat}

theorem refl (clock : Nat) : Renames (fun tick => tick) clock :=
  ⟨strictMono_id, rfl, fun _ => rfl⟩

theorem next (renames : Renames tick clock) : tick (clock + 1) = tick clock + 1 :=
  renames.ahead 1

theorem later (renames : Renames tick clock) (count : Nat) : Renames tick (clock + count) where
  mono := renames.mono
  zero := renames.zero
  ahead := fun more => by rw [Nat.add_assoc, renames.ahead, renames.ahead, Nat.add_assoc]

/-- Ticks can get other names once more. -/
theorem comp {other : Nat → Nat} (renamed : Renames other (tick clock))
    (renames : Renames tick clock) : Renames (other ∘ tick) clock where
  mono := renamed.mono.comp renames.mono
  zero := by rw [Function.comp_apply, renames.zero, renamed.zero]
  ahead := fun count => by
    rw [Function.comp_apply, Function.comp_apply, renames.ahead, renamed.ahead]

theorem putOff (positive : 0 < clock) (count : Nat) : Renames (putOff clock count) clock where
  mono := by
    intro first second less
    unfold TableCache.putOff
    split <;> split <;> omega
  zero := if_pos positive
  ahead := fun more => by
    rw [putOff_of_le _ (Nat.le_add_right _ _), putOff_of_le _ (Nat.le_refl _)]
    omega

theorem lastUsed_retick (renames : Renames tick clock) (memory : Memory Row) (cell : Nat) :
    (memory.retick tick).lastUsed cell = tick (memory.lastUsed cell) := by
  rw [lastUsed, lastUsed, retick, Numbered.find?_map]
  cases memory.cells.find? cell with
  | none => exact renames.zero.symm
  | some _ => rfl

/-- An order by last use does not depend on the names of ticks. -/
theorem sortByUse_retick (renames : Renames tick clock) (memory : Memory Row)
    (cells : List Nat) : (memory.retick tick).sortByUse cells = memory.sortByUse cells := by
  have inserted : ∀ cell rest,
      (memory.retick tick).insertByUse cell rest = memory.insertByUse cell rest := by
    intro cell rest
    induction rest with
    | nil => rfl
    | cons head tail ih =>
        rw [insertByUse, insertByUse, ih, renames.lastUsed_retick, renames.lastUsed_retick]
        simp only [renames.mono.le_iff_le]
  induction cells with
  | nil => rfl
  | cons head tail ih => rw [sortByUse, sortByUse, ih, inserted]

theorem recentCandidates_retick (renames : Renames tick clock) (memory : Memory Row) :
    (memory.retick tick).recentCandidates = memory.recentCandidates := by
  rw [recentCandidates, candidates_retick, isRecentlyHeld_retick, renames.sortByUse_retick]
  rfl

/-- Nor does a pass, and it leaves the ticks with their names. -/
theorem reclaim_retick (renames : Renames tick clock) (memory : Memory Row)
    (pressure : Pressure) :
    (memory.retick tick).reclaim pressure =
      { memory.reclaim pressure with memory := (memory.reclaim pressure).memory.retick tick } := by
  unfold reclaim
  rw [weakCandidates_retick, renames.recentCandidates_retick, live_retick]
  simp only [clearEach_retick]
  split <;> rfl

end Renames

end TableCache
