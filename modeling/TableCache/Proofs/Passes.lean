import TableCache.History.Cells
import TableCache.Proofs.Memory.Sweeps

/-!
# Reclaim passes over any cells

Cells can be handled in any way: with any number of recent handles, with tables that readers hold,
cleared by hand, or given up. Whatever was done to them, a pass clears just the cells that its
pressure asks for, in order, gives notice of each, and leaves everything else as it was.

Main statements:

1. `Memory.Fades.orderly`, `Orderly.used`, `Orderly.enroll`: what keeps a memory in order;
2. `Cells.orderly_step`: every step of a history of cells does;
3. `Cells.pass_clears_what_is_due`: what a pass does at any moment of a history.
-/

namespace TableCache

universe u

namespace Memory

variable {Row : Type u} {memory before after : Memory Row} {clock stop cell : Nat}

/-- Every cell is registered once, every table is in one cell at most, and no two cells were last
used at the same tick. Later tables and later ticks are new. -/
structure Orderly (memory : Memory Row) (clock : Nat) : Prop where
  registered : memory.Registered
  apart : memory.Apart
  known : ∀ cell table, memory.slot? cell = some table → table < memory.tables.next
  early : ∀ cell, memory.isPresent cell = true → memory.lastUsed cell < clock
  alone : ∀ first second, memory.isPresent first = true → memory.isPresent second = true →
    memory.lastUsed first = memory.lastUsed second → first = second

theorem orderly_empty (clock : Nat) : (empty : Memory Row).Orderly clock where
  registered := registered_empty
  apart := fun first second table one => by simp [slot?, empty] at one
  known := fun cell table one => by simp [slot?, empty] at one
  early := fun cell present => by simp [isPresent, empty, Numbered.contains] at present
  alone := fun first second present => by simp [isPresent, empty, Numbered.contains] at present

/-! ## Cells and tables that go -/

/-- Cells and tables may go. The cells that are left were last used when they were. -/
structure Fades (before after : Memory Row) : Prop where
  next_le : before.tables.next ≤ after.tables.next
  slots : ∀ cell table, after.slot? cell = some table → before.slot? cell = some table
  uses : ∀ cell, after.isPresent cell = true →
    before.isPresent cell = true ∧ after.lastUsed cell = before.lastUsed cell

theorem Fades.orderly (fades : before.Fades after) (orderly : before.Orderly clock)
    (registered : after.Registered) : after.Orderly clock where
  registered := registered
  apart := fun first second table one other =>
    orderly.apart first second table (fades.slots _ _ one) (fades.slots _ _ other)
  known := fun cell table filled =>
    Nat.lt_of_lt_of_le (orderly.known cell table (fades.slots _ _ filled)) fades.next_le
  early := fun cell present => by
    obtain ⟨there, same⟩ := fades.uses cell present
    rw [same]
    exact orderly.early cell there
  alone := fun first second one other same => by
    obtain ⟨here, first'⟩ := fades.uses first one
    obtain ⟨there, second'⟩ := fades.uses second other
    exact orderly.alone first second here there (first' ▸ second' ▸ same)

theorem fades_of_cells (cells : after.cells = before.cells)
    (next_le : before.tables.next ≤ after.tables.next) : before.Fades after where
  next_le := next_le
  slots := fun cell table filled => by rwa [slot?, cells] at filled
  uses := fun cell present => by
    rw [isPresent, cells] at present
    exact ⟨present, by rw [lastUsed, lastUsed, cells]⟩

/-- A cell is left as it was, or with other counts of its handles, or not at all. -/
theorem fades_of_find? {change : Cell → Option Cell}
    (same : ∀ found left, change found = some left →
      left.slot = found.slot ∧ left.lastUsed = found.lastUsed)
    (next_le : before.tables.next ≤ after.tables.next)
    (cells : ∀ other, after.cells.find? other =
      if other = cell then (before.cells.find? cell).bind change
      else before.cells.find? other) : before.Fades after := by
  have known : ∀ other left, after.cells.find? other = some left →
      ∃ found, before.cells.find? other = some found ∧ left.slot = found.slot ∧
        left.lastUsed = found.lastUsed := by
    intro other left there
    rw [cells] at there
    split at there
    next here =>
      subst here
      obtain ⟨found, earlier, changed⟩ := Option.bind_eq_some_iff.1 there
      exact ⟨found, earlier, same found left changed⟩
    next => exact ⟨left, there, rfl, rfl⟩
  refine ⟨next_le, fun other table filled => ?_, fun other present => ?_⟩
  · obtain ⟨left, there, filled⟩ := Option.bind_eq_some_iff.1 filled
    obtain ⟨found, earlier, slot, -⟩ := known other left there
    rw [slot?, earlier, Option.bind_some, ← slot, filled]
  · obtain ⟨left, there⟩ := Option.isSome_iff_exists.1 present
    obtain ⟨found, earlier, -, used⟩ := known other left there
    refine ⟨by rw [isPresent, Numbered.contains, earlier]; rfl, ?_⟩
    rw [lastUsed, lastUsed, there, earlier]
    exact used

theorem fades_disown (memory : Memory Row) (cell : Nat) : memory.Fades (memory.disown cell) := by
  refine fades_of_find? (fun found left changed => ?_) (later_disown memory cell).next_le
    (find?_disown memory cell)
  split at changed <;> cases changed
  exact ⟨rfl, rfl⟩

theorem fades_closeRecent (memory : Memory Row) (cell : Nat) :
    memory.Fades (memory.closeRecent cell) := by
  refine fades_of_find? (fun found left changed => ?_) (later_closeRecent memory cell).next_le
    (find?_closeRecent memory cell)
  split at changed <;> cases changed
  exact ⟨rfl, rfl⟩

theorem Swept.fades {chosen : List Nat} (swept : before.Swept after chosen)
    (next_le : before.tables.next ≤ after.tables.next) : before.Fades after where
  next_le := next_le
  slots := fun cell table filled => by
    rw [swept.slot?] at filled
    split at filled
    next => cases filled
    next => exact filled
  uses := fun cell present => by
    rw [swept.isPresent_eq] at present
    exact ⟨present, swept.lastUsed_eq cell⟩

namespace Orderly

theorem release (orderly : memory.Orderly clock) (table : Nat) :
    (memory.release table).Orderly clock :=
  (fades_of_cells (cells_release memory table) (later_release memory table).next_le).orderly orderly
    ((shrinks_release memory table).registered orderly.registered)

theorem share (orderly : memory.Orderly clock) (table : Nat) :
    (memory.share table).Orderly clock :=
  (fades_of_cells (cells_share memory table) (later_share memory table).next_le).orderly orderly
    ((shrinks_share memory table).registered orderly.registered)

theorem disown (orderly : memory.Orderly clock) (cell : Nat) :
    (memory.disown cell).Orderly clock :=
  (fades_disown memory cell).orderly orderly
    ((shrinks_disown memory cell).registered orderly.registered)

theorem closeRecent (orderly : memory.Orderly clock) (cell : Nat) :
    (memory.closeRecent cell).Orderly clock :=
  (fades_closeRecent memory cell).orderly orderly
    ((shrinks_closeRecent memory cell).registered orderly.registered)

theorem vacate (orderly : memory.Orderly clock) {table : Nat}
    (filled : memory.slot? cell = some table) (alone : memory.holders table = 1) :
    (memory.vacate cell table).Orderly clock :=
  ((swept_vacate filled alone).fades (later_vacate memory cell table).next_le).orderly orderly
    ((shrinks_vacate memory cell table).registered orderly.registered)

theorem live (orderly : memory.Orderly clock) : memory.live.2.Orderly clock :=
  have fades : memory.Fades memory.live.2 := fades_of_cells rfl (Nat.le_refl _)
  fades.orderly orderly orderly.registered.live

theorem reclaim (orderly : memory.Orderly clock) (pressure : Pressure) :
    (memory.reclaim pressure).memory.Orderly clock := by
  obtain ⟨swept, -⟩ := orderly.apart.reclaim_eq orderly.registered pressure
  exact (swept.fades (later_reclaim memory pressure).next_le).orderly orderly
    (orderly.registered.reclaim pressure)

/-! ## Uses and new cells -/

/-- A use marks a cell with a tick that no other cell has. -/
theorem used (orderly : memory.Orderly clock) (cell : Nat) {change : Cell → Cell}
    (slot : ∀ found, (change found).slot = found.slot)
    (use : ∀ found, (change found).lastUsed = clock) :
    ({ memory with cells := memory.cells.adjust cell change } : Memory Row).Orderly
      (clock + 1) := by
  let marked : Memory Row := { memory with cells := memory.cells.adjust cell change }
  have slots : ∀ other, marked.slot? other = memory.slot? other := fun other =>
    Numbered.bind_find?_adjust memory.cells cell other change slot
  have present : ∀ other, marked.isPresent other = memory.isPresent other := fun other =>
    isPresent_adjust memory cell other change
  have uses : ∀ other, memory.isPresent other = true →
      marked.lastUsed other = if other = cell then clock else memory.lastUsed other := by
    intro other there
    obtain ⟨found, here⟩ := Option.isSome_iff_exists.1 there
    show (((memory.cells.adjust cell change).find? other).map Cell.lastUsed).getD 0 = _
    rw [Numbered.find?_adjust, here]
    split
    next => exact use found
    next => rw [lastUsed, here]
  refine ⟨(shrinks_adjust memory cell change).registered orderly.registered, ?_, ?_, ?_, ?_⟩
  · intro first second table one other
    rw [slots] at one other
    exact orderly.apart first second table one other
  · intro other table filled
    rw [slots] at filled
    exact orderly.known other table filled
  · intro other there
    rw [present] at there
    have early := orderly.early other there
    rw [uses other there]
    split <;> omega
  · intro first second one other same
    rw [present] at one other
    have before := orderly.early first one
    have after := orderly.early second other
    rw [uses first one, uses second other] at same
    split at same <;> split at same
    next here there => exact here.trans there.symm
    next => omega
    next => omega
    next => exact orderly.alone first second one other same

theorem openRecent (orderly : memory.Orderly clock) (cell : Nat) :
    (memory.openRecent cell clock).Orderly (clock + 1) :=
  orderly.used cell (fun _ => rfl) fun _ => rfl

theorem touchRecent (orderly : memory.Orderly clock) (cell : Nat) :
    (memory.touchRecent cell clock).Orderly (clock + 1) :=
  orderly.used cell (fun _ => rfl) fun _ => rfl

/-- A new table in a new cell that is registered. -/
theorem enroll (orderly : memory.Orderly clock) (rows : List Row) (keyId : Nat) :
    (((memory.newTable rows).2.newCell keyId memory.tables.next clock).2.register
      memory.cells.next).Orderly (clock + 1) := by
  let placed := (memory.newTable rows).2
  let grown := (placed.newCell keyId memory.tables.next clock).2.register memory.cells.next
  have cells : ∀ other, grown.cells.find? other =
      if other = memory.cells.next then some ⟨keyId, some memory.tables.next, 0, clock, 1⟩
      else memory.cells.find? other := Numbered.find?_add memory.cells _
  have slots : ∀ other, grown.slot? other =
      if other = memory.cells.next then some memory.tables.next else memory.slot? other := by
    intro other
    rw [slot?, cells]
    split <;> rfl
  have uses : ∀ other, grown.lastUsed other =
      if other = memory.cells.next then clock else memory.lastUsed other := by
    intro other
    rw [lastUsed, cells]
    split <;> rfl
  have present : ∀ other, grown.isPresent other = true ↔
      other = memory.cells.next ∨ memory.isPresent other = true :=
    isPresent_newCell placed keyId memory.tables.next clock
  have shrinks : memory.Shrinks placed := .of_cells rfl rfl
  have next : grown.tables.next = memory.tables.next + 1 := Numbered.next_add memory.tables _
  have registered := (shrinks.registered orderly.registered).enroll keyId memory.tables.next clock
  refine ⟨registered, ?_, ?_, ?_, ?_⟩
  · intro first second table one other
    rw [slots] at one other
    split at one <;> split at other
    next here there => exact here.trans there.symm
    next =>
      cases one
      exact absurd (orderly.known second _ other) (Nat.lt_irrefl _)
    next =>
      cases other
      exact absurd (orderly.known first _ one) (Nat.lt_irrefl _)
    next => exact orderly.apart first second table one other
  · intro other table filled
    show table < grown.tables.next
    rw [slots] at filled
    rw [next]
    split at filled
    next =>
      cases filled
      exact Nat.lt_succ_self _
    next => exact Nat.lt_succ_of_lt (orderly.known other table filled)
  · intro other there
    rw [uses]
    split
    next => exact Nat.lt_succ_self clock
    next different =>
      exact Nat.lt_succ_of_lt
        (orderly.early other (((present other).1 there).resolve_left different))
  · intro first second one other same
    rw [uses, uses] at same
    split at same <;> split at same
    next here there => exact here.trans there.symm
    next different =>
      have := orderly.early second (((present second).1 other).resolve_left different)
      omega
    next different _ =>
      have := orderly.early first (((present first).1 one).resolve_left different)
      omega
    next first' second' =>
      exact orderly.alone first second (((present first).1 one).resolve_left first')
        (((present second).1 other).resolve_left second') same

end Orderly

end Memory

/-! ## Histories of cells -/

namespace Cells

open Memory

namespace History

variable {history : History} {clock : Nat}

theorem clock_nameCell (history : History) (name : String) (cell : Nat) :
    (history.nameCell name cell).clock = history.clock := by
  unfold nameCell
  split <;> rfl

theorem clock_nameHandle (history : History) (name : String) (cell : Nat) :
    (history.nameHandle name cell).clock = history.clock := by
  unfold nameHandle
  split <;> rfl

theorem clock_nameHold (history : History) (name : String) (table : Nat) :
    (history.nameHold name table).clock = history.clock := by
  unfold nameHold
  split <;> rfl

theorem orderly_nameCell (orderly : history.memory.Orderly clock) (name : String) (cell : Nat) :
    (history.nameCell name cell).memory.Orderly clock := by
  unfold nameCell
  split
  next => exact orderly
  next replaced _ => exact orderly.disown replaced

theorem orderly_nameHandle (orderly : history.memory.Orderly clock) (name : String) (cell : Nat) :
    (history.nameHandle name cell).memory.Orderly clock := by
  unfold nameHandle
  split
  next => exact orderly
  next replaced _ => exact orderly.closeRecent replaced

theorem orderly_nameHold (orderly : history.memory.Orderly clock) (name : String) (table : Nat) :
    (history.nameHold name table).memory.Orderly clock := by
  unfold nameHold
  split
  next => exact orderly
  next replaced _ => exact orderly.release replaced

/-- Every step of a history keeps its memory in order. -/
theorem orderly_step (orderly : history.memory.Orderly history.clock) (step : Step) :
    (history.step step).state.memory.Orderly (history.step step).state.clock := by
  cases step with
  | create name keyId rows =>
      rw [History.step]
      simp only [Reply.ok, clock_nameCell]
      exact orderly_nameCell (orderly.enroll _ keyId) name _
  | dropCell name =>
      rw [History.step]
      split
      next => exact orderly
      next cell _ => exact orderly.disown cell
  | openRecent handle name =>
      rw [History.step]
      split
      next => exact orderly
      next cell _ =>
        simp only [Reply.ok, clock_nameHandle]
        exact orderly_nameHandle (orderly.openRecent cell) handle cell
  | touch handle =>
      rw [History.step]
      split
      next => exact orderly
      next cell _ => exact orderly.touchRecent cell
  | dropRecent handle =>
      rw [History.step]
      split
      next => exact orderly
      next cell _ => exact orderly.closeRecent cell
  | tryClear name =>
      rw [History.step]
      split
      next => exact orderly
      next cell _ =>
        split
        next => exact orderly
        next clearance after tried =>
          obtain ⟨table, filled, alone, -, rfl⟩ := tryClear_eq_some_iff.1 tried
          exact orderly.vacate filled alone
  | read name hold =>
      rw [History.step]
      split
      next => exact orderly
      next cell _ =>
        rw [Memory.read]
        split
        next => exact orderly
        next table memory found =>
          split at found
          next => cases found
          next =>
            cases found
            cases hold with
            | none => exact (orderly.share table).release table
            | some hold =>
                simp only [Reply.ok, clock_nameHold]
                exact orderly_nameHold (orderly.share table) hold table
  | dropHold hold =>
      rw [History.step]
      split
      next => exact orderly
      next table _ => exact orderly.release table
  | compareUse first second =>
      rw [History.step]
      split <;> exact orderly
  | drain =>
      rw [History.step]
      split <;> exact orderly
  | live => exact orderly.live
  | reclaim pressure => exact orderly.reclaim pressure
  | reclaimable => exact orderly.live
  | tracked => exact orderly.live
  | _ => exact orderly

theorem orderly_finalState (steps : List Step) (orderly : history.memory.Orderly history.clock) :
    (finalState History.step history steps).memory.Orderly
      (finalState History.step history steps).clock := by
  induction steps generalizing history with
  | nil => exact orderly
  | cons first rest ih => exact ih (orderly_step orderly first)

end History

/-- Whatever was done to some cells, a pass clears just the cells that its pressure asks for, in
order: live cells that could be cleared, those without a recent handle first. The live cells are
those that are there, in order of registration, which is the order of their numbers, since a history
registers each cell as it makes it. The pass reports how many cells of either kind it cleared, and
one notice for each joins the queue. Nothing else changes. -/
theorem pass_clears_what_is_due (steps : List Step) (pressure : Pressure) :
    let before := finalState History.step .create steps
    let reply := before.step (.reclaim pressure)
    before.memory.live.1 =
        (List.range before.memory.cells.next).filter before.memory.isPresent ∧
      ∃ weak recent, before.memory.Due weak recent ∧
        let chosen := pressure.portion weak recent
        before.memory.Swept reply.state.memory chosen ∧
          reply.result = .ok (.report ⟨chosen.countP (· ∈ weak), chosen.countP (· ∈ recent)⟩) ∧
          reply.state.queue = before.queue.map (· ++ chosen.map fun cell =>
            ⟨before.memory.keyId cell, before.memory.rowCount cell, cell ∈ recent⟩) ∧
          reply.state =
            { before with memory := reply.state.memory, queue := reply.state.queue } := by
  intro before reply
  have start : History.create.memory.Orderly History.create.clock := orderly_empty 1
  have orderly := History.orderly_finalState steps start
  have registered := orderly.registered
  obtain ⟨swept, notices, report⟩ := orderly.apart.reclaim_eq registered pressure
  have due : before.memory.Due before.memory.weakCandidates before.memory.recentCandidates :=
    due_candidates orderly.alone registered
  refine ⟨registered.live_eq, _, _, due, ?_⟩
  intro chosen
  have clearable : ∀ cell ∈ chosen, before.memory.isReclaimable cell = true := by
    intro cell member
    rcases List.mem_append.1 (mem_of_mem_portion member) with weak | recent
    · exact (registered.mem_weakCandidates.1 weak).1
    · exact (registered.mem_recentCandidates.1 recent).1
  have recent : ∀ cell ∈ chosen, before.memory.isRecentlyHeld cell =
      decide (cell ∈ before.memory.recentCandidates) := by
    intro cell member
    rw [Bool.eq_iff_iff, decide_eq_true_iff, registered.mem_recentCandidates]
    exact (and_iff_right (clearable cell member)).symm
  have weak : ∀ cell ∈ chosen, (!before.memory.isRecentlyHeld cell) =
      decide (cell ∈ before.memory.weakCandidates) := by
    intro cell member
    rw [Bool.eq_iff_iff, decide_eq_true_iff, registered.mem_weakCandidates, Bool.not_eq_true']
    exact (and_iff_right (clearable cell member)).symm
  refine ⟨swept, congrArg (Except.ok ∘ Answer.report) (report.trans ?_),
    congrArg (fun notices => before.queue.map (· ++ notices)) (notices.trans ?_), rfl⟩
  · exact congrArg₂ Report.mk (List.countP_congr fun cell member => by rw [weak cell member])
      (List.countP_congr fun cell member => by rw [recent cell member])
  · exact List.map_congr_left fun cell member =>
      congrArg (Clearance.mk _ _) (recent cell member)

/-- Five cells. The second one is given up, and a reader holds the table of the fourth one. The
first one and the third one have a recent handle each, and that of the first one was used last. -/
def mingled : List Step :=
  [.create "a" 7 2, .create "b" 5 1, .create "c" 8 1, .create "d" 4 6, .create "e" 9 3,
    .openRecent "f" "a", .openRecent "g" "c", .touch "f", .dropCell "b", .read "d" (some "h")]

/-- A pass over two cells clears the last one, which has no recent handle, and of the two that have
one the one that was used before the other. -/
theorem pass_clears_what_is_due_mingled :
    let before := finalState History.step .create mingled
    let reply := before.step (.reclaim (.bounded 2))
    before.memory.live.1 = [0, 2, 3, 4] ∧ before.memory.Due [4] [2, 0] ∧
      before.memory.Swept reply.state.memory [4, 2] ∧ reply.result = .ok (.report ⟨1, 1⟩) ∧
      reply.state.queue = some [⟨9, 3, false⟩, ⟨8, 1, true⟩] := by
  intro before reply
  have due : before.memory.Due [4] [2, 0] :=
    ⟨by decide +kernel, by decide +kernel, by decide +kernel⟩
  obtain ⟨live, weak, recent, found, swept, report, queue, -⟩ :=
    pass_clears_what_is_due mingled (.bounded 2)
  obtain ⟨rfl, rfl⟩ := found.unique due
  exact ⟨live.trans (by decide +kernel), due, swept, report, queue.trans (by decide +kernel)⟩

end Cells

end TableCache
