import TableCache.Proofs.Store.Passes

/-!
# The cells that clearances are about

A clearance names a key, not a cell, and cells of one key can follow each other. Here the clearances
of a pass are listed with the cells that they come from. `Subsides` says how a memory changes as
long as no cell is made: tables may go from cells, and nothing comes into one.

Main definitions:

1. `cellNotices`, `passNotices`: the cleared cells in order, each with its clearance;
2. `Subsides`: no cell is made, and none is filled.

Main statements:

1. `clearances_clearEach`, `clearances_pass`: these are the clearances of a list of cells, and of a
   pass;
2. `isReclaimable_iff_isSome_tryClear`: a cell can be cleared when an attempt does it;
3. `Holding.isReclaimable_iff`: that is when nobody else has its table.
-/

namespace TableCache.Memory

universe u

variable {Row : Type u} {memory before after : Memory Row} {cell : Nat}

/-! ## Cells with their clearances -/

/-- The cells that are cleared when cells are cleared in order within a budget, each with its
clearance. -/
def cellNotices : List Nat → Option Nat → Memory Row → List (Nat × Clearance)
  | [], _, _ => []
  | cell :: rest, budget, memory =>
      if budget = some 0 then []
      else
        match memory.tryClear cell with
        | none => cellNotices rest budget memory
        | some (clearance, memory) =>
            (cell, clearance) :: cellNotices rest (budget.map (· - 1)) memory

/-- The cells that a pass clears, each with its clearance. -/
def passNotices (memory : Memory Row) (pressure : Pressure) : List (Nat × Clearance) :=
  cellNotices memory.weakCandidates pressure.budget memory.live.2 ++
    if pressure = .weakOnly then []
    else
      cellNotices memory.recentCandidates (memory.weakPass pressure).2.1
        (memory.weakPass pressure).1

theorem clearances_clearEach (cells : List Nat) (budget : Option Nat) (memory : Memory Row) :
    (clearEach cells budget memory).2.2 = (cellNotices cells budget memory).map Prod.snd := by
  induction cells generalizing budget memory with
  | nil => rfl
  | cons cell rest ih =>
      rw [clearEach, cellNotices]
      split
      next => rfl
      next =>
        cases memory.tryClear cell with
        | none => exact ih budget memory
        | some result => exact congrArg (List.cons result.1) (ih _ _)

theorem clearances_pass (memory : Memory Row) (pressure : Pressure) :
    (memory.reclaim pressure).clearances = (memory.passNotices pressure).map Prod.snd := by
  rw [passNotices, List.map_append, ← clearances_clearEach]
  by_cases spared : pressure = .weakOnly
  · simp only [reclaim, if_pos spared, List.map_nil]
  · rw [clearances_reclaim memory spared, if_neg spared, ← clearances_clearEach]
    rfl

/-! ## When a cell can be cleared -/

theorem isReclaimable_iff_isSome_tryClear :
    memory.isReclaimable cell = true ↔ (memory.tryClear cell).isSome = true := by
  rw [isReclaimable, tryClear]
  cases memory.slot? cell with
  | none => rfl
  | some table => by_cases alone : memory.holders table = 1 <;> simp [alone]

/-- A cell can be cleared when nobody else has its table: no reader, and no other cell. The holders
of the table are the cell itself, the other cells with it, and its readers. -/
theorem Holding.isReclaimable_iff {held : Multiset Nat}
    (holding : memory.Holding (slots memory.cells + held)) :
    memory.isReclaimable cell = true ↔
      ∃ table, memory.slot? cell = some table ∧ table ∉ held ∧
        ∀ other, memory.slot? other = some table → other = cell := by
  rw [isReclaimable]
  cases filled : memory.slot? cell with
  | none => simp
  | some table =>
      obtain ⟨found, known, same⟩ := Option.bind_eq_some_iff.1 filled
      have counted := holding table
      rw [slots_of_find? known same, Multiset.cons_add, Multiset.count_cons_self,
        Multiset.count_add] at counted
      have elsewhere : table ∉ slots (memory.cells.erase cell) ↔
          ∀ other, memory.slot? other = some table → other = cell := by
        rw [mem_slots]
        constructor
        · intro nowhere other there
          by_contra different
          obtain ⟨second, here, equal⟩ := Option.bind_eq_some_iff.1 there
          refine nowhere ⟨other, second, ?_, equal⟩
          rw [Numbered.find?_erase, if_neg different, here]
        · rintro only ⟨other, second, here, equal⟩
          rw [Numbered.find?_erase] at here
          split at here
          next => cases here
          next different =>
            refine different (only other ?_)
            rw [slot?, here, Option.bind_some, equal]
      simp only [decide_eq_true_eq, Option.some.injEq, exists_eq_left', ← elsewhere,
        ← Multiset.count_eq_zero]
      omega

/-! ## More handles on a cell -/

/-- A weak handle is cloned. -/
theorem Owned.own {weak recent : Multiset Nat} (owned : memory.Owned weak recent)
    (handled : cell ∈ weak) : (memory.own cell).Owned (cell ::ₘ weak) recent := by
  obtain ⟨found, known⟩ := owned.present (.inl handled)
  refine ⟨fun other => ?_, fun other => ?_, fun other => ?_⟩
  · have before := owned.owners other
    simp only [Memory.owners, Memory.own, Numbered.find?_adjust, Multiset.count_cons] at before ⊢
    split
    next same =>
      subst same
      simp only [known, Option.map_some, Option.getD_some] at before ⊢
      omega
    next => exact before
  · rw [Memory.recentHolds, Memory.own, Numbered.map_find?_adjust memory.cells cell other
      (fun cell => { cell with owners := cell.owners + 1 }) fun _ => rfl]
    exact owned.recentHolds other
  · have before := owned.kept other
    simp only [Memory.owners, Memory.isPresent, Numbered.contains, Memory.own,
      Numbered.find?_adjust] at before ⊢
    split
    next same =>
      subst same
      simp [known]
    next => exact before

/-! ## Tables that go from cells -/

/-- No cell is made and none is filled; what is still in a cell was there under the same key, and
has the rows it always had. -/
structure Subsides (before after : Memory Row) : Prop where
  later : before.Later after
  next : after.cells.next = before.cells.next
  slots : ∀ cell table, after.slot? cell = some table →
    before.slot? cell = some table ∧ after.keyId cell = before.keyId cell

theorem Subsides.of_cells (later : before.Later after) (same : after.cells = before.cells) :
    before.Subsides after where
  later := later
  next := by rw [same]
  slots := fun cell table filled => by
    rw [slot?, same] at filled
    exact ⟨filled, by rw [keyId, same, keyId]⟩

/-- A change to one cell that leaves its table and its key. -/
theorem subsides_adjust (memory : Memory Row) (cell : Nat) (change : Cell → Cell)
    (sameSlot : ∀ cell, (change cell).slot = cell.slot)
    (sameKey : ∀ cell, (change cell).keyId = cell.keyId) :
    memory.Subsides { memory with cells := memory.cells.adjust cell change } where
  later := .of_tables rfl
  next := Numbered.next_adjust _ _ _
  slots := fun other table filled => by
    rw [slot?, Numbered.bind_find?_adjust _ _ _ _ sameSlot] at filled
    rw [keyId, Numbered.map_find?_adjust _ _ _ _ sameKey]
    exact ⟨filled, rfl⟩

/-- A change to one cell that may also do away with it. -/
theorem subsides_of_find? {change : Cell → Option Cell}
    (same : ∀ found left, change found = some left →
      left.slot = found.slot ∧ left.keyId = found.keyId)
    (later : before.Later after) (next : after.cells.next = before.cells.next)
    (cells : ∀ other, after.cells.find? other =
      if other = cell then (before.cells.find? cell).bind change
      else before.cells.find? other) : before.Subsides after := by
  refine ⟨later, next, fun other table filled => ?_⟩
  obtain ⟨left, there, filled⟩ := Option.bind_eq_some_iff.1 filled
  have kept : ∃ found, before.cells.find? other = some found ∧ left.slot = found.slot ∧
      left.keyId = found.keyId := by
    rw [cells] at there
    split at there
    next here =>
      subst here
      obtain ⟨found, earlier, changed⟩ := Option.bind_eq_some_iff.1 there
      exact ⟨found, earlier, same found left changed⟩
    next => exact ⟨left, there, rfl, rfl⟩
  obtain ⟨found, earlier, slot, key⟩ := kept
  rw [slot?, keyId, keyId, there, earlier, Option.bind_some, ← slot, filled]
  exact ⟨rfl, key⟩

theorem next_disown (memory : Memory Row) (cell : Nat) :
    (memory.disown cell).cells.next = memory.cells.next := by
  unfold disown
  cases memory.cells.find? cell with
  | none => rfl
  | some found =>
      by_cases few : found.owners ≤ 1
      · simp only [if_pos few]
        cases found.slot with
        | none => exact Numbered.next_erase _ _
        | some table => exact Numbered.next_erase _ _
      · simp only [if_neg few]
        exact Numbered.next_adjust _ _ _

theorem subsides_disown (memory : Memory Row) (cell : Nat) :
    memory.Subsides (memory.disown cell) := by
  refine subsides_of_find? (fun found left changed => ?_) (later_disown memory cell)
    (next_disown memory cell) (find?_disown memory cell)
  split at changed <;> cases changed
  exact ⟨rfl, rfl⟩

theorem subsides_closeRecent (memory : Memory Row) (cell : Nat) :
    memory.Subsides (memory.closeRecent cell) := by
  refine subsides_of_find? (fun found left changed => ?_) (later_closeRecent memory cell)
    ((next_disown _ cell).trans (Numbered.next_adjust _ _ _)) (find?_closeRecent memory cell)
  split at changed <;> cases changed
  exact ⟨rfl, rfl⟩

theorem subsides_vacate (memory : Memory Row) (cell table : Nat) :
    memory.Subsides (memory.vacate cell table) where
  later := later_vacate memory cell table
  next := Numbered.next_adjust _ _ _
  slots := fun other second filled => by
    rw [slot?_vacate] at filled
    split at filled
    next => cases filled
    next => exact ⟨filled, keyId_vacate memory cell table other⟩

end TableCache.Memory
