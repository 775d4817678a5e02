import TableCache.Proofs.Store.Orphans

/-!
# When the tables of a store were used last

The cell of an entry has the tick of its last use. Seen under the keys, a put and a recent handle
that is attached set the tick of their key, a removal takes it away, and nothing else changes any
tick. A reclaim pass in particular leaves the ticks of the cells it clears.

Main statements:

1. `Sound.usedAt_put`, `Sound.usedAt_attachRecent`: the two uses;
2. `Sound.usedAt_invalidate`, `Sound.usedAt_removeOrphans`: the removals;
3. `Sound.usedAt_dropRecent`, `usedAt_reclaimed`, ...: everything else.
-/

namespace TableCache

universe u

variable {Row : Type u}

namespace Memory

variable {memory after : Memory Row} {tables : List Nat} {clearances : List Clearance}

/-- The tick of the last use of a cell, if the cell is there. -/
def usedAt (memory : Memory Row) (cell : Nat) : Option Nat :=
  (memory.cells.find? cell).map Cell.lastUsed

theorem lastUsed_eq (memory : Memory Row) (cell : Nat) :
    memory.lastUsed cell = (memory.usedAt cell).getD 0 := rfl

theorem usedAt_congr {cell : Nat} (same : after.cells.find? cell = memory.cells.find? cell) :
    after.usedAt cell = memory.usedAt cell :=
  congrArg (Option.map Cell.lastUsed) same

/-- A use of a cell. -/
theorem usedAt_adjust (memory : Memory Row) (cell other : Nat) {change : Cell → Cell} {tick : Nat}
    (uses : ∀ cell, (change cell).lastUsed = tick) :
    ({ memory with cells := memory.cells.adjust cell change } : Memory Row).usedAt other =
      if other = cell then (memory.usedAt cell).map fun _ => tick else memory.usedAt other := by
  rw [usedAt, Numbered.find?_adjust]
  split
  next same =>
    rw [same, usedAt, Option.map_map, Option.map_map]
    exact congrArg (Option.map · _) (funext uses)
  next => rfl

theorem usedAt_vacate (memory : Memory Row) (cell table other : Nat) :
    (memory.vacate cell table).usedAt other = memory.usedAt other :=
  Numbered.map_find?_adjust _ _ _ _ fun _ => rfl

theorem Clears.usedAt (clears : Clears memory tables clearances after) (cell : Nat) :
    after.usedAt cell = memory.usedAt cell := by
  induction clears with
  | nothing => rfl
  | more _ _ _ ih => rw [ih, usedAt_vacate]

/-- A pass uses nothing. -/
theorem usedAt_reclaim (memory : Memory Row) (pressure : Pressure) (cell : Nat) :
    (memory.reclaim pressure).memory.usedAt cell = memory.usedAt cell := by
  obtain ⟨tables, clears⟩ := clears_reclaim memory pressure
  exact clears.usedAt cell

end Memory

namespace Store

open Memory

variable {store after : Store Row} {held : Multiset Nat} {keyId other : Nat} {entry : Entry}

/-- The cell of a key that has an entry. -/
def cellOf? (store : Store Row) (keyId : Nat) : Option Nat :=
  (store.entryOf? keyId).map Entry.cell

/-- The tick of the last use of a key that has an entry. -/
def usedAt (store : Store Row) (keyId : Nat) : Option Nat :=
  (store.cellOf? keyId).bind store.memory.usedAt

/-! ## Reading the ticks -/

theorem usedAt_of_entry (found : store.entryOf? keyId = some entry) :
    store.usedAt keyId = store.memory.usedAt entry.cell := by
  rw [usedAt, cellOf?, found]
  rfl

theorem usedAt_of_absent (absent : store.entryOf? keyId = none) : store.usedAt keyId = none := by
  rw [usedAt, cellOf?, absent]
  rfl

/-- The cell of an entry is there, and so it has a tick. -/
theorem Sound.usedAt_eq_some (sound : store.Sound held)
    (found : store.entryOf? keyId = some entry) :
    store.usedAt keyId = some (store.memory.lastUsed entry.cell) := by
  obtain ⟨cell, there⟩ := Backs.find?_cell sound (mem_pairs found)
  rw [usedAt_of_entry found, lastUsed_eq, Memory.usedAt, there]
  rfl

/-- The ticks of the keys are the ticks of all cells. -/
theorem Sound.usedAt_of_cell (sound : store.Sound held) {cell tick : Nat}
    (used : store.memory.usedAt cell = some tick) :
    ∃ keyId, store.cellOf? keyId = some cell ∧ store.usedAt keyId = some tick := by
  obtain ⟨found, there, -⟩ := Option.map_eq_some_iff.1 used
  have present : store.memory.isPresent cell = true := by
    rw [isPresent, Numbered.contains, there]
    rfl
  obtain ⟨keyId, entry, member, rfl⟩ := Backs.entry_of_cell sound present
  have known : store.entryOf? keyId = some entry := Numbered.mem_pairs.1 member
  refine ⟨keyId, ?_, (usedAt_of_entry known).trans used⟩
  rw [cellOf?, known]
  rfl

theorem usedAt_congr (sameCell : after.cellOf? keyId = store.cellOf? keyId)
    (sameUse : ∀ cell, store.cellOf? keyId = some cell →
      after.memory.usedAt cell = store.memory.usedAt cell) :
    after.usedAt keyId = store.usedAt keyId := by
  rw [usedAt, usedAt, sameCell]
  cases found : store.cellOf? keyId with
  | none => rfl
  | some cell => exact sameUse cell found

/-- A change of one cell is not seen under another key. -/
theorem Sound.usedAt_other (sound : store.Sound held) (different : other ≠ keyId)
    (found : store.entryOf? keyId = some entry)
    (sameCell : after.cellOf? other = store.cellOf? other)
    (sameCells : ∀ cell, cell ≠ entry.cell →
      after.memory.cells.find? cell = store.memory.cells.find? cell) :
    after.usedAt other = store.usedAt other := by
  refine usedAt_congr sameCell fun cell there => ?_
  obtain ⟨second, known, rfl⟩ := Option.map_eq_some_iff.1 there
  exact Memory.usedAt_congr (sameCells _ (sound.cell_ne different found known))

theorem cellOf?_of_entries (same : after.entries = store.entries) (keyId : Nat) :
    after.cellOf? keyId = store.cellOf? keyId := by
  rw [cellOf?, cellOf?, entryOf?, entryOf?, same]

/-- What is done to the handles of an entry leaves its cell. -/
theorem cellOf?_adjust (store : Store Row) (keyId other : Nat) {change : Entry → Entry}
    (same : ∀ entry, (change entry).cell = entry.cell) :
    ((store.entries.adjust keyId change).find? other).map Entry.cell = store.cellOf? other :=
  Numbered.map_find?_adjust _ _ _ _ same

/-! ## Uses -/

/-- A put uses its key twice, and the second tick counts. -/
theorem Sound.usedAt_put (sound : store.Sound held) (host : Host) (keyId other : Nat)
    (rows : List Row) :
    (store.put host keyId rows).2.1.usedAt other =
      if other = keyId then some (host.clock + 1) else store.usedAt other := by
  have entered := entryOf?_put store host keyId other rows
  by_cases same : other = keyId
  · have fresh : ∀ replaced, store.entryOf? keyId = some replaced →
        store.memory.cells.next ≠ replaced.cell :=
      fun replaced found => (Nat.ne_of_lt (sound.cell_lt_next found)).symm
    rw [if_pos same] at entered ⊢
    rw [usedAt_of_entry entered, Memory.usedAt]
    simp only [lodged]
    rw [sound.find?_put host keyId rows fresh, if_pos rfl]
    rfl
  · rw [if_neg same] at entered ⊢
    refine usedAt_congr (congrArg (Option.map Entry.cell) entered) fun cell there => ?_
    obtain ⟨second, known, rfl⟩ := Option.map_eq_some_iff.1 there
    refine Memory.usedAt_congr ?_
    rw [sound.find?_put host keyId rows fun replaced found => sound.cell_ne same found known,
      if_neg (Nat.ne_of_lt (sound.cell_lt_next known))]

/-- A store in which the cell of one key was used. -/
theorem Sound.usedAt_used (sound : store.Sound held) {tick : Nat}
    (found : store.entryOf? keyId = some entry)
    (sameCell : ∀ other, after.cellOf? other = store.cellOf? other)
    (used : ∀ cell, after.memory.usedAt cell =
      if cell = entry.cell then (store.memory.usedAt entry.cell).map fun _ => tick
      else store.memory.usedAt cell) (other : Nat) :
    after.usedAt other = if other = keyId then some tick else store.usedAt other := by
  have there : store.cellOf? keyId = some entry.cell := congrArg (Option.map Entry.cell) found
  split
  next same =>
    subst same
    have before := sound.usedAt_eq_some found
    rw [usedAt_of_entry found] at before
    rw [usedAt, sameCell, there, Option.bind_some, used, if_pos rfl, before]
    rfl
  next different =>
    refine usedAt_congr (sameCell other) fun cell known => ?_
    obtain ⟨second, entered, rfl⟩ := Option.map_eq_some_iff.1 known
    rw [used, if_neg (sound.cell_ne different found entered)]

/-- A recent handle that is attached uses its key. -/
theorem Sound.usedAt_attachRecent (sound : store.Sound held) (host : Host) (keyId other : Nat) :
    (store.attachRecent host keyId).1.usedAt other =
      if other = keyId ∧ store.has keyId = true then some host.clock else store.usedAt other := by
  cases found : store.entryOf? keyId with
  | none => simp [attachRecent_of_absent found, has, found]
  | some entry =>
      have present : store.has keyId = true := congrArg Option.isSome found
      simp only [present, and_true]
      cases recent : entry.recent with
      | none =>
          rw [attachRecent_of_not_isRecent found recent]
          refine sound.usedAt_used found (fun other => ?_) (fun cell => ?_) other
          · exact cellOf?_adjust store keyId other fun _ => rfl
          · exact usedAt_adjust store.memory entry.cell cell fun _ => rfl
      | some cell =>
          obtain rfl := (sound.linked found).recent cell recent
          rw [attachRecent_of_isRecent found recent]
          refine sound.usedAt_used found (fun other => ?_) (fun cell => ?_) other
          · rfl
          · exact usedAt_adjust store.memory entry.cell cell fun _ => rfl

theorem clock_attachRecent (store : Store Row) (host : Host) (keyId : Nat) :
    (store.attachRecent host keyId).2.clock =
      if store.has keyId = true then host.clock + 1 else host.clock := by
  rw [has]
  cases found : store.entryOf? keyId with
  | none => rw [attachRecent_of_absent found]; rfl
  | some entry =>
      cases recent : entry.recent with
      | none => rw [attachRecent_of_not_isRecent found recent]; rfl
      | some cell => rw [attachRecent_of_isRecent found recent]; rfl

/-! ## Removals -/

theorem Sound.usedAt_invalidate (sound : store.Sound held) (keyId other : Nat) :
    (store.invalidate keyId).2.usedAt other =
      if other = keyId then none else store.usedAt other := by
  have entered := entryOf?_invalidate store keyId other
  by_cases same : other = keyId
  · rw [if_pos same] at entered ⊢
    exact usedAt_of_absent entered
  · rw [if_neg same] at entered ⊢
    unfold Store.invalidate at entered ⊢
    split at entered
    next => rfl
    next entry found =>
      refine sound.usedAt_other same found (congrArg (Option.map Entry.cell) entered) ?_
      intro cell apart
      exact find?_discard (sound.linked found).recent _ apart

theorem Sound.usedAt_removeOrphans (sound : store.Sound held) (keys : Keys) (posted : List Nat)
    (keyId : Nat) :
    (Store.removeOrphans keys posted store).2.usedAt keyId =
      if keyId ∈ (Store.removeOrphans keys posted store).1 then none else store.usedAt keyId := by
  induction posted generalizing store with
  | nil => rfl
  | cons first rest ih =>
      rw [Store.removeOrphans]
      split
      next =>
        rw [ih (sound.invalidate first), sound.usedAt_invalidate]
        by_cases same : keyId = first <;> simp [same]
      next => exact ih sound

/-! ## Everything else -/

theorem usedAt_clearForReclaim (store : Store Row) (keyId other : Nat) :
    (store.clearForReclaim keyId).2.usedAt other = store.usedAt other := by
  unfold Store.clearForReclaim
  split
  next => rfl
  next => exact usedAt_congr (cellOf?_adjust store keyId other fun _ => rfl) fun _ _ => rfl

/-- A cell keeps its tick when its recent handle is dropped. -/
theorem Sound.usedAt_dropRecent (sound : store.Sound held) (keyId other : Nat) :
    (store.dropRecent keyId).2.usedAt other = store.usedAt other := by
  rcases Option.eq_none_or_eq_some ((store.entryOf? keyId).bind Entry.recent) with
    idle | ⟨cell, used⟩
  · rw [dropRecent_of_not_isRecent idle]
  · rw [dropRecent_of_isRecent used]
    obtain ⟨entry, found, recent⟩ := Option.bind_eq_some_iff.1 used
    obtain rfl := (sound.linked found).recent cell recent
    refine usedAt_congr (cellOf?_adjust store keyId other fun _ => rfl) fun cell _ => ?_
    by_cases same : cell = entry.cell
    · subst same
      obtain ⟨cell, known, left⟩ := Backs.find?_closeRecent sound (mem_pairs found) recent
      simp only [Memory.usedAt]
      rw [left, known]
      rfl
    · exact Memory.usedAt_congr ((find?_closeRecent _ _ _).trans (if_neg same))

theorem usedAt_read (store : Store Row) (keyId other : Nat) :
    (store.read keyId).2.usedAt other = store.usedAt other := by
  refine usedAt_congr (cellOf?_of_entries (entries_read store keyId) other) fun cell _ => ?_
  rw [Memory.usedAt, Memory.usedAt, cells_read]

theorem usedAt_reclaimed (store : Store Row) (pressure : Pressure) (keyId : Nat) :
    (store.reclaimed pressure).usedAt keyId = store.usedAt keyId :=
  usedAt_congr rfl fun cell _ => usedAt_reclaim store.memory pressure cell

end Store

end TableCache
