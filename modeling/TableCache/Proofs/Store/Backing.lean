import TableCache.Proofs.Memory.Counting
import TableCache.Store.Basic

/-!
# Entries and the memory behind them

Every handle of an entry is counted in the memory that it points into. `Memory.Backs` says so for a
bag of entries and for the tables that readers hold: the claims on a table are its cell, the strong
handles on it and its readers; the owners of a cell are the handles of the one entry that it belongs
to. The bag need not be all entries of a store, so that an entry can be followed that has left its
store and still has its handles.

Main statements:

1. `Backs.lodge`: a new table with a new entry that has all three handles on it;
2. `Backs.discard`, `unpin`, `openRecent`, `closeRecent`: handles of one entry come and go;
3. `Backs.share`, `release`: readers come and go;
4. `Backs.owners_eq`, `recentHolds_eq`, `two_le_holders`: what the counts are.
-/

namespace TableCache

universe u

variable {Row : Type u}

/-! ## Handles -/

namespace Entry

/-- The cells held weakly by some entries. -/
def weakHandles (entries : Multiset (Nat × Entry)) : Multiset Nat :=
  entries.map fun pair => pair.2.cell

/-- The cells held recently by some entries. -/
def recentHandles (entries : Multiset (Nat × Entry)) : Multiset Nat :=
  entries.filterMap fun pair => pair.2.recent

/-- The tables held strongly by some entries. -/
def strongHandles (entries : Multiset (Nat × Entry)) : Multiset Nat :=
  entries.filterMap fun pair => pair.2.strong

@[simp]
theorem weakHandles_cons (keyId : Nat) (entry : Entry) (entries : Multiset (Nat × Entry)) :
    weakHandles ((keyId, entry) ::ₘ entries) = entry.cell ::ₘ weakHandles entries :=
  Multiset.map_cons _ _ _

theorem recentHandles_cons (keyId : Nat) (entry : Entry) (entries : Multiset (Nat × Entry)) :
    recentHandles ((keyId, entry) ::ₘ entries) =
      (entry.recent.map singleton).getD 0 + recentHandles entries :=
  Multiset.filterMap_cons _ _ _

theorem strongHandles_cons (keyId : Nat) (entry : Entry) (entries : Multiset (Nat × Entry)) :
    strongHandles ((keyId, entry) ::ₘ entries) =
      (entry.strong.map singleton).getD 0 + strongHandles entries :=
  Multiset.filterMap_cons _ _ _

theorem recentHandles_cons_some {entry : Entry} {cell : Nat} (held : entry.recent = some cell)
    (keyId : Nat) (entries : Multiset (Nat × Entry)) :
    recentHandles ((keyId, entry) ::ₘ entries) = cell ::ₘ recentHandles entries :=
  Multiset.filterMap_cons_some _ (keyId, entry) _ held

theorem recentHandles_cons_none {entry : Entry} (free : entry.recent = none)
    (keyId : Nat) (entries : Multiset (Nat × Entry)) :
    recentHandles ((keyId, entry) ::ₘ entries) = recentHandles entries :=
  Multiset.filterMap_cons_none (keyId, entry) _ free

theorem strongHandles_cons_some {entry : Entry} {table : Nat} (held : entry.strong = some table)
    (keyId : Nat) (entries : Multiset (Nat × Entry)) :
    strongHandles ((keyId, entry) ::ₘ entries) = table ::ₘ strongHandles entries :=
  Multiset.filterMap_cons_some _ (keyId, entry) _ held

theorem strongHandles_cons_none {entry : Entry} (free : entry.strong = none)
    (keyId : Nat) (entries : Multiset (Nat × Entry)) :
    strongHandles ((keyId, entry) ::ₘ entries) = strongHandles entries :=
  Multiset.filterMap_cons_none (keyId, entry) _ free

/-- The handles of an entry belong together: its cell knows its key, what it holds strongly is the
table in its cell, and what it holds recently is its cell. -/
structure Linked (entry : Entry) (memory : Memory Row) (keyId : Nat) : Prop where
  keyId : memory.keyId entry.cell = keyId
  strong : ∀ table, entry.strong = some table → memory.slot? entry.cell = some table
  recent : ∀ cell, entry.recent = some cell → cell = entry.cell

/-- Only the cell of an entry matters for its handles. -/
theorem Linked.of_find? {entry : Entry} {before after : Memory Row} {keyId : Nat}
    (linked : entry.Linked before keyId)
    (same : after.cells.find? entry.cell = before.cells.find? entry.cell) :
    entry.Linked after keyId := by
  refine ⟨?_, fun table held => ?_, linked.recent⟩
  · rw [Memory.keyId, same]
    exact linked.keyId
  · rw [Memory.slot?, same]
    exact linked.strong table held

end Entry

namespace Memory

open Entry

/-- The counts of a memory are those of some entries and some readers, every entry has a cell of its
own, and every table is in one cell at most. -/
structure Backs (memory : Memory Row) (entries : Multiset (Nat × Entry)) (held : Multiset Nat) :
    Prop where
  holding : memory.Holding (slots memory.cells + (strongHandles entries + held))
  owned : memory.Owned (weakHandles entries) (recentHandles entries)
  linked : ∀ keyId entry, (keyId, entry) ∈ entries → entry.Linked memory keyId
  apart : (weakHandles entries).Nodup
  single : (slots memory.cells).Nodup

variable {memory : Memory Row} {entries : Multiset (Nat × Entry)} {held : Multiset Nat}
  {keyId : Nat} {entry : Entry}

theorem backs_empty : (empty : Memory Row).Backs 0 0 where
  holding := fun table => by simp [holders, empty, slots]; rfl
  owned :=
    { owners := fun cell => by simp [Memory.owners, empty, weakHandles, recentHandles]
      recentHolds := fun cell => by simp [Memory.recentHolds, empty, recentHandles]
      kept := fun cell present => by simp [isPresent, Numbered.contains, empty] at present }
  linked := fun _ _ member => absurd member (Multiset.notMem_zero _)
  apart := Multiset.nodup_zero
  single := Multiset.nodup_zero

/-! ## Readers -/

theorem Backs.share (backs : memory.Backs entries held) {table : Nat}
    (claimed : table ∈ slots memory.cells + (strongHandles entries + held)) :
    (memory.share table).Backs entries (table ::ₘ held) where
  holding := by
    rw [Multiset.add_cons, Multiset.add_cons]
    exact backs.holding.share claimed
  owned := backs.owned.of_cells rfl
  linked := fun keyId entry member => (backs.linked keyId entry member).of_find? rfl
  apart := backs.apart
  single := backs.single

theorem Backs.release {table : Nat} (backs : memory.Backs entries (table ::ₘ held)) :
    (memory.release table).Backs entries held where
  holding := by
    refine Holding.release ?_
    rw [← Multiset.add_cons, ← Multiset.add_cons]
    exact backs.holding
  owned := backs.owned.of_cells rfl
  linked := fun keyId entry member => (backs.linked keyId entry member).of_find? rfl
  apart := backs.apart
  single := backs.single

/-! ## What the counts are -/

theorem Backs.cell_inj (backs : memory.Backs entries held) {first second : Entry} {one other : Nat}
    (here : (one, first) ∈ entries) (there : (other, second) ∈ entries)
    (same : first.cell = second.cell) : one = other := by
  rw [← (backs.linked one first here).keyId, ← (backs.linked other second there).keyId, same]

/-- A cell of the memory is the cell of some entry. -/
theorem Backs.entry_of_cell (backs : memory.Backs entries held) {number : Nat}
    (present : memory.isPresent number = true) :
    ∃ keyId entry, (keyId, entry) ∈ entries ∧ entry.cell = number := by
  have positive := backs.owned.kept number present
  rw [backs.owned.owners] at positive
  rcases Nat.add_pos_iff_pos_or_pos.1 positive with weak | recent
  · obtain ⟨⟨keyId, entry⟩, member, same⟩ := Multiset.mem_map.1 (Multiset.count_pos.1 weak)
    exact ⟨keyId, entry, member, same⟩
  · obtain ⟨⟨keyId, entry⟩, member, same⟩ :=
      (Multiset.mem_filterMap _ _).1 (Multiset.count_pos.1 recent)
    exact ⟨keyId, entry, member, ((backs.linked keyId entry member).recent number same).symm⟩

/-- The cell of an entry is the cell of no other. -/
theorem Backs.cell_ne (backs : memory.Backs ((keyId, entry) ::ₘ entries) held) {other : Nat}
    {second : Entry} (member : (other, second) ∈ entries) : second.cell ≠ entry.cell := by
  have apart := backs.apart
  rw [weakHandles_cons, Multiset.nodup_cons] at apart
  intro same
  exact apart.1 (same ▸ Multiset.mem_map_of_mem (fun pair => pair.2.cell) member)

theorem Backs.notMem_recent (backs : memory.Backs ((keyId, entry) ::ₘ entries) held) :
    entry.cell ∉ recentHandles entries := by
  intro present
  obtain ⟨⟨other, second⟩, member, same⟩ := (Multiset.mem_filterMap _ _).1 present
  have linked := backs.linked other second (Multiset.mem_cons_of_mem member)
  exact backs.cell_ne member (linked.recent entry.cell same).symm

/-- A cell has one recent handle if its entry has one, and else none. -/
theorem Backs.recentHolds_eq (backs : memory.Backs entries held)
    (member : (keyId, entry) ∈ entries) :
    memory.recentHolds entry.cell = if entry.recent.isSome then 1 else 0 := by
  obtain ⟨rest, rfl⟩ := Multiset.exists_cons_of_mem member
  have others := Multiset.count_eq_zero.2 backs.notMem_recent
  rw [backs.owned.recentHolds]
  cases recent : entry.recent with
  | none =>
      rw [recentHandles_cons_none recent]
      simpa using others
  | some cell =>
      obtain rfl := (backs.linked keyId entry member).recent cell recent
      rw [recentHandles_cons_some recent, Multiset.count_cons_self, others]
      rfl

/-- A cell is owned by the handles of its entry and by nothing else. -/
theorem Backs.owners_eq (backs : memory.Backs entries held) (member : (keyId, entry) ∈ entries) :
    memory.owners entry.cell = 1 + if entry.recent.isSome then 1 else 0 := by
  have one : (weakHandles entries).count entry.cell = 1 :=
    Multiset.count_eq_one_of_mem backs.apart
      (Multiset.mem_map_of_mem (fun pair => pair.2.cell) member)
  rw [backs.owned.owners, one, ← backs.owned.recentHolds, backs.recentHolds_eq member]

/-- The cell of an entry is there. -/
theorem Backs.find?_cell (backs : memory.Backs entries held) (member : (keyId, entry) ∈ entries) :
    ∃ cell, memory.cells.find? entry.cell = some cell :=
  backs.owned.present (.inl (Multiset.mem_map_of_mem (fun pair => pair.2.cell) member))

theorem mem_slots_of_slot? {number table : Nat} (filled : memory.slot? number = some table) :
    table ∈ slots memory.cells := by
  obtain ⟨cell, found, same⟩ := Option.bind_eq_some_iff.1 filled
  exact mem_slots.2 ⟨number, cell, found, same⟩

/-- A table is in one cell only. -/
theorem Backs.slot_inj (backs : memory.Backs entries held) {first second table : Nat}
    (one : memory.slot? first = some table) (other : memory.slot? second = some table) :
    first = second := by
  obtain ⟨cell, found, filled⟩ := Option.bind_eq_some_iff.1 one
  obtain ⟨cell', found', filled'⟩ := Option.bind_eq_some_iff.1 other
  by_contra different
  have single := backs.single
  rw [slots_of_find? found filled, Multiset.nodup_cons] at single
  refine single.1 (mem_slots.2 ⟨second, cell', ?_, filled'⟩)
  rw [Numbered.find?_erase, if_neg (Ne.symm different)]
  exact found'

/-- A table in a cell that somebody else holds has two holders at least. -/
theorem Backs.two_le_holders (backs : memory.Backs entries held) {number table : Nat}
    (filled : memory.slot? number = some table)
    (claimed : table ∈ strongHandles entries + held) : 2 ≤ memory.holders table := by
  have stored := Multiset.count_pos.2 (mem_slots_of_slot? filled)
  have pinned := Multiset.count_pos.2 claimed
  rw [backs.holding table, Multiset.count_add]
  omega

/-! ## One entry -/

/-- The parts of a memory that the handles of other entries point into. -/
theorem Backs.linked_others (backs : memory.Backs ((keyId, entry) ::ₘ entries) held)
    {after : Memory Row}
    (same : ∀ other, other ≠ entry.cell →
      after.cells.find? other = memory.cells.find? other)
    {other : Nat} {second : Entry} (member : (other, second) ∈ entries) :
    second.Linked after other :=
  (backs.linked other second (Multiset.mem_cons_of_mem member)).of_find?
    (same second.cell (backs.cell_ne member))

/-- An entry gives up its strong handle. -/
theorem Backs.unpin (backs : memory.Backs ((keyId, entry) ::ₘ entries) held) {table : Nat}
    (strong : entry.strong = some table) :
    (memory.release table).Backs ((keyId, { entry with strong := none }) ::ₘ entries) held where
  holding := by
    have holding := backs.holding
    rw [strongHandles_cons_some strong, Multiset.cons_add, Multiset.add_cons] at holding
    rw [strongHandles_cons_none rfl]
    exact holding.release
  owned := by
    have owned := backs.owned
    rw [weakHandles_cons, recentHandles_cons] at owned ⊢
    exact owned.of_cells rfl
  linked := by
    intro other second member
    rcases Multiset.mem_cons.1 member with same | member
    · obtain ⟨rfl, rfl⟩ := Prod.mk.inj same
      have linked := backs.linked _ entry (Multiset.mem_cons_self _ _)
      exact ⟨linked.keyId, fun table held => by simp at held, linked.recent⟩
    · refine backs.linked_others ?_ member
      intro _ _
      rfl
  apart := by
    have apart := backs.apart
    rwa [weakHandles_cons] at apart ⊢
  single := backs.single

/-- A cell has an owner besides the recent handle of its entry, so it outlives that handle. -/
theorem Backs.find?_closeRecent (backs : memory.Backs entries held)
    (member : (keyId, entry) ∈ entries) (recent : entry.recent = some entry.cell) :
    ∃ cell, memory.cells.find? entry.cell = some cell ∧
      (memory.closeRecent entry.cell).cells.find? entry.cell = some { cell with
        owners := cell.owners - 1
        recentHolds := cell.recentHolds - 1 } := by
  have owners := backs.owners_eq member
  obtain ⟨cell, found⟩ := backs.find?_cell member
  have many : ¬cell.owners ≤ 1 := by
    simp only [Memory.owners, found, recent, Option.map_some, Option.getD_some,
      Option.isSome_some, if_true] at owners
    omega
  refine ⟨cell, found, ?_⟩
  rw [Memory.find?_closeRecent, if_pos rfl, found, Option.bind_some, if_neg many]

/-- An entry gives up its recent handle. -/
theorem Backs.closeRecent (backs : memory.Backs ((keyId, entry) ::ₘ entries) held)
    (recent : entry.recent = some entry.cell) :
    (memory.closeRecent entry.cell).Backs ((keyId, { entry with recent := none }) ::ₘ entries)
      held where
  holding := by
    have holding := backs.holding.closeRecent entry.cell
    rw [strongHandles_cons] at holding ⊢
    exact holding
  owned := by
    have owned := backs.owned
    rw [weakHandles_cons, recentHandles_cons_some recent] at owned
    rw [weakHandles_cons, recentHandles_cons_none rfl]
    exact owned.closeRecent
  linked := by
    intro other second member
    rcases Multiset.mem_cons.1 member with same | member
    · obtain ⟨rfl, rfl⟩ := Prod.mk.inj same
      have head := Multiset.mem_cons_self (other, entry) entries
      have linked := backs.linked _ entry head
      obtain ⟨cell, found, left⟩ := backs.find?_closeRecent head recent
      refine ⟨?_, fun table held => ?_, fun _ held => by simp at held⟩
      · have known := linked.keyId
        rw [Memory.keyId, found] at known
        rw [Memory.keyId, left]
        exact known
      · have filled := linked.strong table held
        rw [Memory.slot?, found] at filled
        rw [Memory.slot?, left]
        exact filled
    · refine backs.linked_others (fun other different => ?_) member
      rw [Memory.find?_closeRecent, if_neg different]
  apart := by
    have apart := backs.apart
    rwa [weakHandles_cons] at apart ⊢
  single := Multiset.nodup_of_le (slots_closeRecent_le memory entry.cell) backs.single

/-- An entry gets a recent handle. -/
theorem Backs.openRecent (backs : memory.Backs ((keyId, entry) ::ₘ entries) held)
    (free : entry.recent = none) (tick : Nat) :
    (memory.openRecent entry.cell tick).Backs
      ((keyId, { entry with recent := some entry.cell }) ::ₘ entries) held where
  holding := by
    have holding := backs.holding
    rw [strongHandles_cons] at holding ⊢
    rw [slots_openRecent]
    exact holding
  owned := by
    have owned := backs.owned
    rw [weakHandles_cons, recentHandles_cons_none free] at owned
    rw [weakHandles_cons, recentHandles_cons_some rfl]
    exact owned.openRecent (Multiset.mem_cons_self _ _) tick
  linked := by
    intro other second member
    rcases Multiset.mem_cons.1 member with same | member
    · obtain ⟨rfl, rfl⟩ := Prod.mk.inj same
      have linked := backs.linked _ entry (Multiset.mem_cons_self _ _)
      refine ⟨?_, fun table held => ?_, fun cell held => (Option.some.inj held).symm⟩
      · rw [keyId_openRecent]
        exact linked.keyId
      · rw [slot?_openRecent]
        exact linked.strong table held
    · refine backs.linked_others (fun other different => ?_) member
      rw [Memory.openRecent, Numbered.find?_adjust, if_neg different]
  apart := by
    have apart := backs.apart
    rwa [weakHandles_cons] at apart ⊢
  single := by
    rw [slots_openRecent]
    exact backs.single

/-- A use of a cell changes its tick only. -/
theorem Backs.touchRecent (backs : memory.Backs entries held) (cell tick : Nat) :
    (memory.touchRecent cell tick).Backs entries held where
  holding := by
    rw [slots_touchRecent]
    exact backs.holding
  owned := backs.owned.touchRecent cell tick
  linked := by
    intro other second member
    have linked := backs.linked other second member
    refine ⟨?_, fun table held => ?_, linked.recent⟩
    · rw [keyId_touchRecent]
      exact linked.keyId
    · rw [slot?_touchRecent]
      exact linked.strong table held
  apart := backs.apart
  single := by
    rw [slots_touchRecent]
    exact backs.single

/-- The weak handle of an entry without others goes, and the entry with it. -/
theorem Backs.disown (backs : memory.Backs ((keyId, entry) ::ₘ entries) held)
    (free : entry.strong = none ∧ entry.recent = none) :
    (memory.disown entry.cell).Backs entries held where
  holding := by
    have holding := backs.holding.disown entry.cell
    rwa [strongHandles_cons_none free.1] at holding
  owned := by
    have owned := backs.owned
    rw [weakHandles_cons, recentHandles_cons_none free.2] at owned
    exact owned.disown
  linked := by
    intro other second member
    refine backs.linked_others (fun other different => ?_) member
    rw [find?_disown, if_neg different]
  apart := by
    have apart := backs.apart
    rw [weakHandles_cons, Multiset.nodup_cons] at apart
    exact apart.2
  single := Multiset.nodup_of_le (slots_disown_le memory entry.cell) backs.single

/-- An entry gives up all its handles. -/
theorem Backs.discard (backs : memory.Backs ((keyId, entry) ::ₘ entries) held) :
    (entry.discard memory).Backs entries held := by
  have linked := backs.linked keyId entry (Multiset.mem_cons_self _ _)
  obtain ⟨strong, recent, cell⟩ := entry
  cases strong with
  | none =>
      cases recent with
      | none => exact backs.disown ⟨rfl, rfl⟩
      | some other =>
          obtain rfl : other = cell := linked.recent other rfl
          exact (backs.closeRecent rfl).disown ⟨rfl, rfl⟩
  | some table =>
      cases recent with
      | none => exact (backs.unpin rfl).disown ⟨rfl, rfl⟩
      | some other =>
          obtain rfl : other = cell := linked.recent other rfl
          exact ((backs.unpin rfl).closeRecent rfl).disown ⟨rfl, rfl⟩

/-- Only the cell of an entry that is discarded changes. -/
theorem find?_discard {entry : Entry}
    (recent : ∀ cell, entry.recent = some cell → cell = entry.cell)
    (memory : Memory Row) {other : Nat} (different : other ≠ entry.cell) :
    (entry.discard memory).cells.find? other = memory.cells.find? other := by
  obtain ⟨strong, held, cell⟩ := entry
  simp only [Entry.discard]
  rw [find?_disown, if_neg different]
  cases held with
  | none => cases strong <;> rfl
  | some own =>
      obtain rfl : own = cell := recent own rfl
      simp only
      rw [find?_closeRecent, if_neg different]
      cases strong <;> rfl

theorem later_discard (entry : Entry) (memory : Memory Row) :
    memory.Later (entry.discard memory) := by
  obtain ⟨strong, recent, cell⟩ := entry
  refine Later.trans ?_ (later_disown _ cell)
  cases recent with
  | none =>
      cases strong with
      | none => exact .refl memory
      | some table => exact later_release memory table
  | some other =>
      refine Later.trans ?_ (later_closeRecent _ other)
      cases strong with
      | none => exact .refl memory
      | some table => exact later_release memory table

/-! ## A new table with a new entry -/

/-- A new table in a new cell, held strongly, recently and by the caller. -/
def lodge (memory : Memory Row) (keyId : Nat) (rows : List Row) (birth use : Nat) : Memory Row :=
  let table := memory.tables.next
  let cell := memory.cells.next
  ((((((memory.newTable rows).2.share table).newCell keyId table birth).2.register cell).share
    table).openRecent cell use)

/-- The entry of a new table. -/
def lodged (memory : Memory Row) : Entry :=
  ⟨some memory.tables.next, some memory.cells.next, memory.cells.next⟩

/-- After its rows are in the memory a new table is only shared. -/
theorem later_lodge_newTable (memory : Memory Row) (keyId : Nat) (rows : List Row)
    (birth use : Nat) : (memory.newTable rows).2.Later (memory.lodge keyId rows birth use) := by
  let table := memory.tables.next
  let shared := (memory.newTable rows).2.share table
  let placed := (shared.newCell keyId table birth).2.register memory.cells.next
  have opened : (placed.share table).Later (memory.lodge keyId rows birth use) := .of_tables rfl
  have inCell : shared.Later placed := .of_tables rfl
  refine (later_share _ table).trans ?_
  exact inCell.trans ((later_share placed table).trans opened)

/-- The cells of a memory after a new table was lodged. -/
theorem find?_lodge (memory : Memory Row) (keyId : Nat) (rows : List Row) (birth use other : Nat) :
    (memory.lodge keyId rows birth use).cells.find? other =
      if other = memory.cells.next then some ⟨keyId, some memory.tables.next, 1, use, 2⟩
      else memory.cells.find? other := by
  rw [lodge, openRecent, Numbered.find?_adjust]
  simp only [cells_share, register, newCell, newTable, Numbered.find?_add]
  split <;> rfl

theorem slots_lodge (memory : Memory Row) (keyId : Nat) (rows : List Row) (birth use : Nat) :
    slots (memory.lodge keyId rows birth use).cells =
      memory.tables.next ::ₘ slots memory.cells := by
  rw [lodge, slots_openRecent]
  exact slots_add _ _ rfl

/-- A new table has three holders: its cell, its entry and the caller. -/
theorem Holding.lodge {claims : Multiset Nat} (holding : memory.Holding claims) (keyId : Nat)
    (rows : List Row) (birth use : Nat) :
    (memory.lodge keyId rows birth use).Holding
      (memory.tables.next ::ₘ memory.tables.next ::ₘ memory.tables.next ::ₘ claims) := by
  have inCell := (holding.newTable rows).share (Multiset.mem_cons_self _ _)
  exact inCell.share (Multiset.mem_cons_self _ _)

theorem Owned.lodge {weak recent : Multiset Nat} (owned : memory.Owned weak recent) (keyId : Nat)
    (rows : List Row) (birth use : Nat) :
    (memory.lodge keyId rows birth use).Owned (memory.cells.next ::ₘ weak)
      (memory.cells.next ::ₘ recent) := by
  let table := memory.tables.next
  let shared := (memory.newTable rows).2.share table
  let placed := (shared.newCell keyId table birth).2.register memory.cells.next
  have before : shared.Owned weak recent := owned.of_cells rfl
  have after : (placed.share table).Owned (memory.cells.next ::ₘ weak) recent :=
    (before.newCell keyId table birth).of_cells rfl
  exact after.openRecent (Multiset.mem_cons_self _ _) use

theorem Backs.next_notMem_slots (backs : memory.Backs entries held) :
    memory.tables.next ∉ slots memory.cells := by
  intro present
  have claimed : memory.tables.next ∈ slots memory.cells + (strongHandles entries + held) :=
    Multiset.mem_add.2 (.inl present)
  exact Nat.lt_irrefl _ (backs.holding.lt_next_of_mem claimed)

theorem Backs.next_notMem_weakHandles (backs : memory.Backs entries held) :
    memory.cells.next ∉ weakHandles entries := by
  intro present
  obtain ⟨found, known⟩ := backs.owned.present (.inl present)
  exact Nat.lt_irrefl _ (Numbered.lt_next_of_find? known)

theorem Backs.lodge (backs : memory.Backs entries held) (keyId : Nat) (rows : List Row)
    (birth use : Nat) :
    (memory.lodge keyId rows birth use).Backs ((keyId, memory.lodged) ::ₘ entries)
      (memory.tables.next ::ₘ held) where
  holding := by
    have claimed := backs.holding.lodge keyId rows birth use
    rw [slots_lodge, strongHandles_cons_some rfl]
    simpa only [Multiset.cons_add, Multiset.add_cons] using claimed
  owned := by
    rw [weakHandles_cons, recentHandles_cons_some rfl]
    exact backs.owned.lodge keyId rows birth use
  linked := by
    intro other second member
    rcases Multiset.mem_cons.1 member with same | member
    · obtain ⟨rfl, rfl⟩ := Prod.mk.inj same
      refine ⟨?_, fun found held => ?_, fun found held => (Option.some.inj held).symm⟩
      · simp [Memory.keyId, lodged, find?_lodge]
      · simpa [slot?, lodged, find?_lodge] using held
    · refine (backs.linked other second member).of_find? ?_
      have elsewhere : second.cell ≠ memory.cells.next := by
        intro same
        have handled := Multiset.mem_map_of_mem (fun pair : Nat × Entry => pair.2.cell) member
        exact backs.next_notMem_weakHandles (same.subst handled)
      rw [find?_lodge, if_neg elsewhere]
  apart := by
    rw [weakHandles_cons, Multiset.nodup_cons]
    exact ⟨backs.next_notMem_weakHandles, backs.apart⟩
  single := by
    rw [slots_lodge, Multiset.nodup_cons]
    exact ⟨backs.next_notMem_slots, backs.single⟩

end Memory

end TableCache
