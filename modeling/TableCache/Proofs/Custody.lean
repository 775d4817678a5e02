import TableCache.Assoc
import TableCache.Proofs.Memory.Notices

/-!
# Who has what, and what became of every cell

Cells, recent handles and clones of tables come and go in any order, cells are cleared one at a time
or by passes, and somebody takes clearances off the queue. `Custody` keeps what a memory does not:
who has which handle and which clone, what tables and cells were made with, and which cells were
cleared. None of that is read by the memory. It says what the counts of the memory count, and that
no cell is cleared twice.

Main definitions:

1. `Custody`, `Deed`: a memory with its surroundings, and what can be done in it;
2. `cleared`: the cells that a deed clears, in order, each with its clearance;
3. `step`: a deed done;
4. `Kept`: the books are right.

Main statements:

1. `Kept.newTable`, `Kept.newCell`: what is made goes into the books;
2. `Kept.vacate`, `Kept.clearEach`: clearing keeps the books, and tells of each cell what is true of
   it;
3. `Kept.step`: every deed keeps them;
4. `cleared_once_and_told`: what follows for every run.
-/

namespace TableCache

universe u

/-- What a cell was made for: a key, and a table with some number of rows. -/
structure Origin where
  keyId : Nat
  rows : Nat
  deriving DecidableEq, Repr

/-- A memory, the owners of cells that are no recent handles, the recent handles, the clones of
tables outside of cells, how many rows each table was made with, what each cell was made for, the
clearances that wait while somebody can receive them, those that were received, and the cells that
were cleared. -/
structure Custody (Row : Type u) where
  memory : Memory Row
  weak : Multiset Nat
  recent : Multiset Nat
  held : Multiset Nat
  sizes : Assoc Nat Nat
  origins : Numbered Origin
  waiting : Option (List Clearance)
  drained : List Clearance
  log : List (Nat × Clearance)

/-- What can be done with cells, handles, clones and the queue. -/
inductive Deed (Row : Type u) where
  /-- A table is made, and its maker has the first clone of it. -/
  | newTable (rows : List Row)
  | cloneTable (table : Nat)
  | dropTable (table : Nat)
  /-- A clone of a table goes into a new cell. -/
  | newCell (keyId table tick : Nat)
  | register (cell : Nat)
  | cloneCell (cell : Nat)
  | dropCell (cell : Nat)
  | openRecent (cell tick : Nat)
  | touchRecent (cell tick : Nat)
  | dropRecent (cell : Nat)
  /-- A clone of the table in a cell, for who asks. -/
  | read (cell : Nat)
  | tryClear (cell : Nat)
  | reclaim (pressure : Pressure)
  /-- So many of the waiting clearances are received, if there are so many. -/
  | drain (count : Nat)
  /-- Nobody receives clearances from now on. -/
  | close

namespace Custody

variable {Row : Type u} {custody : Custody Row} {cell : Nat}

/-- Nothing is there yet. -/
def empty : Custody Row := ⟨.empty, 0, 0, 0, .empty, .empty, some [], [], []⟩

/-- The cells that a deed clears, in order, each with its clearance. -/
def cleared (custody : Custody Row) : Deed Row → List (Nat × Clearance)
  | .tryClear cell =>
      (custody.memory.tryClear cell).toList.map fun result => (cell, result.1)
  | .reclaim pressure => custody.memory.passNotices pressure
  | _ => []

/-- What a deed does. Who does not have a handle or a clone can do nothing with it. -/
def act (custody : Custody Row) : Deed Row → Custody Row
  | .newTable rows =>
      let (table, memory) := custody.memory.newTable rows
      { custody with
        memory := memory
        held := table ::ₘ custody.held
        sizes := custody.sizes.insert table rows.length }
  | .cloneTable table =>
      if table ∈ custody.held then
        { custody with memory := custody.memory.share table, held := table ::ₘ custody.held }
      else custody
  | .dropTable table =>
      if table ∈ custody.held then
        { custody with memory := custody.memory.release table, held := custody.held.erase table }
      else custody
  | .newCell keyId table tick =>
      if table ∈ custody.held then
        let (cell, memory) := custody.memory.newCell keyId table tick
        { custody with
          memory := memory
          weak := cell ::ₘ custody.weak
          held := custody.held.erase table
          origins := custody.origins.add ⟨keyId, (custody.sizes.find? table).getD 0⟩ }
      else custody
  | .register cell =>
      if cell ∈ custody.weak then { custody with memory := custody.memory.register cell }
      else custody
  | .cloneCell cell =>
      if cell ∈ custody.weak then
        { custody with memory := custody.memory.own cell, weak := cell ::ₘ custody.weak }
      else custody
  | .dropCell cell =>
      if cell ∈ custody.weak then
        { custody with memory := custody.memory.disown cell, weak := custody.weak.erase cell }
      else custody
  | .openRecent cell tick =>
      if cell ∈ custody.weak then
        { custody with
          memory := custody.memory.openRecent cell tick
          recent := cell ::ₘ custody.recent }
      else custody
  | .touchRecent cell tick =>
      if cell ∈ custody.recent then
        { custody with memory := custody.memory.touchRecent cell tick }
      else custody
  | .dropRecent cell =>
      if cell ∈ custody.recent then
        { custody with
          memory := custody.memory.closeRecent cell
          recent := custody.recent.erase cell }
      else custody
  | .read cell =>
      match custody.memory.read cell with
      | (none, _) => custody
      | (some table, memory) =>
          { custody with memory := memory, held := table ::ₘ custody.held }
  | .tryClear cell =>
      match custody.memory.tryClear cell with
      | none => custody
      | some (clearance, memory) =>
          { custody with memory := memory, waiting := custody.waiting.map (· ++ [clearance]) }
  | .reclaim pressure =>
      let pass := custody.memory.reclaim pressure
      { custody with
        memory := pass.memory
        waiting := custody.waiting.map (· ++ pass.clearances) }
  | .drain count =>
      match custody.waiting with
      | none => custody
      | some waiting =>
          { custody with
            waiting := some (waiting.drop count)
            drained := custody.drained ++ waiting.take count }
  | .close => { custody with waiting := none }

/-- One deed, with the cells that it clears on record. -/
def step (custody : Custody Row) (deed : Deed Row) : Custody Row :=
  { custody.act deed with log := custody.log ++ custody.cleared deed }

/-- Deeds one after the other. -/
def run (custody : Custody Row) (deeds : List (Deed Row)) : Custody Row := deeds.foldl step custody

/-- A clearance says of its cell what the cell was made for, and whether somebody has a recent
handle on it. -/
def Tells (custody : Custody Row) (notice : Nat × Clearance) : Prop :=
  ∃ origin, custody.origins.find? notice.1 = some origin ∧
    notice.2 = ⟨origin.keyId, origin.rows, notice.1 ∈ custody.recent⟩

/-- A cell has a table, and neither a clone outside of cells nor another cell has the same. -/
def IsSoleHolder (custody : Custody Row) (cell : Nat) : Prop :=
  ∃ table, custody.memory.slot? cell = some table ∧ table ∉ custody.held ∧
    ∀ other, custody.memory.slot? other = some table → other = cell

/-- Handles and clones are those that the memory counts, every table that somebody has is as long as
it was made, every table in a cell is the one that the cell was made for, no cell on record has a
table or is there twice, and the queue has had one clearance for each. -/
structure Kept (custody : Custody Row) : Prop where
  holding : custody.memory.Holding (Memory.slots custody.memory.cells + custody.held)
  owned : custody.memory.Owned custody.weak custody.recent
  sized : ∀ table ∈ Memory.slots custody.memory.cells + custody.held,
    custody.sizes.find? table = some (custody.memory.rows table).length
  next : custody.origins.next = custody.memory.cells.next
  original : ∀ cell table, custody.memory.slot? cell = some table →
    custody.origins.find? cell =
      some ⟨custody.memory.keyId cell, (custody.memory.rows table).length⟩
  spent : ∀ cell ∈ custody.log.map Prod.fst,
    custody.memory.slot? cell = none ∧ cell < custody.memory.cells.next
  once : (custody.log.map Prod.fst).Nodup
  posted : ∀ waiting, custody.waiting = some waiting →
    custody.drained ++ waiting = custody.log.map Prod.snd

theorem kept_empty : (empty : Custody Row).Kept where
  holding := Memory.backs_empty.holding
  owned := Memory.backs_empty.owned
  sized := fun table member => absurd member (Multiset.notMem_zero table)
  next := rfl
  original := fun cell table filled => by simp [empty, Memory.empty, Memory.slot?] at filled
  spent := fun cell member => absurd member List.not_mem_nil
  once := List.nodup_nil
  posted := fun waiting there => by
    cases there
    rfl

/-! ## Deeds that clear nothing -/

theorem held_subset (custody : Custody Row) :
    custody.held ⊆ Memory.slots custody.memory.cells + custody.held :=
  Multiset.subset_of_le (Multiset.le_add_left _ _)

/-- A table that somebody had and has is as long as it was. -/
theorem Kept.rows_eq (kept : custody.Kept) {after : Memory Row} {claims : Multiset Nat}
    (later : custody.memory.Later after) (holding : after.Holding claims) {table : Nat}
    (had : table ∈ Memory.slots custody.memory.cells + custody.held) (has : table ∈ claims) :
    after.rows table = custody.memory.rows table :=
  later.rows_eq (kept.holding.lt_next_of_mem had) (holding.pos_of_mem has)

/-- As long as neither a table nor a cell is made, only the handles and the clones have to be looked
after. -/
theorem Kept.of_subsides (kept : custody.Kept) {after : Memory Row}
    {weak recent held : Multiset Nat} (subsides : custody.memory.Subsides after)
    (claimed : held ⊆ Memory.slots custody.memory.cells + custody.held)
    (holding : after.Holding (Memory.slots after.cells + held))
    (owned : after.Owned weak recent) :
    ({ custody with memory := after, weak := weak, recent := recent, held := held } :
      Custody Row).Kept where
  holding := holding
  owned := owned
  sized := fun table has => by
    have had : table ∈ Memory.slots custody.memory.cells + custody.held := by
      rcases Multiset.mem_add.1 has with stored | clone
      · obtain ⟨cell, found, known, filled⟩ := Memory.mem_slots.1 stored
        have before := (subsides.slots cell table
          (Option.bind_eq_some_iff.2 ⟨found, known, filled⟩)).1
        exact Multiset.mem_add.2 (.inl (Memory.mem_slots_of_slot? before))
      · exact claimed clone
    show custody.sizes.find? table = some (after.rows table).length
    rw [kept.rows_eq subsides.later holding had has]
    exact kept.sized table had
  next := kept.next.trans subsides.next.symm
  original := fun cell table filled => by
    obtain ⟨before, sameKey⟩ := subsides.slots cell table filled
    have same := kept.rows_eq subsides.later holding
      (Multiset.mem_add.2 (.inl (Memory.mem_slots_of_slot? before)))
      (Multiset.mem_add.2 (.inl (Memory.mem_slots_of_slot? filled)))
    show custody.origins.find? cell = some ⟨after.keyId cell, (after.rows table).length⟩
    rw [sameKey, same]
    exact kept.original cell table before
  spent := fun cell member => by
    obtain ⟨gone, old⟩ := kept.spent cell member
    refine ⟨Option.eq_none_iff_forall_ne_some.2 fun table filled => ?_, subsides.next ▸ old⟩
    rw [(subsides.slots cell table filled).1] at gone
    cases gone
  once := kept.once
  posted := kept.posted

/-- A cell is changed, but neither its table nor its key. -/
theorem Kept.adjust (kept : custody.Kept) (cell : Nat) (change : Cell → Cell)
    (sameSlot : ∀ cell, (change cell).slot = cell.slot)
    (sameKey : ∀ cell, (change cell).keyId = cell.keyId) {weak recent : Multiset Nat}
    (owned : ({ custody.memory with cells := custody.memory.cells.adjust cell change } :
      Memory Row).Owned weak recent) :
    ({ custody with
        memory := { custody.memory with cells := custody.memory.cells.adjust cell change }
        weak := weak
        recent := recent } : Custody Row).Kept := by
  refine kept.of_subsides (Memory.subsides_adjust _ cell change sameSlot sameKey)
    custody.held_subset ?_ owned
  rw [Memory.slots_adjust _ _ _ sameSlot]
  exact kept.holding

/-! ## Tables and cells that are made -/

/-- A table is made, and how many rows it has goes into the books. -/
theorem Kept.newTable (kept : custody.Kept) (rows : List Row) :
    (custody.act (.newTable rows)).Kept := by
  have claims := Multiset.add_cons custody.memory.tables.next (Memory.slots custody.memory.cells)
    custody.held
  have holding : (custody.memory.newTable rows).2.Holding
      (Memory.slots custody.memory.cells + custody.memory.tables.next ::ₘ custody.held) := by
    rw [claims]
    exact kept.holding.newTable rows
  have same : ∀ table ∈ Memory.slots custody.memory.cells + custody.held,
      (custody.memory.newTable rows).2.rows table = custody.memory.rows table := by
    intro table had
    refine kept.rows_eq (Memory.later_newTable _ rows) holding had ?_
    rw [claims]
    exact Multiset.mem_cons_of_mem had
  have sized : ∀ table ∈ Memory.slots custody.memory.cells +
      custody.memory.tables.next ::ₘ custody.held,
      (custody.sizes.insert custody.memory.tables.next rows.length).find? table =
        some ((custody.memory.newTable rows).2.rows table).length := by
    intro table has
    rw [claims] at has
    rw [Assoc.find?_insert]
    rcases Multiset.mem_cons.1 has with rfl | had
    · simp [Memory.newTable, Memory.rows, Numbered.find?_add]
    · rw [if_neg (Nat.ne_of_lt (kept.holding.lt_next_of_mem had)), same table had]
      exact kept.sized table had
  rw [act]
  refine ⟨holding, kept.owned.of_cells rfl, sized, kept.next, fun cell table filled => ?_,
    kept.spent, kept.once, kept.posted⟩
  have filled : custody.memory.slot? cell = some table := filled
  show custody.origins.find? cell =
    some ⟨custody.memory.keyId cell, ((custody.memory.newTable rows).2.rows table).length⟩
  rw [same table (Multiset.mem_add.2 (.inl (Memory.mem_slots_of_slot? filled)))]
  exact kept.original cell table filled

/-- A clone of a table goes into a new cell. -/
theorem Kept.newCell (kept : custody.Kept) {table : Nat} (clone : table ∈ custody.held)
    (keyId tick : Nat) : (custody.act (.newCell keyId table tick)).Kept := by
  have slots (other : Nat) : (custody.memory.newCell keyId table tick).2.slot? other =
      if other = custody.memory.cells.next then some table else custody.memory.slot? other := by
    rw [Memory.newCell, Memory.slot?, Numbered.find?_add]
    split
    next => rfl
    next => rfl
  have keys (other : Nat) : (custody.memory.newCell keyId table tick).2.keyId other =
      if other = custody.memory.cells.next then keyId else custody.memory.keyId other := by
    rw [Memory.newCell, Memory.keyId, Numbered.find?_add]
    split
    next => rfl
    next => rfl
  have moved : Memory.slots (custody.memory.newCell keyId table tick).2.cells +
      custody.held.erase table = Memory.slots custody.memory.cells + custody.held := by
    conv_rhs => rw [← Multiset.cons_erase clone, Multiset.add_cons, ← Multiset.cons_add]
    exact congrArg (· + _) (Memory.slots_add custody.memory.cells
      ⟨keyId, some table, 0, tick, 1⟩ rfl)
  rw [act, if_pos clone]
  refine ⟨?_, kept.owned.newCell keyId table tick, ?_, ?_, fun cell second filled => ?_,
    fun cell member => ?_, kept.once, kept.posted⟩
  · simp only [moved]
    exact kept.holding
  · simp only [moved]
    exact kept.sized
  · simp only [Memory.newCell, Numbered.next_add, kept.next]
  · simp only [slots] at filled
    simp only [keys, Numbered.find?_add, kept.next]
    split at filled
    next new =>
      cases filled
      rw [if_pos new, if_pos new, kept.sized table (custody.held_subset clone)]
      rfl
    next old =>
      rw [if_neg old, if_neg old]
      exact kept.original cell second filled
  · obtain ⟨gone, old⟩ := kept.spent cell member
    refine ⟨?_, ?_⟩
    · simp only [slots, if_neg (Nat.ne_of_lt old), gone]
    · simp only [Memory.newCell, Numbered.next_add]
      exact Nat.lt_succ_of_lt old

/-! ## Clearing -/

/-- Cells go on record with their clearances, and the clearances on the queue. -/
def note (custody : Custody Row) (memory : Memory Row) (notices : List (Nat × Clearance)) :
    Custody Row :=
  { custody with
    memory := memory
    waiting := custody.waiting.map (· ++ notices.map Prod.snd)
    log := custody.log ++ notices }

theorem note_nil (custody : Custody Row) (memory : Memory Row) :
    custody.note memory [] = { custody with memory := memory } := by
  simp [note]

theorem note_note (custody : Custody Row) (first second : Memory Row)
    (notices others : List (Nat × Clearance)) :
    (custody.note first notices).note second others = custody.note second (notices ++ others) := by
  simp [note, Function.comp_def]

/-- A cell gives up its table: for the first time, since those on record have none. -/
theorem Kept.vacate (kept : custody.Kept) {table : Nat}
    (filled : custody.memory.slot? cell = some table) :
    (custody.note (custody.memory.vacate cell table)
      [(cell, custody.memory.notice cell table)]).Kept := by
  have holding := kept.holding
  rw [Memory.slots_vacate filled, Multiset.cons_add] at holding
  have owned := kept.owned.adjust cell (fun cell => { cell with slot := none }) (fun _ => rfl)
    fun _ => rfl
  have emptied := kept.of_subsides (Memory.subsides_vacate custody.memory cell table)
    custody.held_subset holding.release (owned.of_cells rfl)
  have fresh : cell ∉ custody.log.map Prod.fst := by
    intro member
    rw [(kept.spent cell member).1] at filled
    cases filled
  refine ⟨emptied.holding, emptied.owned, emptied.sized, emptied.next, emptied.original,
    fun other member => ?_, ?_, fun waiting there => ?_⟩
  · rw [note, List.map_append, List.mem_append] at member
    rcases member with before | now
    · exact emptied.spent other before
    · obtain rfl := List.mem_singleton.1 now
      refine ⟨?_, ?_⟩
      · simp only [note, Memory.slot?_vacate, if_true]
      · obtain ⟨found, known, -⟩ := Option.bind_eq_some_iff.1 filled
        have old := Numbered.lt_next_of_find? known
        rw [← kept.next] at old
        exact emptied.next ▸ old
  · rw [note, List.map_append]
    refine List.nodup_append.2
      ⟨kept.once, List.nodup_singleton _, fun other before second now => ?_⟩
    obtain rfl := List.mem_singleton.1 now
    rintro rfl
    exact fresh before
  · obtain ⟨waited, earlier, rfl⟩ := Option.map_eq_some_iff.1 there
    rw [note, List.map_append, ← List.append_assoc, kept.posted waited earlier]

/-- The clearance of a cell that gives up its table is true of the cell. -/
theorem Kept.tells (kept : custody.Kept) {table : Nat}
    (filled : custody.memory.slot? cell = some table) :
    custody.Tells (cell, custody.memory.notice cell table) := by
  refine ⟨_, kept.original cell table filled, ?_⟩
  have handled : custody.memory.isRecentlyHeld cell = decide (cell ∈ custody.recent) := by
    rw [Memory.isRecentlyHeld, kept.owned.recentHolds, Bool.eq_iff_iff, decide_eq_true_iff,
      decide_eq_true_iff]
    exact Multiset.count_pos
  rw [Memory.notice, handled]

/-- Cells are cleared one after the other. -/
theorem Kept.clearEach (kept : custody.Kept) (cells : List Nat) (budget : Option Nat) :
    (custody.note (Memory.clearEach cells budget custody.memory).1
        (Memory.cellNotices cells budget custody.memory)).Kept ∧
      ∀ notice ∈ Memory.cellNotices cells budget custody.memory, custody.Tells notice := by
  induction cells generalizing custody budget with
  | nil =>
      refine ⟨?_, fun _ member => absurd member List.not_mem_nil⟩
      rw [Memory.cellNotices, note_nil]
      exact kept
  | cons cell rest ih =>
      rw [Memory.clearEach, Memory.cellNotices]
      split
      next =>
        rw [note_nil]
        exact ⟨kept, fun _ member => absurd member List.not_mem_nil⟩
      next =>
        cases tried : custody.memory.tryClear cell with
        | none => exact ih kept budget
        | some result =>
            obtain ⟨clearance, after⟩ := result
            obtain ⟨table, filled, -, rfl, rfl⟩ := Memory.tryClear_eq_some_iff.1 tried
            obtain ⟨further, told⟩ := ih (kept.vacate filled) (budget.map (· - 1))
            rw [note_note] at further
            exact ⟨further, List.forall_mem_cons.2 ⟨kept.tells filled, told⟩⟩

/-- A pass clears cells without a recent handle, and then cells with one. -/
theorem Kept.reclaim (kept : custody.Kept) (pressure : Pressure) :
    (custody.note (custody.memory.reclaim pressure).memory
        (custody.memory.passNotices pressure)).Kept ∧
      ∀ notice ∈ custody.memory.passNotices pressure, custody.Tells notice := by
  have listed : ({ custody with memory := custody.memory.live.2 } : Custody Row).Kept :=
    kept.of_subsides (.of_cells (.of_tables rfl) rfl) custody.held_subset kept.holding
      (kept.owned.of_cells rfl)
  obtain ⟨first, told⟩ := listed.clearEach custody.memory.weakCandidates pressure.budget
  unfold Memory.reclaim Memory.passNotices
  by_cases spared : pressure = .weakOnly
  · simp only [if_pos spared, List.append_nil]
    exact ⟨first, told⟩
  · simp only [if_neg spared]
    obtain ⟨second, others⟩ := first.clearEach custody.memory.recentCandidates
      (Memory.clearEach custody.memory.weakCandidates pressure.budget custody.memory.live.2).2.1
    rw [note_note] at second
    exact ⟨second, List.forall_mem_append.2 ⟨told, others⟩⟩

/-! ## Runs -/

/-- What is known of every cell that a deed clears. -/
theorem Kept.told (kept : custody.Kept) (deed : Deed Row) :
    ∀ notice ∈ custody.cleared deed, custody.Tells notice := by
  cases deed with
  | tryClear cell =>
      intro notice member
      obtain ⟨result, tried, rfl⟩ := List.mem_map.1 member
      obtain ⟨clearance, after⟩ := result
      obtain ⟨table, filled, -, rfl, -⟩ :=
        Memory.tryClear_eq_some_iff.1 (Option.mem_toList.1 tried)
      exact kept.tells filled
  | reclaim pressure => exact (kept.reclaim pressure).2
  | _ => exact fun notice member => absurd member List.not_mem_nil

/-- The record is kept by steps alone. -/
theorem log_act (custody : Custody Row) (deed : Deed Row) :
    (custody.act deed).log = custody.log := by
  cases deed with
  | newTable | reclaim | close => rfl
  | _ => simp only [act]; split <;> rfl

theorem step_of_quiet {deed : Deed Row} (quiet : custody.cleared deed = []) :
    custody.step deed = custody.act deed := by
  rw [step, quiet, List.append_nil, ← log_act custody deed]

theorem Kept.step (kept : custody.Kept) (deed : Deed Row) : (custody.step deed).Kept := by
  have holding := kept.holding
  have owned := kept.owned
  cases deed with
  | newTable rows =>
      rw [step_of_quiet rfl]
      exact kept.newTable rows
  | cloneTable table =>
      rw [step_of_quiet rfl, act]
      split
      next clone =>
        have claimed := custody.held_subset clone
        refine kept.of_subsides (.of_cells (Memory.later_share _ table) rfl)
          (Multiset.cons_subset.2 ⟨claimed, custody.held_subset⟩) ?_ (owned.of_cells rfl)
        rw [Multiset.add_cons]
        exact holding.share claimed
      next => exact kept
  | dropTable table =>
      rw [step_of_quiet rfl, act]
      split
      next clone =>
        rw [← Multiset.cons_erase clone, Multiset.add_cons] at holding
        have fewer := Multiset.Subset.trans (Multiset.erase_subset table _) custody.held_subset
        exact kept.of_subsides (.of_cells (Memory.later_release _ table) rfl) fewer
          holding.release (owned.of_cells rfl)
      next => exact kept
  | newCell keyId table tick =>
      rw [step_of_quiet rfl]
      by_cases clone : table ∈ custody.held
      · exact kept.newCell clone keyId tick
      · rw [act, if_neg clone]
        exact kept
  | register cell =>
      rw [step_of_quiet rfl, act]
      split
      next =>
        exact kept.of_subsides (.of_cells (.of_tables rfl) rfl) custody.held_subset holding
          (owned.of_cells rfl)
      next => exact kept
  | cloneCell cell =>
      rw [step_of_quiet rfl, act]
      split
      next handled =>
        exact kept.adjust cell (fun cell => { cell with owners := cell.owners + 1 })
          (fun _ => rfl) (fun _ => rfl) (owned.own handled)
      next => exact kept
  | dropCell cell =>
      rw [step_of_quiet rfl, act]
      split
      next handled =>
        rw [← Multiset.cons_erase handled] at owned
        exact kept.of_subsides (Memory.subsides_disown _ cell) custody.held_subset
          (holding.disown cell) owned.disown
      next => exact kept
  | openRecent cell tick =>
      rw [step_of_quiet rfl, act]
      split
      next handled =>
        exact kept.adjust cell
          (fun cell => { cell with
            owners := cell.owners + 1
            recentHolds := cell.recentHolds + 1
            lastUsed := tick })
          (fun _ => rfl) (fun _ => rfl) (owned.openRecent handled tick)
      next => exact kept
  | touchRecent cell tick =>
      rw [step_of_quiet rfl, act]
      split
      next =>
        exact kept.adjust cell (fun cell => { cell with lastUsed := tick })
          (fun _ => rfl) (fun _ => rfl) (owned.touchRecent cell tick)
      next => exact kept
  | dropRecent cell =>
      rw [step_of_quiet rfl, act]
      split
      next handled =>
        rw [← Multiset.cons_erase handled] at owned
        exact kept.of_subsides (Memory.subsides_closeRecent _ cell) custody.held_subset
          (holding.closeRecent cell) owned.closeRecent
      next => exact kept
  | read cell =>
      rw [step_of_quiet rfl, act, Memory.read]
      cases filled : custody.memory.slot? cell with
      | none => exact kept
      | some table =>
          have claimed : table ∈ Memory.slots custody.memory.cells + custody.held :=
            Multiset.mem_add.2 (.inl (Memory.mem_slots_of_slot? filled))
          refine kept.of_subsides (.of_cells (Memory.later_share _ table) rfl)
            (Multiset.cons_subset.2 ⟨claimed, custody.held_subset⟩) ?_ (owned.of_cells rfl)
          rw [Multiset.add_cons]
          exact holding.share claimed
  | tryClear cell =>
      rw [Custody.step, act, cleared]
      cases tried : custody.memory.tryClear cell with
      | none =>
          simp only [Option.toList_none, List.map_nil, List.append_nil]
          exact kept
      | some result =>
          obtain ⟨clearance, after⟩ := result
          obtain ⟨table, filled, -, rfl, rfl⟩ := Memory.tryClear_eq_some_iff.1 tried
          exact kept.vacate filled
  | reclaim pressure =>
      rw [Custody.step, act, cleared, Memory.clearances_pass]
      exact (kept.reclaim pressure).1
  | drain count =>
      rw [step_of_quiet rfl, act]
      cases there : custody.waiting with
      | none => exact kept
      | some waiting =>
          refine ⟨holding, owned, kept.sized, kept.next, kept.original, kept.spent, kept.once,
            fun left same => ?_⟩
          cases same
          rw [List.append_assoc, List.take_append_drop]
          exact kept.posted waiting there
  | close =>
      rw [step_of_quiet rfl]
      exact ⟨holding, owned, kept.sized, kept.next, kept.original, kept.spent, kept.once,
        fun waiting there => absurd there.symm (Option.some_ne_none waiting)⟩

theorem Kept.run (kept : custody.Kept) (deeds : List (Deed Row)) : (custody.run deeds).Kept := by
  induction deeds generalizing custody with
  | nil => exact kept
  | cons first rest ih => exact ih (kept.step first)

/-- What is on record stays there. -/
theorem log_run (custody : Custody Row) (deeds : List (Deed Row)) :
    custody.log <+: (custody.run deeds).log := by
  induction deeds generalizing custody with
  | nil => exact List.prefix_rfl
  | cons first rest ih => exact (List.prefix_append _ _).trans (ih (custody.step first))

/-- Whatever is done to some cells: a cell counts as many recent holds as there are recent handles
on it, so giving one up finds a hold to take away. A cell can be cleared just when nobody else has
its table, and then an attempt clears it. A cell that was cleared has no table any more and cannot
be cleared again, whatever is done later, and no cell is on record twice. The clearance of a cell
gives the key that it was made for and how many rows its table was made with, and says whether
somebody has a recent handle on it as it is cleared. As long as clearances can be received, those
that were received and those that wait are the clearances of the cells on record, in order. -/
theorem cleared_once_and_told (deeds : List (Deed Row)) :
    let custody := (empty : Custody Row).run deeds
    (∀ cell, custody.memory.recentHolds cell = custody.recent.count cell) ∧
      (∀ cell ∈ custody.recent, 0 < custody.memory.recentHolds cell) ∧
      (∀ cell, (custody.memory.isReclaimable cell = true ↔ custody.IsSoleHolder cell) ∧
        (custody.memory.isReclaimable cell = true ↔
          (custody.memory.tryClear cell).isSome = true)) ∧
      (∀ cell ∈ custody.log.map Prod.fst, ∀ further,
        ((custody.run further).memory.read cell).1 = none ∧
          (custody.run further).memory.tryClear cell = none) ∧
      (custody.log.map Prod.fst).Nodup ∧
      (∀ deed, ∀ notice ∈ custody.cleared deed, custody.Tells notice) ∧
      ∀ waiting, custody.waiting = some waiting →
        custody.drained ++ waiting = custody.log.map Prod.snd := by
  intro custody
  have kept : custody.Kept := kept_empty.run deeds
  refine ⟨kept.owned.recentHolds, fun cell handled => ?_, fun cell => ⟨?_, ?_⟩,
    fun cell member further => ?_, kept.once, kept.told, kept.posted⟩
  · rw [kept.owned.recentHolds]
    exact Multiset.count_pos.2 handled
  · exact kept.holding.isReclaimable_iff
  · exact Memory.isReclaimable_iff_isSome_tryClear
  · have still := ((log_run custody further).map Prod.fst).subset member
    have gone := ((kept.run further).spent cell still).1
    rw [Memory.read, Memory.tryClear, gone]
    exact ⟨rfl, rfl⟩

/-- A cell with a table of two rows and a recent handle. An attempt to clear it fails as long as a
reader holds the table, which the reader gives back at the end. -/
def returned : List (Deed Unit) :=
  [.newTable [(), ()], .newCell 7 0 1, .openRecent 0 2, .read 0, .tryClear 0, .dropTable 0]

/-- The cell is cleared, its recent handle is given up, and its clearance is received. -/
def received : List (Deed Unit) :=
  returned ++ [.tryClear 0, .dropRecent 0, .tryClear 0, .drain 5]

/-- Once the table is back the cell is the only one to have it, and the clearance tells of two rows
and of the recent handle. It is received once. Whatever is done later, the cell has no table and is
not cleared again. -/
theorem cleared_once_and_told_returned :
    let custody := (empty : Custody Unit).run returned
    let later := (empty : Custody Unit).run received
    custody.log = [] ∧ custody.memory.recentHolds 0 = 1 ∧ custody.IsSoleHolder 0 ∧
      custody.Tells (0, ⟨7, 2, true⟩) ∧
      later.log = [(0, ⟨7, 2, true⟩)] ∧ later.drained = [⟨7, 2, true⟩] ∧
      ∀ further, ((later.run further).memory.read 0).1 = none ∧
        (later.run further).memory.tryClear 0 = none := by
  intro custody later
  obtain ⟨counted, -, clearable, -, -, told, -⟩ := cleared_once_and_told returned
  obtain ⟨-, -, -, spent, -, -, posted⟩ := cleared_once_and_told received
  have log : later.log = [(0, ⟨7, 2, true⟩)] := by decide +kernel
  have member : 0 ∈ later.log.map Prod.fst := by
    rw [log]
    exact List.mem_singleton_self 0
  refine ⟨by decide +kernel, (counted 0).trans (by decide +kernel), ?_, ?_, log, ?_, spent 0 member⟩
  · exact (clearable 0).1.1 (by decide +kernel)
  · exact told (.tryClear 0) _ (by decide +kernel)
  · rw [← List.append_nil later.drained]
    exact (posted [] (by decide +kernel)).trans (congrArg _ log)

end Custody

end TableCache
