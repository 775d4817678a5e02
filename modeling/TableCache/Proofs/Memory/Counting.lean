import TableCache.Memory.Basic
import TableCache.Proofs.Numbered

/-!
# Every holder and every owner is counted

A memory counts, for each of its tables, how many hold it, and for each of its cells, how many own
it. Here the two counts are tied to what is being counted. `Holding` says that the count of a table
is the number of times it occurs among some claims; `Owned` says the same of the weak and recent
handles on cells. Each operation on a memory adds a claim or a handle, or takes one away.

Main statements:

1. `Holding.newTable`, `share`, `release`: claims on tables;
2. `Owned.newCell`, `openRecent`, `closeRecent`, `disown`: handles on cells;
3. `Later.rows_eq`: a table that is still held has the rows it always had.
-/

namespace TableCache.Memory

universe u

variable {Row : Type u}

/-- How many own a cell. -/
def owners (memory : Memory Row) (cell : Nat) : Nat :=
  ((memory.cells.find? cell).map Cell.owners).getD 0

/-- The tables in some cells. -/
def slots (cells : Numbered Cell) : Multiset Nat :=
  cells.pairs.filterMap fun pair => pair.2.slot

/-- The number of holders of every table is the number of claims on it. -/
def Holding (memory : Memory Row) (claims : Multiset Nat) : Prop :=
  ∀ table, memory.holders table = claims.count table

/-- The owners of every cell are its weak and its recent handles, and a cell without owners is
gone. -/
structure Owned (memory : Memory Row) (weak recent : Multiset Nat) : Prop where
  owners : ∀ cell, memory.owners cell = weak.count cell + recent.count cell
  recentHolds : ∀ cell, memory.recentHolds cell = recent.count cell
  kept : ∀ cell, memory.isPresent cell = true → 0 < memory.owners cell

/-! ## Tables in cells -/

theorem slots_add (cells : Numbered Cell) (cell : Cell) {table : Nat}
    (filled : cell.slot = some table) : slots (cells.add cell) = table ::ₘ slots cells := by
  rw [slots, Numbered.pairs_add]
  exact Multiset.filterMap_cons_some _ (cells.next, cell) _ filled

theorem slots_of_find? {cells : Numbered Cell} {number table : Nat} {cell : Cell}
    (found : cells.find? number = some cell) (filled : cell.slot = some table) :
    slots cells = table ::ₘ slots (cells.erase number) := by
  rw [slots, Numbered.pairs_eq_cons_erase found]
  exact Multiset.filterMap_cons_some _ (number, cell) _ filled

theorem slots_of_cleared {cells : Numbered Cell} {number : Nat} {cell : Cell}
    (found : cells.find? number = some cell) (cleared : cell.slot = none) :
    slots cells = slots (cells.erase number) := by
  rw [slots, Numbered.pairs_eq_cons_erase found]
  exact Multiset.filterMap_cons_none (number, cell) _ cleared

theorem slots_adjust (cells : Numbered Cell) (number : Nat) (change : Cell → Cell)
    (same : ∀ cell, (change cell).slot = cell.slot) :
    slots (cells.adjust number change) = slots cells := by
  cases found : cells.find? number with
  | none => rw [slots, Numbered.pairs_adjust_of_absent found, slots]
  | some cell =>
      unfold slots
      rw [Numbered.pairs_adjust found, Numbered.pairs_eq_cons_erase found]
      simp only [Multiset.filterMap_cons, same]

theorem mem_slots {cells : Numbered Cell} {table : Nat} :
    table ∈ slots cells ↔
      ∃ number cell, cells.find? number = some cell ∧ cell.slot = some table := by
  simp [slots]

/-- A use of a cell, with a new recent handle or without, leaves its table and its key. -/
theorem slots_openRecent (memory : Memory Row) (cell tick : Nat) :
    slots (memory.openRecent cell tick).cells = slots memory.cells :=
  slots_adjust memory.cells cell
    (fun cell => { cell with
      owners := cell.owners + 1
      recentHolds := cell.recentHolds + 1
      lastUsed := tick }) fun _ => rfl

theorem slots_touchRecent (memory : Memory Row) (cell tick : Nat) :
    slots (memory.touchRecent cell tick).cells = slots memory.cells :=
  slots_adjust memory.cells cell (fun cell => { cell with lastUsed := tick }) fun _ => rfl

theorem slot?_openRecent (memory : Memory Row) (cell tick other : Nat) :
    (memory.openRecent cell tick).slot? other = memory.slot? other :=
  Numbered.bind_find?_adjust memory.cells cell other
    (fun cell => { cell with
      owners := cell.owners + 1
      recentHolds := cell.recentHolds + 1
      lastUsed := tick }) fun _ => rfl

theorem slot?_touchRecent (memory : Memory Row) (cell tick other : Nat) :
    (memory.touchRecent cell tick).slot? other = memory.slot? other :=
  Numbered.bind_find?_adjust memory.cells cell other
    (fun cell => { cell with lastUsed := tick }) fun _ => rfl

theorem keyId_openRecent (memory : Memory Row) (cell tick other : Nat) :
    (memory.openRecent cell tick).keyId other = memory.keyId other := by
  rw [keyId, keyId, openRecent, Numbered.map_find?_adjust memory.cells cell other
    (fun cell => { cell with
      owners := cell.owners + 1
      recentHolds := cell.recentHolds + 1
      lastUsed := tick }) fun _ => rfl]

theorem keyId_touchRecent (memory : Memory Row) (cell tick other : Nat) :
    (memory.touchRecent cell tick).keyId other = memory.keyId other := by
  rw [keyId, keyId, touchRecent, Numbered.map_find?_adjust memory.cells cell other
    (fun cell => { cell with lastUsed := tick }) fun _ => rfl]

/-! ## Claims on tables -/

theorem holders_share {memory : Memory Row} {table : Nat} (present : 0 < memory.holders table)
    (other : Nat) :
    (memory.share table).holders other =
      memory.holders other + if other = table then 1 else 0 := by
  simp only [holders, share, Numbered.find?_adjust] at present ⊢
  split
  next same =>
    subst same
    cases found : memory.tables.find? other with
    | none => simp [found] at present
    | some => rfl
  next => rfl

theorem holders_release (memory : Memory Row) (table other : Nat) :
    (memory.release table).holders other =
      memory.holders other - if other = table then 1 else 0 := by
  unfold release
  split
  next few =>
    simp only [holders, Numbered.find?_erase] at few ⊢
    split
    next same =>
      subst same
      simp only [Option.map_none, Option.getD_none]
      omega
    next => rfl
  next many =>
    simp only [holders, Numbered.find?_adjust] at many ⊢
    split
    next same =>
      subst same
      cases found : memory.tables.find? other with
      | none => rfl
      | some => rfl
    next => rfl

theorem Holding.pos_of_mem {memory : Memory Row} {claims : Multiset Nat} {table : Nat}
    (holding : memory.Holding claims) (claimed : table ∈ claims) : 0 < memory.holders table := by
  rw [holding table]
  exact Multiset.count_pos.2 claimed

/-- A table that somebody holds was given its number before. -/
theorem Holding.lt_next_of_mem {memory : Memory Row} {claims : Multiset Nat} {table : Nat}
    (holding : memory.Holding claims) (claimed : table ∈ claims) : table < memory.tables.next := by
  have positive := holding.pos_of_mem claimed
  cases found : memory.tables.find? table with
  | none => simp [holders, found] at positive
  | some => exact Numbered.lt_next_of_find? found

theorem Holding.newTable {memory : Memory Row} {claims : Multiset Nat}
    (holding : memory.Holding claims) (rows : List Row) :
    (memory.newTable rows).2.Holding (memory.tables.next ::ₘ claims) := by
  intro table
  have old : memory.holders memory.tables.next = 0 := by
    simp [holders, Numbered.find?_eq_none_of_next_le]
  have before := holding table
  rw [Multiset.count_cons, ← before]
  simp only [holders, Memory.newTable, Numbered.find?_add] at old ⊢
  split
  next same => rw [same, old]; rfl
  next => rfl

theorem Holding.share {memory : Memory Row} {claims : Multiset Nat} {table : Nat}
    (holding : memory.Holding claims) (claimed : table ∈ claims) :
    (memory.share table).Holding (table ::ₘ claims) := by
  intro other
  rw [holders_share (holding.pos_of_mem claimed), Multiset.count_cons, holding other]

theorem Holding.release {memory : Memory Row} {claims : Multiset Nat} {table : Nat}
    (holding : memory.Holding (table ::ₘ claims)) : (memory.release table).Holding claims := by
  intro other
  rw [holders_release, holding other, Multiset.count_cons]
  omega

/-! ## Handles on cells -/

theorem isPresent_adjust (memory : Memory Row) (cell other : Nat) (change : Cell → Cell) :
    ({ memory with cells := memory.cells.adjust cell change } : Memory Row).isPresent other =
      memory.isPresent other := by
  simp only [isPresent, Numbered.contains, Numbered.find?_adjust]
  split
  next => rw [Option.isSome_map]
  next => rfl

theorem Owned.present {memory : Memory Row} {weak recent : Multiset Nat} {cell : Nat}
    (owned : memory.Owned weak recent) (handled : cell ∈ weak ∨ cell ∈ recent) :
    ∃ found, memory.cells.find? cell = some found := by
  have counted := owned.owners cell
  cases missing : memory.cells.find? cell with
  | some found => exact ⟨found, rfl⟩
  | none =>
      simp only [Memory.owners, missing, Option.map_none, Option.getD_none] at counted
      rcases handled with one | one
      · have := Multiset.count_pos.2 one
        omega
      · have := Multiset.count_pos.2 one
        omega

/-- A change that leaves owners and handles of a cell as they are. -/
theorem Owned.adjust {memory : Memory Row} {weak recent : Multiset Nat}
    (owned : memory.Owned weak recent) (cell : Nat) (change : Cell → Cell)
    (sameOwners : ∀ cell, (change cell).owners = cell.owners)
    (sameHolds : ∀ cell, (change cell).recentHolds = cell.recentHolds) :
    ({ memory with cells := memory.cells.adjust cell change } : Memory Row).Owned weak recent := by
  refine ⟨fun other => ?_, fun other => ?_, fun other present => ?_⟩
  · rw [Memory.owners, Numbered.map_find?_adjust _ _ _ _ sameOwners]
    exact owned.owners other
  · rw [Memory.recentHolds, Numbered.map_find?_adjust _ _ _ _ sameHolds]
    exact owned.recentHolds other
  · rw [Memory.owners, Numbered.map_find?_adjust _ _ _ _ sameOwners]
    exact owned.kept other ((isPresent_adjust memory cell other change).symm.trans present)

/-- Only the cells matter for who owns them. -/
theorem Owned.of_cells {memory other : Memory Row} {weak recent : Multiset Nat}
    (owned : memory.Owned weak recent) (same : other.cells = memory.cells) :
    other.Owned weak recent := by
  obtain ⟨owners, recentHolds, kept⟩ := owned
  simp only [Memory.owners, Memory.recentHolds, Memory.isPresent] at owners recentHolds kept
  refine ⟨?_, ?_, ?_⟩
  · simpa only [Memory.owners, same] using owners
  · simpa only [Memory.recentHolds, same] using recentHolds
  · simpa only [Memory.owners, Memory.isPresent, same] using kept

theorem Owned.newCell {memory : Memory Row} {weak recent : Multiset Nat}
    (owned : memory.Owned weak recent) (keyId table tick : Nat) :
    (memory.newCell keyId table tick).2.Owned (memory.cells.next ::ₘ weak) recent := by
  have none : memory.cells.find? memory.cells.next = none :=
    Numbered.find?_eq_none_of_next_le (Nat.le_refl _)
  have unowned := owned.owners memory.cells.next
  have unheld := owned.recentHolds memory.cells.next
  simp only [Memory.owners, Memory.recentHolds, none, Option.map_none, Option.getD_none]
    at unowned unheld
  refine ⟨fun cell => ?_, fun cell => ?_, fun cell present => ?_⟩
  · have before := owned.owners cell
    simp only [Memory.owners, Memory.newCell, Numbered.find?_add, Multiset.count_cons] at before ⊢
    split
    next same =>
      subst same
      simp only [Option.map_some, Option.getD_some]
      omega
    next => exact before
  · have before := owned.recentHolds cell
    simp only [Memory.recentHolds, Memory.newCell, Numbered.find?_add] at before ⊢
    split
    next same =>
      subst same
      simpa using unheld
    next => exact before
  · have before := owned.kept cell
    simp only [Memory.owners, Memory.isPresent, Numbered.contains, Memory.newCell,
      Numbered.find?_add] at before present ⊢
    split
    next => simp
    next other =>
      rw [if_neg other] at present
      exact before present

theorem Owned.openRecent {memory : Memory Row} {weak recent : Multiset Nat} {cell : Nat}
    (owned : memory.Owned weak recent) (handled : cell ∈ weak) (tick : Nat) :
    (memory.openRecent cell tick).Owned weak (cell ::ₘ recent) := by
  obtain ⟨found, known⟩ := owned.present (.inl handled)
  have owners := owned.owners
  have recentHolds := owned.recentHolds
  have kept := owned.kept
  simp only [Memory.owners, Memory.recentHolds, Memory.isPresent, Numbered.contains]
    at owners recentHolds kept
  refine ⟨fun other => ?_, fun other => ?_, fun other => ?_⟩
  · have before := owners other
    simp only [Memory.owners, Memory.openRecent, Numbered.find?_adjust, Multiset.count_cons]
    split
    next same =>
      subst same
      simp only [known, Option.map_some, Option.getD_some] at before ⊢
      omega
    next => exact before
  · have before := recentHolds other
    simp only [Memory.recentHolds, Memory.openRecent, Numbered.find?_adjust, Multiset.count_cons]
    split
    next same =>
      subst same
      simp only [known, Option.map_some, Option.getD_some] at before ⊢
      omega
    next => exact before
  · have before := kept other
    simp only [Memory.owners, Memory.isPresent, Numbered.contains, Memory.openRecent,
      Numbered.find?_adjust]
    split
    next same =>
      subst same
      simp [known]
    next => exact before

theorem Owned.touchRecent {memory : Memory Row} {weak recent : Multiset Nat}
    (owned : memory.Owned weak recent) (cell tick : Nat) :
    (memory.touchRecent cell tick).Owned weak recent :=
  owned.adjust cell (fun cell => { cell with lastUsed := tick }) (fun _ => rfl) fun _ => rfl

/-! ## Giving cells up -/

@[simp]
theorem cells_release (memory : Memory Row) (table : Nat) :
    (memory.release table).cells = memory.cells := rfl

@[simp]
theorem cells_share (memory : Memory Row) (table : Nat) :
    (memory.share table).cells = memory.cells := rfl

/-- The last owner takes the cell with it. -/
theorem find?_disown (memory : Memory Row) (cell other : Nat) :
    (memory.disown cell).cells.find? other =
      if other = cell then
        (memory.cells.find? cell).bind fun found =>
          if found.owners ≤ 1 then none else some { found with owners := found.owners - 1 }
      else memory.cells.find? other := by
  unfold disown
  cases known : memory.cells.find? cell with
  | none =>
      by_cases same : other = cell
      · simp [same, known]
      · simp [same]
  | some found =>
      simp only [Option.bind_some]
      by_cases few : found.owners ≤ 1
      · rw [if_pos few, if_pos few]
        cases found.slot with
        | none => exact Numbered.find?_erase _ _ _
        | some table => exact Numbered.find?_erase _ _ _
      · rw [if_neg few, if_neg few]
        simp only [Numbered.find?_adjust]
        split
        next same => simp [same, known]
        next => rfl

theorem owners_disown (memory : Memory Row) (cell other : Nat) :
    (memory.disown cell).owners other =
      memory.owners other - if other = cell then 1 else 0 := by
  simp only [owners, find?_disown]
  split
  next same =>
    subst same
    cases memory.cells.find? other with
    | none => rfl
    | some found =>
        simp only [Option.bind_some, Option.map_some, Option.getD_some]
        split
        next few =>
          simp only [Option.map_none, Option.getD_none]
          omega
        next => rfl
  next => rfl

theorem recentHolds_disown (memory : Memory Row) (cell other : Nat) :
    (memory.disown cell).recentHolds other =
      if other = cell ∧ memory.owners cell ≤ 1 then 0 else memory.recentHolds other := by
  simp only [recentHolds, owners, find?_disown]
  by_cases same : other = cell
  · subst same
    rcases Option.eq_none_or_eq_some (memory.cells.find? other) with missing | ⟨found, known⟩
    · simp [missing]
    · simp only [known, Option.bind_some, Option.map_some, Option.getD_some, true_and, if_true]
      split <;> rfl
  · simp [same]

/-- A weak handle is given up. -/
theorem Owned.disown {memory : Memory Row} {weak recent : Multiset Nat} {cell : Nat}
    (owned : memory.Owned (cell ::ₘ weak) recent) : (memory.disown cell).Owned weak recent := by
  have counted := owned.owners
  simp only [Multiset.count_cons] at counted
  refine ⟨fun other => ?_, fun other => ?_, fun other present => ?_⟩
  · rw [owners_disown, counted other]
    omega
  · rw [recentHolds_disown]
    split
    next last =>
      obtain ⟨rfl, few⟩ := last
      rw [counted other, if_pos rfl] at few
      omega
    next => exact owned.recentHolds other
  · rw [owners_disown]
    simp only [Memory.isPresent, Numbered.contains, find?_disown] at present
    split
    next same =>
      subst same
      simp only [if_true] at present
      cases known : memory.cells.find? other with
      | none => simp [known] at present
      | some found =>
          simp only [Memory.owners, known, Option.map_some, Option.getD_some, Option.bind_some]
            at present ⊢
          split at present
          next => simp at present
          next many => omega
    next different =>
      rw [if_neg different] at present
      exact owned.kept other present

/-- A recent handle is given up. Until its owner is gone as well it counts as a weak one. -/
theorem Owned.closeRecent {memory : Memory Row} {weak recent : Multiset Nat} {cell : Nat}
    (owned : memory.Owned weak (cell ::ₘ recent)) :
    (memory.closeRecent cell).Owned weak recent := by
  have owners := owned.owners
  have recentHolds := owned.recentHolds
  simp only [Multiset.count_cons] at owners recentHolds
  let change : Cell → Cell := fun cell => { cell with recentHolds := cell.recentHolds - 1 }
  refine Owned.disown ⟨fun other => ?_, fun other => ?_, fun other present => ?_⟩
  · have before := owners other
    rw [Memory.owners, Numbered.map_find?_adjust _ _ _ change fun _ => rfl, ← Memory.owners,
      Multiset.count_cons]
    omega
  · have before := recentHolds other
    simp only [Memory.recentHolds, Numbered.find?_adjust] at before ⊢
    split
    next same =>
      subst same
      cases known : memory.cells.find? other with
      | none => simp [known] at before
      | some found =>
          simp only [known, Option.map_some, Option.getD_some, if_true] at before ⊢
          omega
    next different => simpa [different] using before
  · rw [Memory.owners, Numbered.map_find?_adjust _ _ _ change fun _ => rfl]
    exact owned.kept other ((isPresent_adjust memory cell other change).symm.trans present)

theorem find?_closeRecent (memory : Memory Row) (cell other : Nat) :
    (memory.closeRecent cell).cells.find? other =
      if other = cell then
        (memory.cells.find? cell).bind fun found =>
          if found.owners ≤ 1 then none
          else some { found with
            owners := found.owners - 1
            recentHolds := found.recentHolds - 1 }
      else memory.cells.find? other := by
  rw [closeRecent, find?_disown, Numbered.find?_adjust, Numbered.find?_adjust]
  split
  next same =>
    rw [if_pos rfl]
    cases memory.cells.find? cell with
    | none => rfl
    | some found => rfl
  next => rfl

theorem slots_disown_le (memory : Memory Row) (cell : Nat) :
    slots (memory.disown cell).cells ≤ slots memory.cells := by
  unfold disown
  cases known : memory.cells.find? cell with
  | none => exact le_refl _
  | some found =>
      by_cases few : found.owners ≤ 1
      · simp only [if_pos few]
        cases filled : found.slot with
        | none => exact (slots_of_cleared known filled).ge
        | some table =>
            rw [slots_of_find? known filled]
            exact Multiset.le_cons_self _ _
      · simp only [if_neg few]
        exact (slots_adjust memory.cells cell
          (fun cell => { cell with owners := cell.owners - 1 }) fun _ => rfl).le

theorem slots_closeRecent_le (memory : Memory Row) (cell : Nat) :
    slots (memory.closeRecent cell).cells ≤ slots memory.cells := by
  refine (slots_disown_le _ cell).trans ?_
  exact (slots_adjust memory.cells cell
    (fun cell => { cell with recentHolds := cell.recentHolds - 1 }) fun _ => rfl).le

theorem Holding.disown {memory : Memory Row} {claims : Multiset Nat}
    (holding : memory.Holding (slots memory.cells + claims)) (cell : Nat) :
    (memory.disown cell).Holding (slots (memory.disown cell).cells + claims) := by
  unfold Memory.disown
  cases known : memory.cells.find? cell with
  | none => exact holding
  | some found =>
      by_cases few : found.owners ≤ 1
      · simp only [if_pos few]
        cases filled : found.slot with
        | none =>
            rw [slots_of_cleared known filled] at holding
            exact holding
        | some table =>
            rw [slots_of_find? known filled, Multiset.cons_add] at holding
            have erased : ({ memory with cells := memory.cells.erase cell } : Memory Row).Holding
                (table ::ₘ (slots (memory.cells.erase cell) + claims)) := holding
            exact erased.release
      · simp only [if_neg few]
        rw [← slots_adjust memory.cells cell (fun cell => { cell with owners := cell.owners - 1 })
          fun _ => rfl] at holding
        exact holding

theorem Holding.closeRecent {memory : Memory Row} {claims : Multiset Nat}
    (holding : memory.Holding (slots memory.cells + claims)) (cell : Nat) :
    (memory.closeRecent cell).Holding (slots (memory.closeRecent cell).cells + claims) := by
  refine Holding.disown ?_ cell
  rw [← slots_adjust memory.cells cell
    (fun cell => { cell with recentHolds := cell.recentHolds - 1 }) fun _ => rfl] at holding
  exact holding

/-! ## Later times -/

/-- A memory at a later time: no number of a table is given again, and a table that is still there
has the rows it always had. -/
structure Later (before after : Memory Row) : Prop where
  next_le : before.tables.next ≤ after.tables.next
  unchanged : ∀ table found, table < before.tables.next →
    after.tables.find? table = some found →
      ∃ earlier, before.tables.find? table = some earlier ∧ earlier.rows = found.rows

theorem Later.refl (memory : Memory Row) : memory.Later memory :=
  ⟨Nat.le_refl _, fun _ found _ known => ⟨found, known, rfl⟩⟩

theorem Later.of_tables {before after : Memory Row} (same : after.tables = before.tables) :
    before.Later after := by
  refine ⟨by rw [same], fun table found _ known => ?_⟩
  rw [same] at known
  exact ⟨found, known, rfl⟩

theorem Later.trans {first second third : Memory Row} (one : first.Later second)
    (other : second.Later third) : first.Later third := by
  refine ⟨one.next_le.trans other.next_le, fun table found old known => ?_⟩
  obtain ⟨between, there, same⟩ :=
    other.unchanged table found (Nat.lt_of_lt_of_le old one.next_le) known
  obtain ⟨earlier, here, equal⟩ := one.unchanged table between old there
  exact ⟨earlier, here, equal.trans same⟩

theorem later_newTable (memory : Memory Row) (rows : List Row) :
    memory.Later (memory.newTable rows).2 := by
  refine ⟨by simp [newTable], fun table found old known => ?_⟩
  rw [newTable, Numbered.find?_add, if_neg (Nat.ne_of_lt old)] at known
  exact ⟨found, known, rfl⟩

theorem later_share (memory : Memory Row) (table : Nat) : memory.Later (memory.share table) := by
  refine ⟨by simp [share], fun other found _ known => ?_⟩
  rw [share, Numbered.find?_adjust] at known
  split at known
  next =>
    obtain ⟨earlier, there, rfl⟩ := Option.map_eq_some_iff.1 known
    exact ⟨earlier, there, rfl⟩
  next => exact ⟨found, known, rfl⟩

theorem later_release (memory : Memory Row) (table : Nat) :
    memory.Later (memory.release table) := by
  unfold release
  split
  next =>
    refine ⟨by simp, fun other found _ known => ?_⟩
    rw [Numbered.find?_erase] at known
    split at known
    next => cases known
    next => exact ⟨found, known, rfl⟩
  next =>
    refine ⟨by simp, fun other found _ known => ?_⟩
    rw [Numbered.find?_adjust] at known
    split at known
    next =>
      obtain ⟨earlier, there, rfl⟩ := Option.map_eq_some_iff.1 known
      exact ⟨earlier, there, rfl⟩
    next => exact ⟨found, known, rfl⟩

theorem later_disown (memory : Memory Row) (cell : Nat) : memory.Later (memory.disown cell) := by
  unfold disown
  split
  next => exact .refl memory
  next found known =>
    split
    next =>
      cases found.slot with
      | none => exact .of_tables rfl
      | some table =>
          have erased : memory.Later { memory with cells := memory.cells.erase cell } :=
            .of_tables rfl
          exact erased.trans (later_release _ table)
    next => exact .of_tables rfl

theorem later_closeRecent (memory : Memory Row) (cell : Nat) :
    memory.Later (memory.closeRecent cell) := by
  refine Later.trans (Later.of_tables ?_) (later_disown _ cell)
  rfl

/-- A table that somebody still holds has the rows it always had. -/
theorem Later.rows_eq {before after : Memory Row} (later : before.Later after) {table : Nat}
    (old : table < before.tables.next) (held : 0 < after.holders table) :
    after.rows table = before.rows table := by
  cases known : after.tables.find? table with
  | none => simp [holders, known] at held
  | some found =>
      obtain ⟨earlier, there, same⟩ := later.unchanged table found old known
      simp [rows, known, there, same]

end TableCache.Memory
