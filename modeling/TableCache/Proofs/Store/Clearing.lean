import Mathlib.Data.Multiset.UnionInter
import TableCache.Memory.Reclaim
import TableCache.Proofs.Store.Backing

/-!
# What a reclaim pass clears

`Clears` follows a memory through cells that are cleared one after the other, with the tables that
went and the notices of it. A pass is such a sequence (`clears_reclaim`), and all that is said of a
pass here is said of sequences by induction.

Main statements:

1. `Clears.slot?_eq_some_iff`: what is left in a cell is what was there, unless it went;
2. `Clears.notMem_of_claimed`: a table that somebody else holds stays;
3. `Clears.slots_eq`, `perm_cleared`: each table goes once;
4. `Clears.rows_eq`, `report_reclaim`: the notices give the rows of the tables that went, and how
   they were held;
5. `Backs.slot?_reclaim`, `Backs.notMem_cleared`: the same of a whole pass.
-/

namespace TableCache.Memory

open Entry

universe u

variable {Row : Type u} {memory : Memory Row} {entries : Multiset (Nat × Entry)}
  {held : Multiset Nat}

/-- The tables in cells, in the order of the cells. -/
def stored (memory : Memory Row) : List Nat := memory.cells.values.filterMap Cell.slot

/-- The tables that were in cells before and are in none after. -/
def cleared (before after : Memory Row) : List Nat :=
  before.stored.filter fun table => table ∉ after.stored

theorem coe_stored (memory : Memory Row) : (memory.stored : Multiset Nat) = slots memory.cells := by
  rw [stored, Numbered.values_eq_map_toList, List.filterMap_map]
  rfl

theorem mem_stored {table : Nat} : table ∈ memory.stored ↔ table ∈ slots memory.cells := by
  rw [← coe_stored]
  exact Multiset.mem_coe.symm

/-! ## One cell -/

/-- A memory after the only holder of a table, a cell, gave it up. -/
def vacate (memory : Memory Row) (cell table : Nat) : Memory Row :=
  ({ memory with
      cells := memory.cells.adjust cell fun cell => { cell with slot := none } } :
    Memory Row).release table

/-- The notice of a table that went from a cell. -/
def notice (memory : Memory Row) (cell table : Nat) : Clearance :=
  ⟨memory.keyId cell, (memory.rows table).length, memory.isRecentlyHeld cell⟩

theorem tryClear_eq_some_iff {cell : Nat} {clearance : Clearance} {after : Memory Row} :
    memory.tryClear cell = some (clearance, after) ↔
      ∃ table, memory.slot? cell = some table ∧ memory.holders table = 1 ∧
        clearance = memory.notice cell table ∧ after = memory.vacate cell table := by
  unfold tryClear
  cases memory.slot? cell with
  | none => simp
  | some table =>
      by_cases alone : memory.holders table = 1
      · simp only [if_pos alone]
        constructor
        · intro equal
          obtain ⟨rfl, rfl⟩ := Prod.mk.inj (Option.some.inj equal)
          exact ⟨table, rfl, alone, rfl, rfl⟩
        · rintro ⟨other, same, -, rfl, rfl⟩
          obtain rfl := Option.some.inj same
          rfl
      · simp [alone]

theorem recentHolds_vacate (memory : Memory Row) (cell table other : Nat) :
    (memory.vacate cell table).recentHolds other = memory.recentHolds other := by
  rw [recentHolds, recentHolds, vacate, cells_release,
    Numbered.map_find?_adjust memory.cells cell other (fun cell => { cell with slot := none })
      fun _ => rfl]

theorem keyId_vacate (memory : Memory Row) (cell table other : Nat) :
    (memory.vacate cell table).keyId other = memory.keyId other := by
  rw [keyId, keyId, vacate, cells_release,
    Numbered.map_find?_adjust memory.cells cell other (fun cell => { cell with slot := none })
      fun _ => rfl]

theorem slot?_vacate (memory : Memory Row) (cell table other : Nat) :
    (memory.vacate cell table).slot? other =
      if other = cell then none else memory.slot? other := by
  rw [slot?, vacate, cells_release, Numbered.find?_adjust]
  split
  next => cases memory.cells.find? other <;> rfl
  next => rfl

theorem later_vacate (memory : Memory Row) (cell table : Nat) :
    memory.Later (memory.vacate cell table) := by
  refine Later.trans (Later.of_tables ?_) (later_release _ table)
  rfl

theorem slots_vacate {cell table : Nat} (filled : memory.slot? cell = some table) :
    slots memory.cells = table ::ₘ slots (memory.vacate cell table).cells := by
  obtain ⟨found, known, same⟩ := Option.bind_eq_some_iff.1 filled
  rw [slots_of_find? known same, vacate, cells_release, slots, slots,
    Numbered.pairs_adjust known]
  exact congrArg _ (Multiset.filterMap_cons_none _ _ rfl).symm

theorem Backs.vacate (backs : memory.Backs entries held) {cell table : Nat}
    (filled : memory.slot? cell = some table) (alone : memory.holders table = 1) :
    (memory.vacate cell table).Backs entries held where
  holding := by
    refine Holding.release ?_
    rw [← Multiset.cons_add, ← slots_vacate filled]
    exact backs.holding
  owned := by
    have adjusted := backs.owned.adjust cell (fun cell => { cell with slot := none })
      (fun _ => rfl) fun _ => rfl
    exact adjusted.of_cells rfl
  linked := by
    intro keyId entry member
    have linked := backs.linked keyId entry member
    refine ⟨?_, fun other strong => ?_, linked.recent⟩
    · rw [keyId_vacate]
      exact linked.keyId
    · rw [slot?_vacate]
      split
      next same =>
        have filled' := linked.strong other strong
        rw [same, filled] at filled'
        obtain rfl := Option.some.inj filled'
        have pinned : table ∈ strongHandles entries :=
          (Multiset.mem_filterMap _ _).2 ⟨(keyId, entry), member, strong⟩
        have many : 2 ≤ memory.holders table :=
          backs.two_le_holders filled (Multiset.mem_add.2 (.inl pinned))
        omega
      next => exact linked.strong other strong
  apart := backs.apart
  single := by
    have single := backs.single
    rw [slots_vacate filled, Multiset.nodup_cons] at single
    exact single.2

/-- A list of registered cells does not matter for what a memory holds. -/
theorem Backs.live (backs : memory.Backs entries held) : memory.live.2.Backs entries held where
  holding := backs.holding
  owned := backs.owned.of_cells rfl
  linked := fun keyId entry member => (backs.linked keyId entry member).of_find? rfl
  apart := backs.apart
  single := backs.single

/-! ## Cells one after the other -/

/-- A memory after some cells were cleared, with the tables that went and the notices of it, the
first one first. -/
inductive Clears : Memory Row → List Nat → List Clearance → Memory Row → Prop
  /-- No cell is cleared. -/
  | nothing (memory : Memory Row) : Clears memory [] [] memory
  /-- A cell is cleared, and then others. -/
  | more {before after : Memory Row} {cell table : Nat} {tables : List Nat}
      {clearances : List Clearance} :
      before.slot? cell = some table → before.holders table = 1 →
      Clears (before.vacate cell table) tables clearances after →
      Clears before (table :: tables) (before.notice cell table :: clearances) after

theorem Clears.append {first second third : Memory Row} {tables others : List Nat}
    {clearances notices : List Clearance} (one : Clears first tables clearances second)
    (other : Clears second others notices third) :
    Clears first (tables ++ others) (clearances ++ notices) third := by
  induction one with
  | nothing => exact other
  | more filled alone _ ih => exact .more filled alone (ih other)

theorem clears_clearEach (cells : List Nat) (budget : Option Nat) (memory : Memory Row) :
    ∃ tables, Clears memory tables (clearEach cells budget memory).2.2
      (clearEach cells budget memory).1 := by
  induction cells generalizing budget memory with
  | nil => exact ⟨[], .nothing memory⟩
  | cons cell rest ih =>
      rw [clearEach]
      split
      next => exact ⟨[], .nothing memory⟩
      next =>
        cases tried : memory.tryClear cell with
        | none => exact ih budget memory
        | some result =>
            obtain ⟨clearance, after⟩ := result
            obtain ⟨table, filled, alone, rfl, rfl⟩ := tryClear_eq_some_iff.1 tried
            obtain ⟨tables, clears⟩ := ih (budget.map (· - 1)) (memory.vacate cell table)
            exact ⟨table :: tables, .more filled alone clears⟩

/-- A pass clears cells one after the other: those that are not in recent use first, and the others
with what is left of its budget. -/
theorem clears_reclaim (memory : Memory Row) (pressure : Pressure) :
    ∃ tables, Clears memory.live.2 tables (memory.reclaim pressure).clearances
      (memory.reclaim pressure).memory := by
  obtain ⟨weak, clears⟩ := clears_clearEach memory.weakCandidates pressure.budget memory.live.2
  unfold reclaim
  by_cases spared : pressure = .weakOnly
  · simp only [if_pos spared, List.append_nil]
    exact ⟨weak, clears⟩
  · simp only [if_neg spared]
    obtain ⟨recent, more⟩ := clears_clearEach memory.recentCandidates
      (clearEach memory.weakCandidates pressure.budget memory.live.2).2.1
      (clearEach memory.weakCandidates pressure.budget memory.live.2).1
    exact ⟨weak ++ recent, clears.append more⟩

variable {after : Memory Row} {tables : List Nat} {clearances : List Clearance}

theorem Clears.backs (clears : Clears memory tables clearances after)
    (backs : memory.Backs entries held) : after.Backs entries held := by
  induction clears with
  | nothing => exact backs
  | more filled alone _ ih => exact ih (backs.vacate filled alone)

theorem Clears.later (clears : Clears memory tables clearances after) : memory.Later after := by
  induction clears with
  | nothing memory => exact .refl memory
  | more _ _ _ ih => exact (later_vacate _ _ _).trans ih

theorem Clears.recentHolds (clears : Clears memory tables clearances after) (cell : Nat) :
    after.recentHolds cell = memory.recentHolds cell := by
  induction clears with
  | nothing => rfl
  | more _ _ _ ih => rw [ih, recentHolds_vacate]

/-- What is left in a cell is what was there, unless it went. -/
theorem Clears.slot?_eq_some_iff (clears : Clears memory tables clearances after)
    (backs : memory.Backs entries held) (cell table : Nat) :
    after.slot? cell = some table ↔ memory.slot? cell = some table ∧ table ∉ tables := by
  induction clears with
  | nothing => simp
  | @more before _ emptied gone tables _ filled alone _ ih =>
      rw [ih (backs.vacate filled alone), slot?_vacate, List.mem_cons, not_or]
      constructor
      · rintro ⟨left, kept⟩
        split at left
        next => cases left
        next other =>
          refine ⟨left, fun same => ?_, kept⟩
          subst same
          exact other (backs.slot_inj left filled)
      · rintro ⟨there, other, kept⟩
        rw [if_neg]
        · exact ⟨there, kept⟩
        · intro same
          subst same
          exact other (Option.some.inj (there.symm.trans filled))

/-- Each table that was in a cell went or is there still. -/
theorem Clears.slots_eq (clears : Clears memory tables clearances after) :
    slots memory.cells = (tables : Multiset Nat) + slots after.cells := by
  induction clears with
  | nothing => simp
  | more filled _ _ ih =>
      rw [slots_vacate filled, ih, ← Multiset.cons_coe, Multiset.cons_add]

/-- A table that somebody else holds stays. -/
theorem Clears.notMem_of_claimed (clears : Clears memory tables clearances after)
    (backs : memory.Backs entries held) {table : Nat}
    (claimed : table ∈ strongHandles entries + held) : table ∉ tables := by
  induction clears with
  | nothing => exact List.not_mem_nil
  | @more before _ emptied gone tables _ filled alone _ ih =>
      rw [List.mem_cons, not_or]
      refine ⟨fun same => ?_, ih (backs.vacate filled alone)⟩
      subst same
      have many := backs.two_le_holders filled claimed
      omega

/-- The tables that went are those that were in cells before and are in none after. -/
theorem Clears.perm_cleared (clears : Clears memory tables clearances after)
    (backs : memory.Backs entries held) : (memory.cleared after).Perm tables := by
  have single := backs.single
  have split := clears.slots_eq
  rw [split, Multiset.nodup_add] at single
  obtain ⟨once, -, apart⟩ := single
  have distinct : memory.stored.Nodup := by
    rw [← Multiset.coe_nodup, coe_stored]
    exact backs.single
  refine (List.perm_ext_iff_of_nodup (distinct.filter _) (Multiset.coe_nodup.1 once)).2 ?_
  intro table
  simp only [List.mem_filter, mem_stored, decide_eq_true_eq, split, Multiset.mem_add,
    Multiset.mem_coe]
  constructor
  · rintro ⟨gone | left, missing⟩
    · exact gone
    · exact absurd left missing
  · intro gone
    exact ⟨.inl gone, Multiset.disjoint_left.1 apart (Multiset.mem_coe.2 gone)⟩

/-! ## Notices -/

theorem rows_release_of_ne (memory : Memory Row) {table other : Nat} (different : other ≠ table) :
    (memory.release table).rows other = memory.rows other := by
  unfold release rows
  split
  next => rw [Numbered.find?_erase, if_neg different]
  next => rw [Numbered.find?_adjust, if_neg different]

/-- The notices of a sequence give the rows of the tables that went. A release changes the rows of
no other table, and each table is in one cell only. -/
theorem Clears.rows_eq (clears : Clears memory tables clearances after)
    (backs : memory.Backs entries held) :
    clearances.map Clearance.rows = tables.map fun table => (memory.rows table).length := by
  induction clears with
  | nothing => rfl
  | @more before _ cell gone tables _ filled alone later ih =>
      have single := backs.single
      rw [(Clears.more filled alone later).slots_eq, ← Multiset.cons_coe, Multiset.cons_add,
        Multiset.nodup_cons, Multiset.mem_add, not_or] at single
      rw [List.map_cons, List.map_cons, ih (backs.vacate filled alone)]
      refine congrArg _ (List.map_congr_left fun table member => ?_)
      have different : table ≠ gone := by
        rintro rfl
        exact single.1.1 (Multiset.mem_coe.2 member)
      exact congrArg List.length (rows_release_of_ne _ different)

theorem isRecentlyHeld_vacate (memory : Memory Row) (cell table other : Nat) :
    (memory.vacate cell table).isRecentlyHeld other = memory.isRecentlyHeld other := by
  rw [isRecentlyHeld, isRecentlyHeld, recentHolds_vacate]

/-- Cells held alike give notices that say so. -/
theorem recentlyUsed_clearEach {flag : Bool} {cells : List Nat} {memory : Memory Row}
    (alike : ∀ cell ∈ cells, memory.isRecentlyHeld cell = flag) (budget : Option Nat) :
    ∀ clearance ∈ (clearEach cells budget memory).2.2, clearance.recentlyUsed = flag := by
  induction cells generalizing memory budget with
  | nil => exact fun _ member => absurd member List.not_mem_nil
  | cons cell rest ih =>
      obtain ⟨first, others⟩ := List.forall_mem_cons.1 alike
      rw [clearEach]
      split
      next => exact fun _ member => absurd member List.not_mem_nil
      next =>
        cases tried : memory.tryClear cell with
        | none => exact ih others budget
        | some result =>
            obtain ⟨clearance, after⟩ := result
            obtain ⟨table, _, _, rfl, rfl⟩ := tryClear_eq_some_iff.1 tried
            refine List.forall_mem_cons.2 ⟨first, ih (fun other member => ?_) _⟩
            rw [isRecentlyHeld_vacate]
            exact others other member

theorem mem_insertByUse {cell other : Nat} {cells : List Nat} :
    other ∈ memory.insertByUse cell cells ↔ other = cell ∨ other ∈ cells := by
  induction cells with
  | nil => simp [insertByUse]
  | cons head tail ih =>
      rw [insertByUse]
      split
      next => simp
      next =>
        rw [List.mem_cons, ih, List.mem_cons]
        exact or_left_comm

theorem mem_sortByUse {cell : Nat} {cells : List Nat} :
    cell ∈ memory.sortByUse cells ↔ cell ∈ cells := by
  induction cells with
  | nil => simp [sortByUse]
  | cons head tail ih => rw [sortByUse, mem_insertByUse, ih, List.mem_cons]

theorem not_isRecentlyHeld_of_mem_weakCandidates {cell : Nat}
    (member : cell ∈ memory.weakCandidates) : memory.isRecentlyHeld cell = false := by
  simpa using (List.mem_filter.1 member).2

theorem isRecentlyHeld_of_mem_recentCandidates {cell : Nat}
    (member : cell ∈ memory.recentCandidates) : memory.isRecentlyHeld cell = true :=
  (List.mem_filter.1 (mem_sortByUse.1 member)).2

/-! ## A whole pass -/

/-- A pass clears the tables that are in no cell after it. -/
theorem Backs.clears_cleared (backs : memory.Backs entries held) (pressure : Pressure) :
    ∃ tables, Clears memory.live.2 tables (memory.reclaim pressure).clearances
        (memory.reclaim pressure).memory ∧
      (memory.cleared (memory.reclaim pressure).memory).Perm tables := by
  obtain ⟨tables, clears⟩ := clears_reclaim memory pressure
  exact ⟨tables, clears, clears.perm_cleared backs.live⟩

theorem Backs.reclaim (backs : memory.Backs entries held) (pressure : Pressure) :
    (memory.reclaim pressure).memory.Backs entries held := by
  obtain ⟨tables, clears⟩ := clears_reclaim memory pressure
  exact clears.backs backs.live

theorem later_reclaim (memory : Memory Row) (pressure : Pressure) :
    memory.Later (memory.reclaim pressure).memory := by
  obtain ⟨tables, clears⟩ := clears_reclaim memory pressure
  have pruned : memory.Later memory.live.2 := .of_tables rfl
  exact pruned.trans clears.later

/-- A pass takes the tables it clears out of their cells, and no others. -/
theorem Backs.slot?_reclaim (backs : memory.Backs entries held) (pressure : Pressure)
    (cell table : Nat) :
    (memory.reclaim pressure).memory.slot? cell = some table ↔
      memory.slot? cell = some table ∧
        table ∉ memory.cleared (memory.reclaim pressure).memory := by
  obtain ⟨tables, clears, same⟩ := backs.clears_cleared pressure
  rw [same.mem_iff]
  exact clears.slot?_eq_some_iff backs.live cell table

/-- A pass spares what an entry holds strongly and what a reader holds. -/
theorem Backs.notMem_cleared (backs : memory.Backs entries held) (pressure : Pressure) {table : Nat}
    (claimed : table ∈ strongHandles entries + held) :
    table ∉ memory.cleared (memory.reclaim pressure).memory := by
  obtain ⟨tables, clears, same⟩ := backs.clears_cleared pressure
  rw [same.mem_iff]
  exact clears.notMem_of_claimed backs.live claimed

/-- The notices of a pass are one for each table it clears, with the rows of that table. -/
theorem Backs.rows_clearances (backs : memory.Backs entries held) (pressure : Pressure) :
    ((memory.reclaim pressure).clearances.map Clearance.rows).Perm
      ((memory.cleared (memory.reclaim pressure).memory).map fun table =>
        (memory.rows table).length) := by
  obtain ⟨tables, clears, same⟩ := backs.clears_cleared pressure
  rw [clears.rows_eq backs.live]
  exact (same.map _).symm

/-- The report of a pass counts its notices, and among them those of tables in recent use. -/
theorem report_reclaim (memory : Memory Row) (pressure : Pressure) :
    (memory.reclaim pressure).report.weakCleared + (memory.reclaim pressure).report.recentCleared =
        (memory.reclaim pressure).clearances.length ∧
      (memory.reclaim pressure).report.recentCleared =
        (memory.reclaim pressure).clearances.countP Clearance.recentlyUsed := by
  let weak := clearEach memory.weakCandidates pressure.budget memory.live.2
  let recent := clearEach memory.recentCandidates weak.2.1 weak.1
  obtain ⟨gone, clears⟩ := clears_clearEach memory.weakCandidates pressure.budget memory.live.2
  have weakNotices : ∀ clearance ∈ weak.2.2, clearance.recentlyUsed = false :=
    recentlyUsed_clearEach (fun cell member => by
      rw [← not_isRecentlyHeld_of_mem_weakCandidates member]
      rfl) _
  have recentNotices : ∀ clearance ∈ recent.2.2, clearance.recentlyUsed = true :=
    recentlyUsed_clearEach (fun cell member => by
      rw [isRecentlyHeld, clears.recentHolds, ← isRecentlyHeld_of_mem_recentCandidates member]
      rfl) _
  have none : weak.2.2.countP Clearance.recentlyUsed = 0 :=
    List.countP_eq_zero.2 fun clearance member => by simp [weakNotices clearance member]
  have all : recent.2.2.countP Clearance.recentlyUsed = recent.2.2.length :=
    List.countP_eq_length.2 recentNotices
  by_cases spared : pressure = .weakOnly
  · have report : (memory.reclaim pressure).report = ⟨weak.2.2.length, 0⟩ := by
      simp [reclaim, spared, weak]
    have notices : (memory.reclaim pressure).clearances = weak.2.2 := by
      simp [reclaim, spared, weak]
    rw [report, notices, none]
    exact ⟨rfl, rfl⟩
  · have report : (memory.reclaim pressure).report = ⟨weak.2.2.length, recent.2.2.length⟩ := by
      simp [reclaim, spared, weak, recent]
    have notices : (memory.reclaim pressure).clearances = weak.2.2 ++ recent.2.2 := by
      simp [reclaim, spared, weak, recent]
    rw [report, notices, List.countP_append, none, all, List.length_append, Nat.zero_add]
    exact ⟨rfl, rfl⟩

end TableCache.Memory
