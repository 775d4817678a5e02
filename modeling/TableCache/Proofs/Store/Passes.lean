import Mathlib.Data.List.Sort
import TableCache.Proofs.Memory.Registered

/-!
# Which cells a pass clears, in order

A pass has two lists of cells that it may clear, and nothing that it does to one of the cells keeps
it from clearing another. So it clears the first cells of each list, as many as its budget allows:
first of those without a recent handle, in the order in which they were registered, and then of
those with one, in the order of their last uses.

Main statements:

1. `pairwise_sortByUse`, `perm_sortByUse`: the order of last uses;
2. `Backs.keyIds_clearEach`: a list of cells is cleared from its front;
3. `Backs.recent_notMem_cleared`: no cell in recent use is cleared by a pass over the others;
4. `Backs.recent_clearances`: the cells in recent use that a whole pass clears.
-/

namespace TableCache.Memory

universe u

variable {Row : Type u} {memory after : Memory Row} {entries : Multiset (Nat × Entry)}
  {held : Multiset Nat} {cells : List Nat} {cell : Nat}

/-! ## Candidates -/

/-- Cells are sorted by insertion. -/
theorem sortByUse_eq_insertionSort (memory : Memory Row) (cells : List Nat) :
    memory.sortByUse cells =
      cells.insertionSort fun first second => memory.lastUsed first ≤ memory.lastUsed second := by
  have inserted : ∀ cell rest, memory.insertByUse cell rest =
      rest.orderedInsert (fun first second => memory.lastUsed first ≤ memory.lastUsed second)
        cell := by
    intro cell rest
    induction rest with
    | nil => rfl
    | cons head tail ih => rw [insertByUse, List.orderedInsert_cons, ih]
  induction cells with
  | nil => rfl
  | cons head tail ih => rw [sortByUse, List.insertionSort_cons, inserted, ih]

theorem perm_sortByUse (memory : Memory Row) (cells : List Nat) :
    (memory.sortByUse cells).Perm cells := by
  rw [sortByUse_eq_insertionSort]
  exact List.perm_insertionSort _ cells

theorem pairwise_sortByUse (memory : Memory Row) (cells : List Nat) :
    (memory.sortByUse cells).Pairwise fun first second =>
      memory.lastUsed first ≤ memory.lastUsed second := by
  have total : Std.Total fun first second => memory.lastUsed first ≤ memory.lastUsed second :=
    ⟨fun _ _ => Nat.le_total _ _⟩
  have trans : IsTrans Nat fun first second => memory.lastUsed first ≤ memory.lastUsed second :=
    ⟨fun _ _ _ => Nat.le_trans⟩
  rw [sortByUse_eq_insertionSort]
  exact List.pairwise_insertionSort _ cells

theorem isPresent_of_isReclaimable (clearable : memory.isReclaimable cell = true) :
    memory.isPresent cell = true := by
  rw [isReclaimable, slot?] at clearable
  rw [isPresent, Numbered.contains]
  cases found : memory.cells.find? cell with
  | none => simp [found] at clearable
  | some _ => rfl

theorem Registered.mem_candidates (registered : memory.Registered) :
    cell ∈ memory.candidates ↔ memory.isReclaimable cell = true := by
  refine List.mem_filter.trans (and_iff_right_of_imp fun clearable => ?_)
  exact registered.mem_live.2 (isPresent_of_isReclaimable clearable)

theorem Registered.mem_recentCandidates (registered : memory.Registered) :
    cell ∈ memory.recentCandidates ↔
      memory.isReclaimable cell = true ∧ memory.isRecentlyHeld cell = true := by
  rw [recentCandidates, mem_sortByUse, List.mem_filter, registered.mem_candidates]

theorem Registered.mem_weakCandidates (registered : memory.Registered) :
    cell ∈ memory.weakCandidates ↔
      memory.isReclaimable cell = true ∧ memory.isRecentlyHeld cell = false := by
  rw [weakCandidates, List.mem_filter, registered.mem_candidates, Bool.not_eq_true']

theorem Registered.nodup_candidates (registered : memory.Registered) : memory.candidates.Nodup :=
  (registered.live.distinct).filter _

theorem Registered.nodup_weakCandidates (registered : memory.Registered) :
    memory.weakCandidates.Nodup :=
  registered.nodup_candidates.filter _

theorem Registered.nodup_recentCandidates (registered : memory.Registered) :
    memory.recentCandidates.Nodup :=
  (perm_sortByUse memory _).nodup_iff.2 (registered.nodup_candidates.filter _)

/-! ## Clearing a list of cells -/

/-- As many cells as a budget allows. -/
def within (budget : Option Nat) (cells : List Nat) : List Nat :=
  match budget with
  | none => cells
  | some count => cells.take count

theorem within_cons {budget : Option Nat} (left : budget ≠ some 0) (cell : Nat)
    (cells : List Nat) :
    within budget (cell :: cells) = cell :: within (budget.map (· - 1)) cells := by
  rcases budget with _ | _ | count
  · rfl
  · exact absurd rfl left
  · rfl

/-- Clearing a cell does not keep another from being cleared. -/
theorem Backs.isReclaimable_vacate (backs : memory.Backs entries held) {table : Nat}
    (filled : memory.slot? cell = some table) {other : Nat} (different : other ≠ cell) :
    (memory.vacate cell table).isReclaimable other = memory.isReclaimable other := by
  have holders : ∀ second, second ≠ table →
      (memory.vacate cell table).holders second = memory.holders second := by
    intro second apart
    rw [Memory.vacate, holders_release, if_neg apart]
    rfl
  rw [isReclaimable, isReclaimable, slot?_vacate, if_neg different]
  cases there : memory.slot? other with
  | none => rfl
  | some second =>
      have apart : second ≠ table := by
        rintro rfl
        exact different (backs.slot_inj there filled)
      simp only [holders second apart]

theorem tryClear_of_isReclaimable (clearable : memory.isReclaimable cell = true) :
    ∃ table, memory.slot? cell = some table ∧ memory.holders table = 1 ∧
      memory.tryClear cell = some (memory.notice cell table, memory.vacate cell table) := by
  rw [isReclaimable] at clearable
  cases filled : memory.slot? cell with
  | none => simp [filled] at clearable
  | some table =>
      simp only [filled, decide_eq_true_eq] at clearable
      exact ⟨table, rfl, clearable, tryClear_eq_some_iff.2 ⟨table, filled, clearable, rfl, rfl⟩⟩

theorem Clears.keyId {tables : List Nat} {clearances : List Clearance}
    (clears : Clears memory tables clearances after) (cell : Nat) :
    after.keyId cell = memory.keyId cell := by
  induction clears with
  | nothing => rfl
  | more _ _ _ ih => rw [ih, keyId_vacate]

/-- Of cells that can all be cleared the first ones are, as many as the budget allows. -/
theorem Backs.keyIds_clearEach (backs : memory.Backs entries held) (distinct : cells.Nodup)
    (clearable : ∀ cell ∈ cells, memory.isReclaimable cell = true) (budget : Option Nat) :
    (clearEach cells budget memory).2.2.map Clearance.keyId =
        (within budget cells).map memory.keyId ∧
      (clearEach cells budget memory).2.1 = budget.map (· - cells.length) := by
  induction cells generalizing memory budget with
  | nil =>
      refine ⟨?_, by simp [clearEach]⟩
      cases budget <;> simp [clearEach, within]
  | cons cell rest ih =>
      obtain ⟨fresh, others⟩ := List.nodup_cons.1 distinct
      obtain ⟨first, later⟩ := List.forall_mem_cons.1 clearable
      rw [clearEach]
      split
      next spent =>
        subst spent
        simp [within]
      next left =>
        obtain ⟨table, filled, alone, cleared⟩ := tryClear_of_isReclaimable first
        have still : ∀ other ∈ rest, (memory.vacate cell table).isReclaimable other = true := by
          intro other member
          rw [backs.isReclaimable_vacate filled fun same => fresh (same ▸ member)]
          exact later other member
        obtain ⟨keyIds, remains⟩ := ih (backs.vacate filled alone) others still (budget.map (· - 1))
        rw [cleared, within_cons left]
        simp only [List.map_cons, keyIds, remains]
        refine ⟨congrArg _ (List.map_congr_left fun other _ => ?_), ?_⟩
        · exact keyId_vacate memory cell table other
        · rw [Option.map_map, List.length_cons]
          exact congrArg (Option.map · budget) (funext fun count => by simp; omega)

theorem Backs.isReclaimable_clearEach (backs : memory.Backs entries held) {other : Nat}
    (apart : other ∉ cells) (budget : Option Nat) :
    (clearEach cells budget memory).1.isReclaimable other = memory.isReclaimable other := by
  induction cells generalizing memory budget with
  | nil => rfl
  | cons cell rest ih =>
      obtain ⟨different, others⟩ := not_or.1 (mt List.mem_cons.2 apart)
      rw [clearEach]
      split
      next => rfl
      next =>
        cases tried : memory.tryClear cell with
        | none => exact ih backs others budget
        | some result =>
            obtain ⟨clearance, after⟩ := result
            obtain ⟨table, filled, alone, rfl, rfl⟩ := tryClear_eq_some_iff.1 tried
            exact (ih (backs.vacate filled alone) others _).trans
              (backs.isReclaimable_vacate filled different)

theorem slot?_clearEach {other : Nat} (apart : other ∉ cells) (budget : Option Nat) :
    (clearEach cells budget memory).1.slot? other = memory.slot? other := by
  induction cells generalizing memory budget with
  | nil => rfl
  | cons cell rest ih =>
      obtain ⟨different, others⟩ := not_or.1 (mt List.mem_cons.2 apart)
      rw [clearEach]
      split
      next => rfl
      next =>
        cases tried : memory.tryClear cell with
        | none => exact ih others budget
        | some result =>
            obtain ⟨clearance, after⟩ := result
            obtain ⟨table, -, -, rfl, rfl⟩ := tryClear_eq_some_iff.1 tried
            exact (ih others _).trans ((slot?_vacate memory cell table other).trans
              (if_neg different))

/-! ## Whole passes -/

/-- What a pass does to the tables that are not in recent use. -/
def weakPass (memory : Memory Row) (pressure : Pressure) :
    Memory Row × Option Nat × List Clearance :=
  clearEach memory.weakCandidates pressure.budget memory.live.2

/-- What a pass does to the tables in recent use, after it went over the others. -/
def recentPass (memory : Memory Row) (pressure : Pressure) :
    Memory Row × Option Nat × List Clearance :=
  clearEach memory.recentCandidates (memory.weakPass pressure).2.1 (memory.weakPass pressure).1

theorem isRecentlyHeld_live (memory : Memory Row) (cell : Nat) :
    memory.live.2.isRecentlyHeld cell = memory.isRecentlyHeld cell := rfl

theorem Clears.isRecentlyHeld {tables : List Nat} {clearances : List Clearance}
    (clears : Clears memory tables clearances after) (cell : Nat) :
    after.isRecentlyHeld cell = memory.isRecentlyHeld cell := by
  rw [Memory.isRecentlyHeld, Memory.isRecentlyHeld, clears.recentHolds]

theorem clearances_reclaim (memory : Memory Row) {pressure : Pressure}
    (thorough : pressure ≠ .weakOnly) :
    (memory.reclaim pressure).clearances =
      (memory.weakPass pressure).2.2 ++ (memory.recentPass pressure).2.2 := by
  simp only [reclaim, if_neg thorough]
  rfl

theorem weakCleared_reclaim (memory : Memory Row) (pressure : Pressure) :
    (memory.reclaim pressure).report.weakCleared = (memory.weakPass pressure).2.2.length := rfl

/-- A pass over what is not in recent use spares a cell with a recent handle. -/
theorem Backs.recent_notMem_cleared (backs : memory.Backs entries held) {table : Nat}
    (filled : memory.slot? cell = some table) (recent : memory.isRecentlyHeld cell = true) :
    table ∉ memory.cleared (memory.reclaim .weakOnly).memory := by
  have spared : cell ∉ memory.weakCandidates := by
    intro member
    rw [not_isRecentlyHeld_of_mem_weakCandidates member] at recent
    cases recent
  have left : (memory.reclaim .weakOnly).memory.slot? cell = some table :=
    (slot?_clearEach spared _).trans filled
  exact ((backs.slot?_reclaim .weakOnly cell table).1 left).2

theorem recentlyUsed_weakPass (memory : Memory Row) (pressure : Pressure) :
    ∀ clearance ∈ (memory.weakPass pressure).2.2, clearance.recentlyUsed = false := by
  refine recentlyUsed_clearEach (fun cell member => ?_) _
  rw [isRecentlyHeld_live]
  exact not_isRecentlyHeld_of_mem_weakCandidates member

theorem recentlyUsed_recentPass (memory : Memory Row) (pressure : Pressure) :
    ∀ clearance ∈ (memory.recentPass pressure).2.2, clearance.recentlyUsed = true := by
  obtain ⟨tables, clears⟩ := clears_clearEach memory.weakCandidates pressure.budget memory.live.2
  refine recentlyUsed_clearEach (fun cell member => ?_) _
  rw [weakPass, clears.isRecentlyHeld, isRecentlyHeld_live]
  exact isRecentlyHeld_of_mem_recentCandidates member

theorem Backs.keyIds_weakPass (backs : memory.Backs entries held)
    (registered : memory.Registered) (pressure : Pressure) :
    (memory.weakPass pressure).2.2.map Clearance.keyId =
        (within pressure.budget memory.weakCandidates).map memory.keyId ∧
      (memory.weakPass pressure).2.1 =
        pressure.budget.map (· - memory.weakCandidates.length) := by
  have clearable : ∀ cell ∈ memory.weakCandidates, memory.live.2.isReclaimable cell = true :=
    fun cell member => (registered.mem_weakCandidates.1 member).1
  exact backs.live.keyIds_clearEach registered.nodup_weakCandidates clearable _

/-- What was cleared before leaves the tables in recent use as they were. -/
theorem Backs.keyIds_recentPass (backs : memory.Backs entries held)
    (registered : memory.Registered) (pressure : Pressure) :
    (memory.recentPass pressure).2.2.map Clearance.keyId =
      (within (memory.weakPass pressure).2.1 memory.recentCandidates).map memory.keyId := by
  obtain ⟨tables, clears⟩ := clears_clearEach memory.weakCandidates pressure.budget memory.live.2
  have clearable : ∀ cell ∈ memory.recentCandidates,
      (memory.weakPass pressure).1.isReclaimable cell = true := by
    intro cell member
    obtain ⟨still, recent⟩ := registered.mem_recentCandidates.1 member
    refine (backs.live.isReclaimable_clearEach (fun weak => ?_) _).trans still
    rw [(registered.mem_weakCandidates.1 weak).2] at recent
    cases recent
  have cleared := ((clears.backs backs.live).keyIds_clearEach registered.nodup_recentCandidates
    clearable (memory.weakPass pressure).2.1).1
  refine cleared.trans (List.map_congr_left fun cell _ => ?_)
  exact clears.keyId cell

/-- A pass that spares nothing on principle clears tables in recent use in the order of their last
uses, as many as its budget allows after it cleared the others. -/
theorem Backs.recent_clearances (backs : memory.Backs entries held)
    (registered : memory.Registered) {pressure : Pressure} (thorough : pressure ≠ .weakOnly) :
    ((memory.reclaim pressure).clearances.filter Clearance.recentlyUsed).map Clearance.keyId =
      (within (pressure.budget.map (· - (memory.reclaim pressure).report.weakCleared))
        memory.recentCandidates).map memory.keyId := by
  obtain ⟨weak, remains⟩ := backs.keyIds_weakPass registered pressure
  have none : (memory.weakPass pressure).2.2.filter Clearance.recentlyUsed = [] :=
    List.filter_eq_nil_iff.2 fun clearance member => by
      simp [recentlyUsed_weakPass memory pressure clearance member]
  have all : (memory.recentPass pressure).2.2.filter Clearance.recentlyUsed =
      (memory.recentPass pressure).2.2 :=
    List.filter_eq_self.2 (recentlyUsed_recentPass memory pressure)
  rw [clearances_reclaim memory thorough, List.filter_append, none, all, List.nil_append,
    backs.keyIds_recentPass registered, remains, weakCleared_reclaim]
  have counted := congrArg List.length weak
  rw [List.length_map, List.length_map] at counted
  rw [counted]
  cases pressure.budget with
  | none => rfl
  | some count =>
      simp only [within, Option.map_some, List.length_take]
      congr 2
      omega

end TableCache.Memory
