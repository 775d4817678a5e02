import TableCache.Proofs.Memory.Sweeps

/-!
# Passes that go on where others stopped

The cells that could be cleared stand in one list, those without a recent handle first, and a pass
clears the front of it. Afterwards the rest of the list stands as it stood: no cell joined it, none
left it, and no two of them changed places. So the next pass goes on where the first one stopped,
and two passes together are one pass that clears what both of them cleared.

Main definitions:

1. `Memory.chosen`: the cells that a pass clears, in order;
2. `Event.isClearing`: the events that tell of a cleared table.

Main statements:

1. `clearEach_append`: a list of cells can be cleared in two goes;
2. `sortByUse_filter`: what is left of a sorted list is sorted;
3. `Apart.chosen_reclaim`: the next pass chooses from the rest;
4. `Apart.reclaim_reclaim`: two passes are one;
5. `Apart.reclaimable_reclaim`: what is cleared could be cleared before, and cannot be any more.
-/

namespace TableCache

universe u

/-- The events that tell of a cleared table. -/
def Event.isClearing : Event → Bool
  | .reclaimedWeak _ | .reclaimedRecent _ => true
  | _ => false

/-- How the log tells of a cleared table. -/
def Clearance.event (clearance : Clearance) : Event :=
  if clearance.recentlyUsed then .reclaimedRecent clearance.keyId
  else .reclaimedWeak clearance.keyId

/-! ## Portions -/

/-- What a pressure asks for comes from the front. -/
theorem Pressure.portion_append (pressure : Pressure) (weak recent : List Nat) :
    ∃ rest, weak ++ recent = pressure.portion weak recent ++ rest := by
  cases pressure with
  | weakOnly => exact ⟨recent, rfl⟩
  | bounded count => exact ⟨_, (List.take_append_drop count _).symm⟩
  | full => exact ⟨[], (List.append_nil _).symm⟩

/-- A pressure that spares nothing on principle does not tell cells with a recent handle apart. -/
theorem Pressure.portion_of_ne {pressure : Pressure} (thorough : pressure ≠ .weakOnly)
    (weak recent : List Nat) :
    pressure.portion weak recent = Memory.within pressure.budget (weak ++ recent) := by
  cases pressure with
  | weakOnly => exact absurd rfl thorough
  | bounded count => rfl
  | full => rfl

namespace Memory

variable {Row : Type u} {memory before after : Memory Row} {cells rest : List Nat}
  {cell : Nat} {keep : Nat → Bool}

/-- The cells that a pass clears, in order. -/
def chosen (memory : Memory Row) (pressure : Pressure) : List Nat :=
  pressure.portion memory.weakCandidates memory.recentCandidates

/-! ## Clearing in two goes -/

theorem clearEach_append (first second : List Nat) (memory : Memory Row) :
    clearEach (first ++ second) none memory =
      ((clearEach second none (clearEach first none memory).1).1, none,
        (clearEach first none memory).2.2 ++
          (clearEach second none (clearEach first none memory).1).2.2) := by
  induction first generalizing memory with
  | nil =>
      have unspent : ∀ (cells : List Nat) (memory : Memory Row),
          (clearEach cells none memory).2.1 = none := by
        intro cells
        induction cells with
        | nil => exact fun _ => rfl
        | cons cell rest ih =>
            intro memory
            rw [clearEach, if_neg (Option.some_ne_none 0).symm]
            cases memory.tryClear cell with
            | none => exact ih memory
            | some cleared => exact ih cleared.2
      exact Prod.ext rfl (Prod.ext (unspent second memory) rfl)
  | cons cell rest ih =>
      have unbounded : none ≠ some 0 := (Option.some_ne_none 0).symm
      rw [List.cons_append, clearEach, clearEach, if_neg unbounded, if_neg unbounded]
      cases memory.tryClear cell with
      | none => exact ih memory
      | some cleared => simp only [Option.map_none, ih, List.cons_append]

/-- Of cells that can all be cleared, a budget allows the first ones, and it does not matter whether
the others are named. -/
theorem Apart.clearEach_within (apart : memory.Apart) (distinct : cells.Nodup)
    (clearable : ∀ cell ∈ cells, memory.isReclaimable cell = true) (budget : Option Nat) :
    (clearEach cells budget memory).1 = (clearEach (within budget cells) none memory).1 ∧
      (clearEach cells budget memory).2.2 = (clearEach (within budget cells) none memory).2.2 := by
  induction cells generalizing memory budget with
  | nil => cases budget <;> simp [within, clearEach]
  | cons cell rest ih =>
      by_cases spent : budget = some 0
      · rw [clearEach, if_pos spent, spent]
        exact ⟨rfl, rfl⟩
      · obtain ⟨fresh, others⟩ := List.nodup_cons.1 distinct
        obtain ⟨first, later⟩ := List.forall_mem_cons.1 clearable
        obtain ⟨table, filled, alone, cleared⟩ := tryClear_of_isReclaimable first
        have vacated := swept_vacate filled alone
        obtain ⟨memories, notices⟩ := ih (vacated.apart apart) others
          (fun other member => (vacated.isReclaimable apart fun same =>
            fresh (List.mem_singleton.1 same ▸ member)).trans (later other member))
          (budget.map (· - 1))
        rw [within_cons spent, clearEach, clearEach, if_neg spent,
          if_neg (Option.some_ne_none 0).symm, cleared]
        exact ⟨memories, congrArg (_ :: ·) notices⟩

/-- A pass clears the cells that it chooses, one after the other. -/
theorem Apart.reclaim_chosen (apart : memory.Apart) (registered : memory.Registered)
    (pressure : Pressure) :
    (memory.reclaim pressure).memory =
        (clearEach (memory.chosen pressure) none memory.live.2).1 ∧
      (memory.reclaim pressure).clearances =
        (clearEach (memory.chosen pressure) none memory.live.2).2.2 := by
  have listed := (swept_live memory).apart apart
  obtain ⟨weak, weakNotices⟩ := listed.clearEach_within registered.nodup_weakCandidates
    (fun cell member => (registered.mem_weakCandidates.1 member).1) pressure.budget
  obtain ⟨first, remains, -⟩ := apart.weakPass_swept registered pressure
  obtain ⟨recent, recentNotices⟩ := (first.apart apart).clearEach_within
    registered.nodup_recentCandidates (apart.recent_clearable registered pressure)
    (memory.weakPass pressure).2.1
  have portion := portion_eq_within pressure memory.weakCandidates memory.recentCandidates
  by_cases lenient : pressure = .weakOnly
  · rw [if_pos lenient, List.append_nil] at portion
    rw [chosen, portion, ← weak, ← weakNotices]
    simp only [reclaim, if_pos lenient, List.append_nil]
    exact ⟨trivial, trivial⟩
  · rw [if_neg lenient, ← remains] at portion
    rw [chosen, portion, clearEach_append, ← weak, ← weakNotices]
    simp only [reclaim, if_neg lenient]
    exact ⟨recent, congrArg _ recentNotices⟩

/-! ## Sorting what is left -/

theorem insertByUse_of_least
    (least : ∀ other ∈ cells, memory.lastUsed cell ≤ memory.lastUsed other) :
    memory.insertByUse cell cells = cell :: cells := by
  cases cells with
  | nil => rfl
  | cons head tail => rw [insertByUse, if_pos (least head List.mem_cons_self)]

theorem filter_insertByUse (sorted : cells.Pairwise fun first second =>
      memory.lastUsed first ≤ memory.lastUsed second) (kept : keep cell = true) :
    (memory.insertByUse cell cells).filter keep = memory.insertByUse cell (cells.filter keep) := by
  induction cells with
  | nil => simp [insertByUse, kept]
  | cons head tail ih =>
      obtain ⟨first, later⟩ := List.pairwise_cons.1 sorted
      rw [insertByUse]
      split
      next before =>
        have least : ∀ other ∈ (head :: tail).filter keep,
            memory.lastUsed cell ≤ memory.lastUsed other := by
          intro other member
          rcases List.mem_cons.1 (List.mem_filter.1 member).1 with rfl | behind
          · exact before
          · exact before.trans (first other behind)
        rw [List.filter_cons_of_pos kept, insertByUse_of_least least]
      next behind =>
        cases stays : keep head with
        | false =>
            rw [List.filter_cons_of_neg (by simp [stays]),
              List.filter_cons_of_neg (by simp [stays])]
            exact ih later
        | true =>
            rw [List.filter_cons_of_pos stays, List.filter_cons_of_pos stays, insertByUse,
              if_neg behind, ih later]

theorem filter_insertByUse_of_dropped (memory : Memory Row) (cells : List Nat)
    (dropped : keep cell = false) :
    (memory.insertByUse cell cells).filter keep = cells.filter keep := by
  induction cells with
  | nil => simp [insertByUse, dropped]
  | cons head tail ih =>
      rw [insertByUse]
      split
      next => exact List.filter_cons_of_neg (by simp [dropped])
      next => rw [List.filter_cons, List.filter_cons, ih]

/-- Cells used at one tick stay in order, so it does not matter whether cells are left out before
the others are sorted or afterwards. -/
theorem sortByUse_filter (memory : Memory Row) (keep : Nat → Bool) (cells : List Nat) :
    memory.sortByUse (cells.filter keep) = (memory.sortByUse cells).filter keep := by
  induction cells with
  | nil => rfl
  | cons head tail ih =>
      rw [sortByUse]
      cases kept : keep head with
      | false =>
          rw [filter_insertByUse_of_dropped _ _ kept, List.filter_cons_of_neg (by simp [kept]), ih]
      | true =>
          rw [filter_insertByUse (pairwise_sortByUse memory tail) kept,
            List.filter_cons_of_pos kept, sortByUse, ih]

theorem sortByUse_congr (same : ∀ cell, after.lastUsed cell = before.lastUsed cell)
    (cells : List Nat) : after.sortByUse cells = before.sortByUse cells := by
  rw [sortByUse_eq_insertionSort, sortByUse_eq_insertionSort]
  simp only [same]

/-! ## What a sweep leaves to be cleared -/

namespace Swept

theorem isReclaimable_eq (swept : before.Swept after cells) (apart : before.Apart) (cell : Nat) :
    after.isReclaimable cell = (decide (cell ∉ cells) && before.isReclaimable cell) := by
  by_cases chosen : cell ∈ cells
  · rw [decide_eq_false (not_not_intro chosen), Memory.isReclaimable, swept.slot?, if_pos chosen]
    rfl
  · rw [decide_eq_true chosen, swept.isReclaimable apart chosen]
    rfl

theorem candidates_eq (swept : before.Swept after cells) (apart : before.Apart) :
    after.candidates = before.candidates.filter (· ∉ cells) := by
  rw [Memory.candidates, Memory.candidates, List.filter_filter, swept.live]
  exact List.filter_congr fun cell _ => swept.isReclaimable_eq apart cell

theorem weakCandidates_eq (swept : before.Swept after cells) (apart : before.Apart) :
    after.weakCandidates = before.weakCandidates.filter (· ∉ cells) := by
  rw [Memory.weakCandidates, Memory.weakCandidates, swept.candidates_eq apart, List.filter_filter,
    List.filter_filter]
  exact List.filter_congr fun cell _ => by rw [swept.isRecentlyHeld, Bool.and_comm]

theorem recentCandidates_eq (swept : before.Swept after cells) (apart : before.Apart) :
    after.recentCandidates = before.recentCandidates.filter (· ∉ cells) := by
  rw [Memory.recentCandidates, Memory.recentCandidates, sortByUse_congr swept.lastUsed_eq,
    ← sortByUse_filter, swept.candidates_eq apart, List.filter_filter, List.filter_filter]
  refine congrArg _ (List.filter_congr fun cell _ => ?_)
  rw [swept.isRecentlyHeld, Bool.and_comm]

end Swept

/-! ## Two passes -/

/-- No cell could be cleared twice. -/
theorem Registered.nodup_due (registered : memory.Registered) :
    (memory.weakCandidates ++ memory.recentCandidates).Nodup := by
  refine List.nodup_append.2 ⟨registered.nodup_weakCandidates, registered.nodup_recentCandidates,
    fun cell weak other recent same => ?_⟩
  have held := (registered.mem_recentCandidates.1 recent).2
  rw [← same, (registered.mem_weakCandidates.1 weak).2] at held
  cases held

/-- A pass lists the cells that are there, and takes none of them away. -/
theorem Apart.live_reclaim (apart : memory.Apart) (registered : memory.Registered)
    (pressure : Pressure) :
    (memory.reclaim pressure).memory.live.2 = (memory.reclaim pressure).memory := by
  obtain ⟨swept, -⟩ := apart.reclaim_eq registered pressure
  obtain ⟨tables, clears⟩ := clears_reclaim memory pressure
  have present : (memory.reclaim pressure).memory.isPresent = memory.isPresent :=
    funext swept.isPresent_eq
  have pruned : (memory.reclaim pressure).memory.registry =
      memory.registry.prune memory.isPresent :=
    clears.shrinks.registry
  have again : (memory.registry.prune memory.isPresent).prune memory.isPresent =
      memory.registry.prune memory.isPresent :=
    congrArg (Registry.mk · memory.registry.capacity) (by
      rw [Registry.prune, List.filter_filter]
      exact List.filter_congr fun cell _ => Bool.and_self _)
  rw [live, present, pruned, again, ← pruned]

/-- What is left is due after a pass, in the same order. -/
theorem Apart.due_reclaim (apart : memory.Apart) (registered : memory.Registered)
    {pressure : Pressure}
    (due : memory.weakCandidates ++ memory.recentCandidates = memory.chosen pressure ++ rest) :
    (memory.reclaim pressure).memory.weakCandidates ++
      (memory.reclaim pressure).memory.recentCandidates = rest := by
  obtain ⟨swept, -⟩ := apart.reclaim_eq registered pressure
  have distinct := registered.nodup_due
  rw [due, List.nodup_append] at distinct
  rw [swept.weakCandidates_eq apart, swept.recentCandidates_eq apart, ← List.filter_append, due,
    List.filter_append]
  have gone : (memory.chosen pressure).filter (· ∉ memory.chosen pressure) = [] :=
    List.filter_eq_nil_iff.2 fun cell member => by simp [member]
  have left : rest.filter (· ∉ memory.chosen pressure) = rest :=
    List.filter_eq_self.2 fun cell member => decide_eq_true fun chosen =>
      distinct.2.2 cell chosen cell member rfl
  exact (congrArg₂ (· ++ ·) gone left).trans (List.nil_append rest)

/-- The next pass goes on where the first one stopped. -/
theorem Apart.chosen_reclaim (apart : memory.Apart) (registered : memory.Registered)
    {first second : Pressure} (thorough : second ≠ .weakOnly)
    (due : memory.weakCandidates ++ memory.recentCandidates = memory.chosen first ++ rest) :
    (memory.reclaim first).memory.chosen second = within second.budget rest := by
  rw [chosen, Pressure.portion_of_ne thorough, apart.due_reclaim registered due]

/-- Two bounded passes choose what one does that has both their bounds. -/
theorem Apart.chosen_bounded (apart : memory.Apart) (registered : memory.Registered)
    (first second : Nat) :
    memory.chosen (.bounded first) ++
        (memory.reclaim (.bounded first)).memory.chosen (.bounded second) =
      memory.chosen (.bounded (first + second)) := by
  have thorough : Pressure.bounded second ≠ .weakOnly := nofun
  rw [apart.chosen_reclaim registered thorough (List.take_append_drop first _).symm]
  exact List.take_add.symm

/-- What a pass spares because it is in recent use is all that is left for a full one. -/
theorem Apart.chosen_full (apart : memory.Apart) (registered : memory.Registered) :
    memory.chosen .weakOnly ++ (memory.reclaim .weakOnly).memory.chosen .full =
      memory.chosen .full := by
  have thorough : Pressure.full ≠ .weakOnly := nofun
  rw [apart.chosen_reclaim registered thorough rfl]
  rfl

/-- A pass that chooses what two others choose one after the other does what they do. -/
theorem Apart.reclaim_reclaim (apart : memory.Apart) (registered : memory.Registered)
    {first second whole : Pressure}
    (joined : memory.chosen first ++ (memory.reclaim first).memory.chosen second =
      memory.chosen whole) :
    ((memory.reclaim first).memory.reclaim second).memory = (memory.reclaim whole).memory ∧
      (memory.reclaim first).clearances ++
          ((memory.reclaim first).memory.reclaim second).clearances =
        (memory.reclaim whole).clearances ∧
      (memory.reclaim whole).report =
        ⟨(memory.reclaim first).report.weakCleared +
            ((memory.reclaim first).memory.reclaim second).report.weakCleared,
          (memory.reclaim first).report.recentCleared +
            ((memory.reclaim first).memory.reclaim second).report.recentCleared⟩ := by
  obtain ⟨swept, -, report⟩ := apart.reclaim_eq registered first
  have middle := swept.apart apart
  have still := registered.reclaim first
  obtain ⟨memories, notices⟩ := apart.reclaim_chosen registered first
  obtain ⟨lasts, others⟩ := middle.reclaim_chosen still second
  obtain ⟨wholes, all⟩ := apart.reclaim_chosen registered whole
  obtain ⟨-, -, counts⟩ := middle.reclaim_eq still second
  obtain ⟨-, -, totals⟩ := apart.reclaim_eq registered whole
  rw [apart.live_reclaim registered] at lasts others
  rw [← joined, clearEach_append, ← memories] at wholes all
  refine ⟨lasts.trans wholes.symm, ?_, ?_⟩
  · rw [notices, others, all]
  · have held : (memory.reclaim first).memory.isRecentlyHeld = memory.isRecentlyHeld :=
      funext swept.isRecentlyHeld
    rw [totals, report, counts, held]
    show Report.mk ((memory.chosen whole).countP _) ((memory.chosen whole).countP _) = _
    rw [← joined, List.countP_append, List.countP_append]
    rfl

/-- A pass that chooses what another chooses does what that does. -/
theorem Apart.reclaim_congr (apart : memory.Apart) (registered : memory.Registered)
    {first second : Pressure} (same : memory.chosen first = memory.chosen second) :
    (memory.reclaim first).memory = (memory.reclaim second).memory ∧
      (memory.reclaim first).clearances = (memory.reclaim second).clearances ∧
      (memory.reclaim first).report = (memory.reclaim second).report := by
  obtain ⟨memories, notices⟩ := apart.reclaim_chosen registered first
  obtain ⟨others, later⟩ := apart.reclaim_chosen registered second
  obtain ⟨-, -, report⟩ := apart.reclaim_eq registered first
  obtain ⟨-, -, count⟩ := apart.reclaim_eq registered second
  rw [← same] at others later
  refine ⟨memories.trans others.symm, notices.trans later.symm,
    report.trans (Eq.trans ?_ count.symm)⟩
  show Report.mk ((memory.chosen first).countP _) ((memory.chosen first).countP _) = _
  rw [same]
  rfl

/-! ## Counts -/

theorem length_weakCandidates (memory : Memory Row) :
    memory.weakCandidates.length = memory.live.1.countP fun cell =>
      memory.isReclaimable cell && !memory.isRecentlyHeld cell := by
  rw [weakCandidates, candidates, List.filter_filter, List.countP_eq_length_filter]
  exact congrArg List.length (List.filter_congr fun cell _ => Bool.and_comm _ _)

theorem reclaimable_eq (memory : Memory Row) :
    memory.reclaimable.1 = (memory.weakCandidates ++ memory.recentCandidates).length := by
  rw [List.length_append, recentCandidates, (perm_sortByUse memory _).length_eq, weakCandidates,
    Nat.add_comm, ← List.countP_eq_length_filter, ← List.countP_eq_length_filter]
  have counted := List.length_eq_countP_add_countP memory.isRecentlyHeld (l := memory.candidates)
  simp only [Bool.not_eq_true, Bool.decide_eq_false] at counted
  exact List.countP_eq_length_filter.trans counted

/-- A pass reports every cell that it chooses once. -/
theorem Apart.length_chosen (apart : memory.Apart) (registered : memory.Registered)
    (pressure : Pressure) :
    (memory.reclaim pressure).report.weakCleared + (memory.reclaim pressure).report.recentCleared =
      (memory.chosen pressure).length := by
  obtain ⟨-, notices, -⟩ := apart.reclaim_eq registered pressure
  rw [(report_reclaim memory pressure).1, notices, List.length_map]
  rfl

/-- A pass takes what it clears off what could be cleared. -/
theorem Apart.reclaimable_reclaim (apart : memory.Apart) (registered : memory.Registered)
    (pressure : Pressure) :
    (memory.reclaim pressure).memory.reclaimable.1 +
        ((memory.reclaim pressure).report.weakCleared +
          (memory.reclaim pressure).report.recentCleared) =
      memory.reclaimable.1 := by
  obtain ⟨rest, due⟩ := pressure.portion_append memory.weakCandidates memory.recentCandidates
  rw [apart.length_chosen registered, reclaimable_eq, reclaimable_eq,
    apart.due_reclaim registered due, due, List.length_append, Nat.add_comm]
  rfl

/-- A bounded pass keeps to its bound. -/
theorem Apart.report_bounded_le (apart : memory.Apart) (registered : memory.Registered)
    (count : Nat) :
    (memory.reclaim (.bounded count)).report.weakCleared +
      (memory.reclaim (.bounded count)).report.recentCleared ≤ count := by
  rw [apart.length_chosen registered]
  exact List.length_take_le _ _

/-! ## Logs -/

/-- The log of a pass tells of the cleared tables in the order in which they were cleared. -/
theorem filter_events_reclaim (memory : Memory Row) (pressure : Pressure) :
    (memory.reclaim pressure).events.filter Event.isClearing =
      (memory.reclaim pressure).clearances.map Clearance.event := by
  have weak : ∀ clearances : List Clearance,
      (∀ clearance ∈ clearances, clearance.recentlyUsed = false) →
      (clearances.map fun clearance => Event.reclaimedWeak clearance.keyId).filter
        Event.isClearing = clearances.map Clearance.event := by
    intro clearances spared
    rw [List.filter_eq_self.2 (by simp [Event.isClearing])]
    exact List.map_congr_left fun clearance member => by
      rw [Clearance.event, spared clearance member, if_neg nofun]
  have recent : ∀ clearances : List Clearance,
      (∀ clearance ∈ clearances, clearance.recentlyUsed = true) →
      (clearances.map fun clearance => Event.reclaimedRecent clearance.keyId).filter
        Event.isClearing = clearances.map Clearance.event := by
    intro clearances used
    rw [List.filter_eq_self.2 (by simp [Event.isClearing])]
    exact List.map_congr_left fun clearance member => by
      rw [Clearance.event, if_pos (used clearance member)]
  have finished : ∀ (some : Prop) [Decidable some] (report : Report),
      (if some then [Event.passFinished pressure report] else []).filter Event.isClearing = [] := by
    intro some _ report
    split <;> rfl
  have first := weak _ (recentlyUsed_weakPass memory pressure)
  by_cases lenient : pressure = .weakOnly
  · simp only [reclaim, if_pos lenient, List.filter_append, List.append_nil, List.map_nil, finished]
    exact first
  · simp only [reclaim, if_neg lenient, List.filter_append, finished, List.append_nil,
      List.map_append]
    exact congrArg₂ (· ++ ·) first (recent _ (recentlyUsed_recentPass memory pressure))

end Memory

end TableCache
