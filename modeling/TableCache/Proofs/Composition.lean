import TableCache.Proofs.Eviction
import TableCache.Proofs.Memory.Resumption
import TableCache.Proofs.Passes

/-!
# Reclaim passes compose

Two passes that come one after the other do what a single one does, if its bound is the sum of
theirs, or if the first of them spares what is in recent use and the second does not. A full pass is
a bounded one whose bound is not too low, and so is a pass that spares what is in recent use. A pass
reports by how much there is less to be cleared.

All this is said of whoever can ask for passes (`Manager`): of the steps in a history of cells, and
of the acts on an engine, or on what is left of one after it was closed.

Main definitions:

1. `Manager`: how passes are asked for;
2. `Manager.Alike`, `Manager.Joins`: a pass does what another one does, or two others;
3. `Manager.Composes`: passes compose;
4. `Manager.Settles`: the passes are those of a memory, and their notices join a queue.

Main statements:

1. `Manager.Settles.composes`: then they compose;
2. `passes_compose`: after any history, and for every engine after any run.
-/

namespace TableCache

universe u v w

variable {Row : Type u} {σ : Type v} {α : Type w}

/-- Reports whose sums are words can be merged. -/
theorem Report.merge?_eq_some {one other both : Report}
    (sum : both = ⟨one.weakCleared + other.weakCleared, one.recentCleared + other.recentCleared⟩)
    (weak : both.weakCleared ≤ Word.max) (recent : both.recentCleared ≤ Word.max) :
    one.merge? other = some both := by
  subst sum
  have room : Word.max < Word.limit := by decide
  have first := Word.add?_eq_some_iff.2 ⟨rfl, weak.trans_lt room⟩
  have second := Word.add?_eq_some_iff.2 ⟨rfl, recent.trans_lt room⟩
  simp only [merge?, first, second]
  rfl

/-- Who asks for passes: the memory that they go over, a pass and its report, and the count of what
could be cleared. -/
structure Manager (Row : Type u) (σ : Type v) (α : Type w) where
  memory : σ → Memory Row
  pass : Pressure → σ → Reply σ α
  count : σ → Reply σ α
  report : Report → α
  number : Nat → α

namespace Manager

/-- Two passes leave the same state, answer with the same report, and log the same tables in the
same order as cleared. -/
structure Alike (first second : Reply σ α) : Prop where
  state : first.state = second.state
  result : first.result = second.result
  log : first.events.filter Event.isClearing = second.events.filter Event.isClearing

/-- A pass and the one that directly follows it clear the cells that another one clears, in the same
order, with the same log and the same state in the end, the notices that wait included. -/
structure Joins (manager : Manager Row σ α) (state : σ) (first second whole : Pressure)
    (one other both : Report) : Prop where
  left : (manager.pass second (manager.pass first state).state).state =
    (manager.pass whole state).state
  cells : (manager.memory state).chosen first ++
      (manager.memory (manager.pass first state).state).chosen second =
    (manager.memory state).chosen whole
  log : ((manager.pass first state).events ++
        (manager.pass second (manager.pass first state).state).events).filter Event.isClearing =
    (manager.pass whole state).events.filter Event.isClearing
  firstReport : (manager.pass first state).result = .ok (manager.report one)
  secondReport : (manager.pass second (manager.pass first state).state).result =
    .ok (manager.report other)
  wholeReport : (manager.pass whole state).result = .ok (manager.report both)

/-- Passes over a memory compose. A sum of two counts is a word if the bounds of the passes have a
sum that is one; without bounds it is one if what they clear together can be counted by a word. -/
structure Composes (manager : Manager Row σ α) (state : σ) : Prop where
  /-- A pass clears the cells that it chooses. -/
  swept : ∀ pressure, (manager.memory state).Swept
    (manager.memory (manager.pass pressure state).state) ((manager.memory state).chosen pressure)
  /-- A bounded pass goes on where another one stopped. -/
  bounded : ∀ first second, first + second ≤ Word.max → ∃ one other both,
    manager.Joins state (.bounded first) (.bounded second) (.bounded (first + second)) one other
        both ∧
      one.merge? other = some both
  /-- A full pass is a bounded one that is allowed to clear what could be cleared. -/
  full : ∃ clearable, (manager.count state).result = .ok (manager.number clearable) ∧
    ∀ count, clearable ≤ count →
      Alike (manager.pass .full state) (manager.pass (.bounded count) state)
  /-- A pass that spares what is in recent use is a bounded one that is allowed to clear the
  rest. -/
  weakOnly : Alike (manager.pass .weakOnly state)
    (manager.pass
      (.bounded ((manager.memory state).live.1.countP fun cell =>
        (manager.memory state).isReclaimable cell && !(manager.memory state).isRecentlyHeld cell))
      state)
  /-- A full pass can be made after one that spares what is in recent use. -/
  thorough : ∃ one other both,
    manager.Joins state .weakOnly .full .full one other both ∧
      (both.weakCleared ≤ Word.max → both.recentCleared ≤ Word.max →
        one.merge? other = some both)
  /-- What a pass reports is what could be cleared before and cannot be any more. -/
  drop : ∀ pressure, ∃ report before after,
    (manager.pass pressure state).result = .ok (manager.report report) ∧
      (manager.count state).result = .ok (manager.number before) ∧
      (manager.count (manager.pass pressure state).state).result = .ok (manager.number after) ∧
      after + (report.weakCleared + report.recentCleared) = before ∧
      (before ≤ Word.max → report.total? = some (before - after))

/-- The passes are those of a memory. What a pass leaves of it is put back, and its notices are
posted after those that wait. -/
structure Settles (manager : Manager Row σ α) (settle : Memory Row → List Clearance → σ) :
    Prop where
  memory : ∀ memory clearances, manager.memory (settle memory clearances) = memory
  pass : ∀ memory clearances pressure,
    manager.pass pressure (settle memory clearances) =
      .logged
        (settle (memory.reclaim pressure).memory
          (clearances ++ (memory.reclaim pressure).clearances))
        (memory.reclaim pressure).events (manager.report (memory.reclaim pressure).report)
  count : ∀ memory clearances,
    (manager.count (settle memory clearances)).result = .ok (manager.number memory.reclaimable.1)

namespace Settles

variable {manager : Manager Row σ α} {settle : Memory Row → List Clearance → σ}
  {memory : Memory Row} {first second whole : Pressure}

open Memory

theorem alike (settles : manager.Settles settle) (apart : memory.Apart)
    (registered : memory.Registered) (same : memory.chosen first = memory.chosen second) :
    Alike (manager.pass first (settle memory [])) (manager.pass second (settle memory [])) := by
  obtain ⟨memories, notices, report⟩ := apart.reclaim_congr registered same
  rw [settles.pass, settles.pass]
  refine ⟨?_, ?_, ?_⟩
  · simp only [Reply.logged, memories, notices]
  · simp only [Reply.logged, report]
  · simp only [Reply.logged, filter_events_reclaim, notices]

theorem joins (settles : manager.Settles settle) (apart : memory.Apart)
    (registered : memory.Registered)
    (joined : memory.chosen first ++ (memory.reclaim first).memory.chosen second =
      memory.chosen whole) :
    manager.Joins (settle memory []) first second whole (memory.reclaim first).report
      ((memory.reclaim first).memory.reclaim second).report (memory.reclaim whole).report := by
  obtain ⟨memories, notices, -⟩ := apart.reclaim_reclaim registered joined
  constructor
  · simp only [settles.pass, Reply.logged, memories, List.nil_append, notices]
  · simp only [settles.pass, Reply.logged, settles.memory]
    exact joined
  · simp only [settles.pass, Reply.logged, List.filter_append, filter_events_reclaim]
    rw [← List.map_append, notices]
  all_goals simp only [settles.pass, Reply.logged]

/-- Passes over a memory compose if no two of its cells have the same table and every cell is
registered once. -/
theorem composes (settles : manager.Settles settle) (apart : memory.Apart)
    (registered : memory.Registered) : manager.Composes (settle memory []) where
  swept := fun pressure => by
    rw [settles.pass]
    simp only [Reply.logged, settles.memory]
    exact (apart.reclaim_eq registered pressure).1
  bounded := fun first second fits => by
    have joined := apart.chosen_bounded registered first second
    obtain ⟨-, -, sum⟩ := apart.reclaim_reclaim registered joined
    have bound := apart.report_bounded_le registered (first + second)
    exact ⟨_, _, _, settles.joins apart registered joined,
      Report.merge?_eq_some sum (by omega) (by omega)⟩
  full := by
    refine ⟨_, settles.count memory [], fun count enough => settles.alike apart registered ?_⟩
    rw [reclaimable_eq] at enough
    exact (List.take_of_length_le enough).symm
  weakOnly := by
    refine settles.alike apart registered ?_
    rw [settles.memory, ← length_weakCandidates]
    exact List.take_left.symm
  thorough := by
    have joined := apart.chosen_full registered
    obtain ⟨-, -, sum⟩ := apart.reclaim_reclaim registered joined
    exact ⟨_, _, _, settles.joins apart registered joined, Report.merge?_eq_some sum⟩
  drop := fun pressure => by
    have left := apart.reclaimable_reclaim registered pressure
    refine ⟨_, _, _, by rw [settles.pass]; rfl, settles.count memory [], ?_, left, fun fits => ?_⟩
    · rw [settles.pass]
      exact settles.count _ _
    · have room : Word.max < Word.limit := by decide
      exact Word.add?_eq_some_iff.2 ⟨by omega, by omega⟩

end Settles

end Manager

/-! ## Histories of cells -/

namespace Cells

/-- Passes as steps of a history. -/
def manager : Manager Unit History Answer where
  memory := History.memory
  pass pressure history := history.step (.reclaim pressure)
  count history := history.step .reclaimable
  report := .report
  number := .number

theorem settles (history : History) :
    manager.Settles fun memory clearances => (history.withMemory memory).post clearances where
  memory := fun _ _ => rfl
  pass := fun memory clearances pressure => by
    show Reply.logged _ _ _ = _
    simp only [History.post, History.withMemory, Option.map_map, Function.comp_def,
      List.append_assoc]
    rfl
  count := fun _ _ => rfl

theorem composes_after (steps : List Step) :
    manager.Composes (finalState History.step .create steps) := by
  have start : History.create.memory.Orderly History.create.clock := Memory.orderly_empty 1
  have orderly := History.orderly_finalState steps start
  have same : ((finalState History.step .create steps).withMemory
      (finalState History.step .create steps).memory).post [] =
        finalState History.step .create steps := by
    simp only [History.post, History.withMemory, List.append_nil, Option.map_id']
  rw [← same]
  exact (settles _).composes orderly.apart orderly.registered

end Cells

/-! ## Engines, running and closed -/

/-- What a pass leaves of an engine: another memory, and notices in the queue of the recorder. -/
def Cache.settle (cache : Cache Row) (memory : Memory Row) (clearances : List Clearance) :
    Cache Row :=
  match cache with
  | .running engine =>
      .running
        { engine with
          store := { engine.store with memory := memory }
          recorder := engine.recorder.post clearances }
  | .closed _ => .closed memory

theorem Cache.reclaim_settle (cache : Cache Row) (memory : Memory Row)
    (clearances : List Clearance) (pressure : Pressure) :
    (cache.settle memory clearances).reclaim pressure =
      .logged
        (cache.settle (memory.reclaim pressure).memory
          (clearances ++ (memory.reclaim pressure).clearances))
        (memory.reclaim pressure).events (.report (memory.reclaim pressure).report) := by
  cases cache with
  | running engine =>
      show Reply.logged _ _ _ = _
      simp only [settle, Recorder.post, ← List.append_assoc]
      rfl
  | closed left => rfl

namespace System

variable {acts : List (Act Row)} {number : Nat} {cache : Cache Row}

/-- Passes as acts on one engine. -/
def manager (number : Nat) : Manager Row (System Row) Response where
  memory system := (system.caches[number]?.map Cache.memory).getD .empty
  pass pressure system := system.step (.reclaim number pressure)
  count system := system.step (.reclaimable number)
  report := .report
  number := .number

theorem memory_apart_after (there : (after acts).caches[number]? = some cache) :
    cache.memory.Apart := by
  have sound := (sound_after acts).caches number cache there
  intro first second table one other
  cases cache with
  | running engine => exact sound.store.slot_inj one other
  | closed memory => exact Memory.Backs.slot_inj sound one other

theorem settles {system : System Row} (there : system.caches[number]? = some cache) :
    (manager number).Settles fun memory clearances =>
      system.setCache number (cache.settle memory clearances) := by
  have found : ∀ next, (system.setCache number next).caches[number]? = some next := fun next =>
    (getElem?_setCache system there next number).trans (if_pos rfl)
  have again : ∀ one next, (system.setCache number one).setCache number next =
      system.setCache number next := fun one next => by
    simp only [setCache, List.set_set]
  have memory : ∀ memory clearances, (cache.settle memory clearances).memory = memory := by
    intro memory clearances
    cases cache <;> rfl
  refine ⟨fun left clearances => ?_, fun left clearances pressure => ?_, fun left clearances => ?_⟩
  · show (Option.map _ _).getD _ = left
    rw [found]
    exact memory left clearances
  · show manage _ _ _ = _
    unfold manage
    rw [found]
    simp only [Cache.reclaim_settle, Reply.within, Reply.logged, again]
    rfl
  · show (manage _ _ _).result = _
    unfold manage
    rw [found]
    show Except.ok (Response.number _) = _
    rw [memory]
    rfl

theorem composes_after (there : (after acts).caches[number]? = some cache) :
    (manager number).Composes (after acts) := by
  have same : (after acts).setCache number (cache.settle cache.memory []) = after acts := by
    have unchanged : cache.settle cache.memory [] = cache := by
      cases cache with
      | running engine => simp only [Cache.settle, Cache.memory, Recorder.post, List.append_nil]
      | closed memory => rfl
    obtain ⟨room, found⟩ := List.getElem?_eq_some_iff.1 there
    rw [unchanged, setCache, ← found, List.set_getElem_self]
  rw [← same]
  exact (settles there).composes (memory_apart_after there) (memory_registered_after there)

end System

/-- Whatever was done to some cells, passes over them compose. Whatever was done to an engine, they
compose too, whether it is running or was closed. -/
theorem passes_compose :
    (∀ steps, Cells.manager.Composes (finalState Cells.History.step .create steps)) ∧
    ∀ (acts : List (Act Row)) number, number < (System.after acts).caches.length →
      (System.manager number).Composes (System.after acts) :=
  ⟨Cells.composes_after, fun _ _ there =>
    System.composes_after (List.getElem?_eq_getElem there)⟩

/-- Three cells, of which the first one is in recent use. -/
def Cells.assorted : List Cells.Step :=
  [.create "a" 1 3, .create "b" 2 1, .create "c" 3 2, .openRecent "h" "a"]

/-- Three tables that may be reclaimed, of which the last one is in recent use. -/
def System.assorted : List (Act Nat) :=
  [.createKey "a", .createKey "b", .createKey "c", .build ⟨1, 300⟩, .ask 0 (.put 1 [7, 8]),
    .ask 0 (.put 2 [9]), .ask 0 (.put 3 [5]), .ask 0 (.clear 1 true), .ask 0 (.clear 2 true),
    .ask 0 (.clear 3 true), .dropHold ⟨0, 0⟩, .dropHold ⟨0, 1⟩, .dropHold ⟨0, 2⟩]

/-- A pass with a bound of one and then a pass with a bound of two clear all three cells, as a pass
with a bound of three does. A pass that spares the table in recent use and then a full one leave of
the engine what a full one leaves. -/
theorem passes_compose_assorted :
    let cells := finalState Cells.History.step .create Cells.assorted
    let system := System.after System.assorted
    (((cells.step (.reclaim (.bounded 1))).state.step (.reclaim (.bounded 2))).state =
        (cells.step (.reclaim (.bounded 3))).state ∧
      (cells.step (.reclaim (.bounded 3))).result = .ok (.report ⟨2, 1⟩)) ∧
    ((system.step (.reclaim 0 .weakOnly)).state.step (.reclaim 0 .full)).state =
        (system.step (.reclaim 0 .full)).state ∧
      (system.step (.reclaim 0 .full)).result = .ok (.report ⟨2, 1⟩) := by
  obtain ⟨cells, engines⟩ := @passes_compose Nat
  obtain ⟨_, _, _, bounded, -⟩ := (cells Cells.assorted).bounded 1 2 (by decide)
  obtain ⟨_, _, _, thorough, -⟩ := (engines System.assorted 0 (by decide)).thorough
  exact ⟨⟨bounded.left, rfl⟩, thorough.left, rfl⟩

end TableCache
