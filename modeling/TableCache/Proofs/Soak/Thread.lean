import TableCache.Proofs.Soak.Rounds
import TableCache.Proofs.Soak.Yields
import TableCache.Soak.Run

/-!
# Tasks that share one thread

A task keeps the thread until it gives it up. Producers, the reclaimer and whoever cancels the soak
give it up with every action. A consumer goes through its loop without a pause: it gives the thread
up when it yields, when nothing is published, and when the soak was cancelled. As a consumer yields
in time, the thread is free again after at most sixty-four steps, and the runtime can then resume
any task it likes.

Main definitions:

1. `State.findsOf`: the directories that a consumer finds in a soak;
2. `Thread`, `Thread.step`: a thread, and what happens on it;
3. `Thread.stepsLeft`: how long the thread is not free.

Main statements:

1. `State.follows_laps`: whatever other tasks do, a consumer goes through the laps of its loop;
2. `Thread.freed_within`: the thread is free in time;
3. `Thread.takeTurn_eq`: a turn of a consumer is what it does from getting the thread to giving it
   up;
4. `consumers_yield_in_time`: these together, with the laps of the loop.
-/

namespace TableCache.Soak

namespace State

/-- The directory that a consumer finds by an action, if it goes through a lap of its loop. -/
def finds? (state : State) (consumer : Nat) : Action → Option (List Nat)
  | .lookup other _ =>
      if other = consumer ∧ state.isCancelled = false then
        match state.consumers[consumer]? with
        | some (.next _) => some state.directory
        | _ => none
      else none
  | _ => none

/-- The directories that a consumer finds by some actions, in order. -/
def findsOf (consumer : Nat) : List Action → State → List (List Nat)
  | [], _ => []
  | action :: rest, state =>
      (state.finds? consumer action).toList ++ findsOf consumer rest (state.act action).state

variable {state : State} {action : Action} {actions : List Action} {consumer cursor now : Nat}

/-! ## Laps in a soak -/

/-- A lap of a consumer is a look-up in a soak that was not cancelled, with what is published. -/
theorem lookup_of_finds? {directory : List Nat}
    (found : state.finds? consumer action = some directory) :
    (∃ now, action = .lookup consumer now) ∧ state.isCancelled = false ∧
      directory = state.directory := by
  unfold finds? at found
  split at found
  next other now =>
    split at found
    next both =>
      obtain ⟨rfl, running⟩ := both
      split at found
      next => exact ⟨⟨now, rfl⟩, running, (Option.some.inj found).symm⟩
      next => cases found
    next => cases found
  next => cases found

/-- An action that is no lap of a consumer reads nothing for it. -/
theorem reads?_of_finds? (nothing : state.finds? consumer action = none) :
    state.reads? consumer action = none := by
  unfold finds? at nothing
  unfold reads?
  split
  next =>
    split
    next both =>
      simp only [if_pos both] at nothing
      split
      next there => simp [there] at nothing
      next => rfl
    next => rfl
  next => rfl

/-- A lap of a consumer in a soak. -/
theorem act_lookup (done : (state.act (.lookup consumer now)).result = .ok ())
    (there : state.consumers[consumer]? = some (.next cursor))
    (running : state.isCancelled = false) :
    state.reads? consumer (.lookup consumer now) =
        (Consumer.lap state.directory cursor).keyId? ∧
      (state.act (.lookup consumer now)).state.consumers[consumer]? =
        some (.next (Consumer.follow state.directory cursor)) := by
  have reads : state.reads? consumer (.lookup consumer now) =
      Consumer.pick state.directory cursor := by
    rw [reads?, if_pos ⟨rfl, running⟩, there]
  have steps := steps_act done
  rw [reads, Consumer.lap, Consumer.follow]
  generalize (state.act (.lookup consumer now)).state.consumers = consumers at steps ⊢
  cases steps with
  | idle nothing =>
      rw [← reads, nothing consumer]
      exact ⟨rfl, there⟩
  | @read _ other keyId _ _ there' picked =>
      rw [there] at there'
      cases there'
      obtain ⟨room, -⟩ := Array.getElem?_eq_some_iff.1 there
      rw [picked]
      exact ⟨rfl, Array.getElem?_setIfInBounds_self_of_lt room⟩

theorem findsOf_of_done (done : (actAll actions state).result = .ok ())
    (ended : state.consumers[consumer]? = some .done) : findsOf consumer actions state = [] := by
  induction actions generalizing state with
  | nil => rfl
  | cons action rest ih =>
      obtain ⟨first, others, -⟩ := actAll_cons done
      have nothing : state.finds? consumer action = none := by
        unfold finds?
        split
        next => rw [ended]; exact ite_self none
        next => rfl
      rw [findsOf, nothing, ih others (done_act first ended)]
      rfl

theorem done_actAll (done : (actAll actions state).result = .ok ())
    (ended : state.consumers[consumer]? = some .done) :
    (actAll actions state).state.consumers[consumer]? = some .done := by
  induction actions generalizing state with
  | nil => exact ended
  | cons action rest ih =>
      obtain ⟨first, others, state'⟩ := actAll_cons done
      rw [state']
      exact ih others (done_act first ended)

/-- Whatever other tasks do in between, a consumer goes through the laps of its loop with the
directories that it finds, until it ends. -/
theorem follows_laps (done : (actAll actions state).result = .ok ())
    (there : state.consumers[consumer]? = some (.next cursor)) :
    readsOf consumer actions state =
        (Consumer.laps (findsOf consumer actions state) cursor).filterMap Consumer.Lap.keyId? ∧
      ((actAll actions state).state.consumers[consumer]? =
          some (.next (Consumer.followAll (findsOf consumer actions state) cursor)) ∨
        (actAll actions state).state.consumers[consumer]? = some .done) := by
  induction actions generalizing state cursor with
  | nil => exact ⟨rfl, .inl there⟩
  | cons action rest ih =>
      obtain ⟨first, others, state'⟩ := actAll_cons done
      rw [state', readsOf, findsOf]
      cases found : state.finds? consumer action with
      | none =>
          rw [reads?_of_finds? found]
          rcases next_act first there with ⟨keyId, reads, -⟩ | ⟨-, stays | ends⟩
          · rw [reads?_of_finds? found] at reads
            cases reads
          · exact ih others stays
          · rw [readsOf_of_done others ends, findsOf_of_done others ends]
            exact ⟨rfl, .inr (done_actAll others ends)⟩
      | some directory =>
          obtain ⟨⟨now, rfl⟩, running, rfl⟩ := lookup_of_finds? found
          obtain ⟨reads, moved⟩ := act_lookup first there running
          obtain ⟨later, last⟩ := ih others moved
          refine ⟨?_, last⟩
          rw [reads, later, Option.toList_some, List.singleton_append, Consumer.laps,
            List.filterMap_cons]
          cases (Consumer.lap state.directory cursor).keyId? <;> rfl

/-- A lap neither publishes anything nor cancels the soak. -/
theorem frame_lookup (done : (state.act (.lookup consumer now)).result = .ok ()) :
    (state.act (.lookup consumer now)).state.directory = state.directory ∧
      (state.act (.lookup consumer now)).state.isCancelled = state.isCancelled := by
  generalize same : state.act (.lookup consumer now) = reply at done ⊢
  simp only [act] at same
  split at same
  next cursor _ =>
    split at same
    next keyId _ _ =>
      subst same
      cases found : (state.cache.lookup keyId now).result with
      | ok found' => rw [(lookupKey_of_ok found).2]; exact ⟨rfl, rfl⟩
      | error fault => simp [lookupKey_of_error found] at done
    next => subst same; exact ⟨rfl, rfl⟩
  next => subst same; exact ⟨rfl, rfl⟩

/-! ## Having the thread -/

/-- What a consumer does when it has the thread: it ends if the soak was cancelled, and else it goes
through a lap. -/
def nextAction (state : State) (consumer now : Nat) : Action :=
  if state.isCancelled then .stopConsumer consumer else .lookup consumer now

/-- Whether a consumer keeps the thread after that. -/
def keepsThread (state : State) (consumer : Nat) : Bool :=
  match state.consumers[consumer]? with
  | some (.next cursor) => !state.isCancelled && (Consumer.lap state.directory cursor).goesOn
  | _ => false

theorem keepsThread_of_next (there : state.consumers[consumer]? = some (.next cursor))
    (running : state.isCancelled = false) :
    state.keepsThread consumer = (Consumer.lap state.directory cursor).goesOn := by
  rw [keepsThread, there]
  simp only [running, Bool.not_false, Bool.true_and]

/-- A consumer that keeps the thread is at a cursor, and the soak goes on. -/
theorem next_of_keepsThread (keeps : state.keepsThread consumer = true) :
    ∃ cursor, state.consumers[consumer]? = some (.next cursor) ∧ state.isCancelled = false ∧
      (Consumer.lap state.directory cursor).goesOn = true := by
  unfold keepsThread at keeps
  split at keeps
  next cursor there =>
    rw [Bool.and_eq_true, Bool.not_eq_true'] at keeps
    exact ⟨cursor, there, keeps⟩
  next => cases keeps

end State

/-- One thread for all tasks of a soak: the soak, and the consumer that has the thread, if one
does. -/
structure Thread where
  state : State
  holder : Option Nat

/-- What the runtime does once the thread is free. -/
inductive Resumption where
  /-- A consumer gets the thread. -/
  | consumer (consumer : Nat)
  /-- A task takes an action and gives the thread up again. -/
  | other (action : Action)

namespace Thread

variable {thread : Thread} {state : State} {consumer cursor : Nat}

/-- What happens on a thread at a time. As long as a consumer keeps it the runtime does not come to
its turn. -/
def step (thread : Thread) (resumption : Resumption) (now : Nat) : Reply Thread Unit :=
  match thread.holder with
  | some consumer =>
      (thread.state.act (thread.state.nextAction consumer now)).within fun state =>
        ⟨state, if thread.state.keepsThread consumer then some consumer else none⟩
  | none =>
      match resumption with
      | .consumer consumer => .ok { thread with holder := some consumer } ()
      | .other action => (thread.state.act action).within fun state => ⟨state, none⟩

/-- Some steps in order, up to the first fault, with what the runtime would do and the time. -/
def run : List (Resumption × Nat) → Thread → Reply Thread Unit
  | [], thread => .ok thread ()
  | (resumption, now) :: rest, thread =>
      (thread.step resumption now).andThen fun thread _ => run rest thread

theorem run_cons {resumption : Resumption} {now : Nat} (rest : List (Resumption × Nat))
    (done : (thread.step resumption now).result = .ok ()) :
    (run ((resumption, now) :: rest) thread).result =
        (run rest (thread.step resumption now).state).result ∧
      (run ((resumption, now) :: rest) thread).state =
        (run rest (thread.step resumption now).state).state := by
  rw [run, Reply.andThen_of_ok done]
  exact ⟨rfl, rfl⟩

/-- A step of a consumer that is at a cursor. -/
theorem step_of_next {resumption : Resumption} {now : Nat}
    (there : state.consumers[consumer]? = some (.next cursor))
    (running : state.isCancelled = false) :
    step ⟨state, some consumer⟩ resumption now =
      (state.act (.lookup consumer now)).within fun after =>
        ⟨after, if (Consumer.lap state.directory cursor).goesOn then some consumer else none⟩ := by
  have keeps := State.keepsThread_of_next there running
  simp only [step, State.nextAction, running, keeps, Bool.false_eq_true, if_false]

/-! ## The thread is free in time -/

/-- How many steps the thread is not free, if nothing intervenes. -/
def stepsLeft (thread : Thread) : Nat :=
  match thread.holder with
  | none => 0
  | some consumer =>
      match thread.state.consumers[consumer]? with
      | some (.next cursor) => Consumer.lookupsLeft cursor
      | _ => 1

theorem stepsLeft_le (thread : Thread) : thread.stepsLeft ≤ 64 := by
  unfold stepsLeft
  split
  next => exact Nat.zero_le _
  next =>
    split
    next cursor _ => exact Consumer.lookupsLeft_le cursor
    next => decide

/-- A consumer that has the thread is to take a step. -/
theorem stepsLeft_pos (held : thread.holder = some consumer) : 0 < thread.stepsLeft := by
  rw [stepsLeft, held]
  dsimp only
  split
  next cursor _ => exact Consumer.lookupsLeft_pos cursor
  next => exact Nat.one_pos

theorem holder_of_stepsLeft (nothing : thread.stepsLeft = 0) : thread.holder = none := by
  cases held : thread.holder with
  | none => rfl
  | some consumer => exact absurd nothing (Nat.ne_of_gt (stepsLeft_pos held))

/-- Each step of a consumer frees the thread, or less is left. -/
theorem step_of_held {resumption : Resumption} {now : Nat} (held : thread.holder = some consumer)
    (done : (thread.step resumption now).result = .ok ()) :
    (thread.step resumption now).state.holder = none ∨
      thread.stepsLeft = (thread.step resumption now).state.stepsLeft + 1 := by
  obtain ⟨state, holder⟩ := thread
  obtain rfl : holder = some consumer := held
  cases keeps : state.keepsThread consumer with
  | false =>
      left
      simp only [step, keeps]
      rfl
  | true =>
      right
      obtain ⟨cursor, there, running, goesOn⟩ := State.next_of_keepsThread keeps
      have stepped : step ⟨state, some consumer⟩ resumption now = _ := step_of_next there running
      rw [stepped] at done ⊢
      have moved := (State.act_lookup done there running).2
      simp only [stepsLeft, there, Reply.within, goesOn, if_true, moved]
      exact Consumer.lookupsLeft_follow goesOn

/-- Whatever the runtime would like to do, and whichever consumer has the thread: the thread is free
before the steps that are left are over, or a fault stops it. -/
theorem freed_within (thread : Thread) (steps : List (Resumption × Nat))
    (enough : thread.stepsLeft ≤ steps.length) :
    ∃ count ≤ thread.stepsLeft, (run (steps.take count) thread).state.holder = none ∨
      ∃ fault, (run (steps.take count) thread).result = .error fault := by
  induction steps generalizing thread with
  | nil => exact ⟨0, Nat.zero_le _, .inl (holder_of_stepsLeft (Nat.le_zero.1 enough))⟩
  | cons first rest ih =>
      obtain ⟨resumption, now⟩ := first
      cases held : thread.holder with
      | none => exact ⟨0, Nat.zero_le _, .inl held⟩
      | some consumer =>
          have positive := stepsLeft_pos held
          cases outcome : (thread.step resumption now).result with
          | error fault =>
              refine ⟨1, positive, .inr ⟨fault, ?_⟩⟩
              rw [List.take_succ_cons, List.take_zero, run, Reply.andThen_of_error outcome]
          | ok =>
              rcases step_of_held held outcome with freed | less
              · refine ⟨1, positive, .inl ?_⟩
                rw [List.take_succ_cons, List.take_zero, (run_cons [] outcome).2]
                exact freed
              · rw [less] at enough ⊢
                obtain ⟨count, early, later⟩ :=
                  ih (thread.step resumption now).state (Nat.le_of_succ_le_succ enough)
                refine ⟨count + 1, Nat.succ_le_succ early, ?_⟩
                have runs := run_cons (rest.take count) outcome
                rw [List.take_succ_cons, runs.1, runs.2]
                exact later

/-! ## Turns -/

/-- As long as look-ups are left, a consumer looks keys up and nothing else happens. It gives the
thread up with the last of them. -/
theorem run_eq {steps : List (Resumption × Nat)}
    (there : state.consumers[consumer]? = some (.next cursor))
    (running : state.isCancelled = false) (published : state.directory ≠ [])
    (early : steps.length ≤ Consumer.lookupsLeft cursor)
    (done : (State.actAll (steps.map fun step => .lookup consumer step.2) state).result =
      .ok ()) :
    run steps ⟨state, some consumer⟩ =
      (State.actAll (steps.map fun step => .lookup consumer step.2) state).within fun after =>
        ⟨after, if steps.length < Consumer.lookupsLeft cursor then some consumer else none⟩ := by
  induction steps generalizing state cursor with
  | nil =>
      rw [List.length_nil, if_pos (Consumer.lookupsLeft_pos cursor)]
      rfl
  | cons first rest ih =>
      obtain ⟨resumption, now⟩ := first
      obtain ⟨first, others, -⟩ := State.actAll_cons done
      obtain ⟨keyId, picked⟩ := Consumer.exists_pick published cursor
      have moved := (State.act_lookup first there running).2
      obtain ⟨directory, cancelled⟩ := State.frame_lookup first
      have stepped : step ⟨state, some consumer⟩ resumption now = _ := step_of_next there running
      have stepped' : (step ⟨state, some consumer⟩ resumption now).result = .ok () := by
        rw [stepped]
        exact first
      rw [Consumer.follow_of_pick picked] at moved
      rw [Consumer.lap_of_pick picked] at stepped
      rw [run, Reply.andThen_of_ok stepped', stepped, List.map_cons, State.actAll,
        Reply.andThen_of_ok first]
      cases yields : Consumer.yieldsAt (Consumer.advance cursor) with
      | true =>
          have last := Consumer.yieldsAt_advance_iff.1 yields
          rw [last, List.length_cons] at early
          obtain rfl := List.length_eq_zero_iff.1 (Nat.le_zero.1 (Nat.le_of_succ_le_succ early))
          rw [last]
          rfl
      | false =>
          have less := Consumer.lookupsLeft_advance yields
          rw [less, List.length_cons] at early
          have later := ih moved (cancelled.trans running) (directory ▸ published)
            (Nat.le_of_succ_le_succ early) others
          rw [less, List.length_cons]
          simp only [Nat.add_lt_add_iff_right]
          exact congrArg (Reply.after _) later

/-- A turn of a consumer is what it does from getting the thread to giving it up. -/
theorem takeTurn_eq (there : state.consumers[consumer]? = some (.next cursor))
    (running : state.isCancelled = false) (published : state.directory ≠ [])
    (done : (state.takeTurn consumer).result = .ok ()) {resumptions : List Resumption}
    (length : resumptions.length = Consumer.turn cursor) :
    run (resumptions.map (·, 0)) ⟨state, some consumer⟩ =
      (state.takeTurn consumer).within fun after => ⟨after, none⟩ := by
  have asked : (resumptions.map (·, 0)).map
        (fun step : Resumption × Nat => Action.lookup consumer step.2) =
      List.replicate (Consumer.turn cursor) (.lookup consumer 0) := by
    rw [List.map_map, ← length]
    show resumptions.map (fun _ => Action.lookup consumer 0) = _
    exact List.map_const'
  have whole : (resumptions.map (·, 0) : List (Resumption × Nat)).length =
      Consumer.lookupsLeft cursor := by
    rw [List.length_map, length, Consumer.turn_eq]
  have turn : state.takeTurn consumer =
      State.actAll (List.replicate (Consumer.turn cursor) (.lookup consumer 0)) state := by
    rw [State.takeTurn, there]
  rw [turn] at done ⊢
  rw [run_eq there running published (Nat.le_of_eq whole) (asked ▸ done), asked,
    if_neg (whole ▸ Nat.lt_irrefl _)]

end Thread

/-! ## Main statement -/

/-- A consumer that is not cancelled yields in time. Wherever its cursor is, and whatever is
published in each of its laps as long as something is, it looks a key up in every lap; it yields
after at most sixty-four of them, and then after every sixty-four. Whatever other tasks do between
them, these are the laps that it goes through in a soak, until it ends. With nothing intervening, a
turn takes it from getting the thread to giving it up. So on one thread no consumer keeps the other
tasks from running: whoever has the thread, whatever the runtime would like to resume, and whatever
is published, the thread is free after at most sixty-four steps, or a fault stops it. -/
theorem consumers_yield_in_time :
    (∀ (directories : List (List Nat)) (cursor : Nat), [] ∉ directories →
      0 < Consumer.turn cursor ∧ Consumer.turn cursor ≤ 64 ∧
      (Consumer.yieldsAt cursor = true → Consumer.turn cursor = 64) ∧
      ∀ number < directories.length,
        ∃ keyId yields, (Consumer.laps directories cursor)[number]? =
            some (.lookup keyId yields) ∧
          (yields = true ↔ ∃ turns, number + 1 = Consumer.turn cursor + 64 * turns)) ∧
    (∀ (state : State) (actions : List Action) (consumer cursor : Nat),
      (State.actAll actions state).result = .ok () →
      state.consumers[consumer]? = some (.next cursor) →
      let found := State.findsOf consumer actions state
      let reading := (State.actAll actions state).state.consumers[consumer]?
      State.readsOf consumer actions state =
          (Consumer.laps found cursor).filterMap Consumer.Lap.keyId? ∧
        (reading = some (.next (Consumer.followAll found cursor)) ∨ reading = some .done)) ∧
    (∀ (state : State) (consumer cursor : Nat) (resumptions : List Resumption),
      state.consumers[consumer]? = some (.next cursor) → state.isCancelled = false →
      state.directory ≠ [] → (state.takeTurn consumer).result = .ok () →
      resumptions.length = Consumer.turn cursor →
      Thread.run (resumptions.map (·, 0)) ⟨state, some consumer⟩ =
        (state.takeTurn consumer).within fun after => ⟨after, none⟩) ∧
    ∀ (thread : Thread) (steps : List (Resumption × Nat)), 64 ≤ steps.length →
      ∃ count ≤ 64, (Thread.run (steps.take count) thread).state.holder = none ∨
        ∃ fault, (Thread.run (steps.take count) thread).result = .error fault := by
  refine ⟨fun directories cursor published => ?loop, fun _ _ _ _ => State.follows_laps,
    fun _ _ _ _ there running published done => Thread.takeTurn_eq there running published done,
    fun thread steps enough => ?thread⟩
  case loop =>
    rw [Consumer.turn_eq]
    exact ⟨Consumer.lookupsLeft_pos cursor, Consumer.lookupsLeft_le cursor,
      Consumer.lookupsLeft_of_yieldsAt, fun _ => Consumer.getElem?_laps published⟩
  case thread =>
    have bound := thread.stepsLeft_le
    obtain ⟨count, early, freed⟩ := thread.freed_within steps (bound.trans enough)
    exact ⟨count, early.trans bound, freed⟩

/-- A soak with two published keys and a consumer that wraps around with its next look-up. -/
def wrapping : State := (stocked 2).moveConsumer 0 (.next (Word.limit - 5))

/-- A consumer that wraps around yields after nineteen look-ups, and sixty-four look-ups later. The
nineteen are its turn, after which the thread is free. -/
theorem consumer_yields_after_wrapping :
    (Consumer.turn (Word.limit - 5) = 19 ∧
      ∀ number < 100, ∃ keyId yields,
        (Consumer.laps (List.replicate 100 [1, 2, 3]) (Word.limit - 5))[number]? =
            some (.lookup keyId yields) ∧
          (yields = true ↔ ∃ turns, number + 1 = 19 + 64 * turns)) ∧
    State.readsOf 0 [.lookup 0 1, .flush 0, .lookup 0 2] wrapping =
      (Consumer.laps (State.findsOf 0 [.lookup 0 1, .flush 0, .lookup 0 2] wrapping)
        (Word.limit - 5)).filterMap Consumer.Lap.keyId? ∧
    Thread.run ((List.replicate 19 (.other .cancel)).map (·, 0)) ⟨wrapping, some 0⟩ =
      (wrapping.takeTurn 0).within (fun after => ⟨after, none⟩) ∧
    ∃ count ≤ 64,
      (Thread.run ((List.replicate 64 (.other .cancel, 0)).take count)
          ⟨wrapping, some 0⟩).state.holder = none ∨
        ∃ fault, (Thread.run ((List.replicate 64 (.other .cancel, 0)).take count)
          ⟨wrapping, some 0⟩).result = .error fault := by
  obtain ⟨loop, soak, turn, thread⟩ := consumers_yield_in_time
  have nineteen : Consumer.turn (Word.limit - 5) = 19 := by decide +kernel
  have there : wrapping.consumers[0]? = some (.next (Word.limit - 5)) := by decide +kernel
  obtain ⟨-, -, -, yields⟩ :=
    loop (List.replicate 100 [1, 2, 3]) (Word.limit - 5) (by decide +kernel)
  rw [nineteen, List.length_replicate] at yields
  refine ⟨⟨nineteen, yields⟩, (soak _ _ _ _ (by decide +kernel) there).1, ?_, ?_⟩
  · exact turn _ _ _ _ there (by decide +kernel) (by decide +kernel) (by decide +kernel)
      nineteen.symm
  · exact thread _ _ (Nat.le_of_eq List.length_replicate.symm)

end TableCache.Soak
