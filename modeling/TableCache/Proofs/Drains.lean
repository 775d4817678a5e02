import TableCache.Proofs.Emission

/-!
# What becomes of clearances when a drain stops

A drain takes clearances off the queue and adds their rows one by one, but it adds their number to
the tables reclaimed only after the last one. If a sum of rows is no word the drain stops before
that. The clearances that it has taken by then are neither counted as tables nor waiting any more,
and no later step brings them back.

Main definitions:

1. `lost`: what a drain takes off the queue without counting it;
2. `History.lostBy`: what all drains of a history lose.

Main statements:

1. `drain_cases`: a drain counts everything that waits, or it stops and loses what it has taken;
2. `History.step_sent`: what one step adds to the clearances that were sent;
3. `clearances_lost_by_stopped_drains`: every clearance is counted, waiting, or lost by a drain that
   stopped.
-/

namespace TableCache.Recorder

open Statistics

variable {recorder : Recorder}

/-! ## One drain -/

/-- The clearances that a drain takes off the queue without counting them as tables: all that it has
taken when it stops. -/
def lost (recorder : Recorder) : List Clearance :=
  match recorder.drain.result with
  | .ok _ => []
  | .error _ =>
      recorder.pending.take (recorder.pending.length - recorder.drain.state.pending.length)

theorem countRows_cases (counters : Statistics) (clearance : Clearance) :
    (countRows counters clearance).2.tablesReclaimed = counters.tablesReclaimed ∧
      ((countRows counters clearance).1 = .ok () ∨
        (countRows counters clearance).1 = .error .overflow) := by
  unfold countRows
  split
  next => exact ⟨rfl, .inr rfl⟩
  next =>
    simp only
    split
    next =>
      split
      next => exact ⟨rfl, .inr rfl⟩
      next => exact ⟨rfl, .inl rfl⟩
    next => exact ⟨rfl, .inl rfl⟩

/-- Counting rows leaves the tables alone. It goes through the whole queue, or stops at a clearance
that it took off. -/
theorem countAll_cases (clearances : List Clearance) (counters : Statistics) :
    (countAll clearances counters).2.1.tablesReclaimed = counters.tablesReclaimed ∧
      ((countAll clearances counters).1 = .ok clearances.length ∧
          (countAll clearances counters).2.2 = [] ∨
        (countAll clearances counters).1 = .error .overflow ∧
          ∃ counted last,
            clearances = counted ++ last :: (countAll clearances counters).2.2) := by
  induction clearances generalizing counters with
  | nil => exact ⟨rfl, .inl ⟨rfl, rfl⟩⟩
  | cons clearance rest ih =>
      obtain ⟨tables, outcome⟩ := countRows_cases counters clearance
      rw [countAll]
      rcases step : countRows counters clearance with ⟨result, later⟩
      rw [step] at tables outcome
      rcases outcome with rfl | rfl
      · obtain ⟨same, through | ⟨stopped, counted, last, split⟩⟩ := ih later
        · refine ⟨same.trans tables, .inl ⟨?_, through.2⟩⟩
          simp only [through.1, Except.map, List.length_cons]
        · refine ⟨same.trans tables, .inr ⟨?_, clearance :: counted, last, ?_⟩⟩
          · simp only [stopped, Except.map]
          · exact congrArg (List.cons clearance) split
      · exact ⟨tables, .inr ⟨rfl, [], clearance, rfl⟩⟩

/-- A drain that stops has lost what it took off the queue. -/
theorem drain_stopped {counters : Statistics} {taken rest : List Clearance}
    (stopped : recorder.drain =
      .stop { recorder with counters := counters, pending := rest } .overflow)
    (tables : counters.tablesReclaimed = recorder.counters.tablesReclaimed)
    (split : recorder.pending = taken ++ rest) (some : taken ≠ []) :
    recorder.drain.result = .error .overflow ∧
      recorder.drain.state.counters.tablesReclaimed = recorder.counters.tablesReclaimed ∧
      recorder.pending = recorder.lost ++ recorder.drain.state.pending ∧
      recorder.lost ≠ [] := by
  have lost : recorder.lost = taken := by
    simp only [lost, stopped, Reply.stop, split, List.length_append, Nat.add_sub_cancel,
      List.take_left]
  rw [lost, stopped]
  exact ⟨rfl, tables, split, some⟩

/-- A drain counts everything that waits. Or it stops: then it counts no table, and at least one
clearance is taken off the queue for nothing. The tables counted before are a word, so an addition
of them that stops has something to add. -/
theorem drain_cases (words : recorder.counters.tablesReclaimed < Word.limit) :
    (recorder.drain.result = .ok recorder.pending.length ∧
        recorder.drain.state.pending = [] ∧
        recorder.drain.state.counters.tablesReclaimed =
          recorder.counters.tablesReclaimed + recorder.pending.length ∧
        recorder.drain.state.counters.tablesReclaimed < Word.limit ∧
        recorder.lost = []) ∨
      recorder.drain.result = .error .overflow ∧
        recorder.drain.state.counters.tablesReclaimed = recorder.counters.tablesReclaimed ∧
        recorder.pending = recorder.lost ++ recorder.drain.state.pending ∧
        recorder.lost ≠ [] := by
  obtain ⟨tables, through | ⟨stopped, counted, last, split⟩⟩ :=
    countAll_cases recorder.pending recorder.counters
  · obtain ⟨counted, empty⟩ := through
    cases sum : Word.add? recorder.counters.tablesReclaimed recorder.pending.length with
    | some total =>
        obtain ⟨rfl, small⟩ := Word.add?_eq_some_iff.1 sum
        have drained : recorder.drain =
            .ok
              { recorder with
                counters :=
                  { (countAll recorder.pending recorder.counters).2.1 with
                    tablesReclaimed :=
                      recorder.counters.tablesReclaimed + recorder.pending.length }
                pending := [] }
              recorder.pending.length := by
          simp only [drain, counted, tables, sum, empty]
        have nothing : recorder.lost = [] := by simp only [lost, drained, Reply.ok]
        refine .inl ?_
        rw [nothing, drained]
        exact ⟨rfl, rfl, rfl, small, rfl⟩
    | none =>
        have drained : recorder.drain =
            .stop
              { recorder with
                counters := (countAll recorder.pending recorder.counters).2.1
                pending := [] }
              .overflow := by
          simp only [drain, counted, tables, sum, empty]
        refine .inr (drain_stopped drained tables (List.append_nil _).symm fun nothing => ?_)
        rw [nothing, Word.add?_eq_none_iff, List.length_nil] at sum
        omega
  · refine .inr (drain_stopped ?_ tables (split.trans (List.append_cons _ _ _))
      (List.concat_ne_nil last counted))
    simp only [drain, stopped]

/-- The clearances that a recorder knows of are those that it counted and those that wait. A drain
knows of those that it lost no more. -/
theorem known_drain (words : recorder.counters.tablesReclaimed < Word.limit) :
    recorder.drain.state.counters.tablesReclaimed < Word.limit ∧
      recorder.drain.state.totals.tablesReclaimed + recorder.lost.length =
        recorder.totals.tablesReclaimed := by
  simp only [totals, Statistics.plus, ofClearances]
  rcases drain_cases words with ⟨-, empty, tables, small, nothing⟩ | ⟨-, tables, split, -⟩
  · refine ⟨small, ?_⟩
    rw [empty, tables, nothing]
    rfl
  · refine ⟨tables ▸ words, ?_⟩
    rw [tables, split, List.length_append]
    omega

theorem lost_eq_nil_iff (words : recorder.counters.tablesReclaimed < Word.limit) :
    recorder.lost = [] ↔ ∃ drained, recorder.drain.result = .ok drained := by
  rcases drain_cases words with ⟨done, -, -, -, nothing⟩ | ⟨stopped, -, -, some⟩
  · exact ⟨fun _ => ⟨_, done⟩, fun _ => nothing⟩
  · refine ⟨fun nothing => absurd nothing some, ?_⟩
    rintro ⟨drained, done⟩
    rw [stopped] at done
    cases done

/-! ## One step -/

theorem tables_countAccess (counters : Statistics) (access : Access) :
    (countAccess counters access).2.tablesReclaimed = counters.tablesReclaimed := by
  unfold countAccess
  split
  next => rfl
  next =>
    simp only
    split
    next => rfl
    next => cases access <;> rfl

theorem known_emit? (recorder : Recorder) (now : Nat) :
    (recorder.emit? now).state.counters = recorder.counters ∧
      (recorder.emit? now).state.pending = recorder.pending := by
  unfold emit?
  split
  next => exact ⟨rfl, rfl⟩
  next =>
    simp only
    split <;> exact ⟨rfl, rfl⟩

/-- The recorder that a step drains, if it comes to that: a look-up is counted before, and may stop
there. -/
def Step.drained? (recorder : Recorder) : Step → Option Recorder
  | .drain | .snapshot => some recorder
  | .access kind _ =>
      match countAccess recorder.counters kind with
      | (.ok _, counters) => some { recorder with counters := counters }
      | (.error _, _) => none
  | .put | .clear _ | .close => none

/-- What goes on after a drain without touching tables or queue leaves what the drain left. -/
theorem state_andThen {α : Type} (next : Recorder → Nat → Reply Recorder α)
    (kept : ∀ recorder drained, (next recorder drained).state.counters = recorder.counters ∧
      (next recorder drained).state.pending = recorder.pending) :
    (recorder.drain.andThen next).state.counters = recorder.drain.state.counters ∧
      (recorder.drain.andThen next).state.pending = recorder.drain.state.pending := by
  unfold Reply.andThen
  split
  next drained _ => exact kept _ drained
  next => exact ⟨rfl, rfl⟩

namespace History

/-- The clearances that a step loses. -/
def lost (history : History) (step : Step) : List Clearance :=
  ((step.drained? history.recorder).map Recorder.lost).getD []

/-- The clearances that some steps lose, in the order in which they were sent. -/
def lostBy (history : History) : List Step → List Clearance
  | [] => []
  | step :: rest => history.lost step ++ (history.step step).state.lostBy rest

/-- A step that drains leaves tables and queue as its drain left them. -/
theorem step_drained {history : History} {step : Step} {drained : Recorder}
    (drains : step.drained? history.recorder = some drained) :
    (history.step step).state.recorder.counters = drained.drain.state.counters ∧
      (history.step step).state.recorder.pending = drained.drain.state.pending := by
  cases step with
  | drain => cases drains; exact ⟨rfl, rfl⟩
  | snapshot => cases drains; exact state_andThen _ fun _ _ => ⟨rfl, rfl⟩
  | access access time =>
      rw [Step.drained?] at drains
      split at drains
      next result counters counted =>
        cases drains
        show (history.recorder.recordAccess access time).state.counters = _ ∧
          (history.recorder.recordAccess access time).state.pending = _
        simp only [recordAccess, counted]
        exact state_andThen _ fun recorder _ => known_emit? recorder time
      next => cases drains
  | put | clear clearance | close => cases drains

/-- A step that does not drain leaves the tables, and a clearance joins the queue if it arrives. -/
theorem step_undrained {history : History} {step : Step}
    (rests : step.drained? history.recorder = none) :
    (history.step step).state.recorder.counters.tablesReclaimed =
        history.recorder.counters.tablesReclaimed ∧
      (history.step step).state.recorder.pending.length =
        history.recorder.pending.length + (step.told history.isOpen).tablesReclaimed := by
  cases step with
  | drain | snapshot => cases rests
  | close => exact ⟨rfl, rfl⟩
  | put =>
      show history.recorder.recordPut.state.counters.tablesReclaimed = _ ∧
        history.recorder.recordPut.state.pending.length = _
      unfold recordPut
      split <;> exact ⟨rfl, rfl⟩
  | clear clearance =>
      rw [History.step, Step.told]
      cases history.isOpen with
      | true => exact ⟨rfl, List.length_append⟩
      | false => exact ⟨rfl, rfl⟩
  | access access time =>
      rw [Step.drained?] at rests
      split at rests
      next => cases rests
      next fault counters stopped =>
        have tables := tables_countAccess history.recorder.counters access
        show (history.recorder.recordAccess access time).state.counters.tablesReclaimed = _ ∧
          (history.recorder.recordAccess access time).state.pending.length = _
        rw [stopped] at tables
        simp only [recordAccess, stopped]
        exact ⟨tables, rfl⟩

theorem isOpen_step (history : History) (step : Step) :
    (history.step step).state.isOpen = arrives history.isOpen [step] := by
  cases step with
  | clear clearance =>
      rw [History.step]
      split <;> exact (Bool.and_true _).symm
  | close => exact (Bool.and_false _).symm
  | _ => exact (Bool.and_true _).symm

theorem told_of_drained {history : History} {step : Step} {drained : Recorder}
    (drains : step.drained? history.recorder = some drained) :
    (step.told history.isOpen).tablesReclaimed = 0 ∧
      drained.counters.tablesReclaimed = history.recorder.counters.tablesReclaimed ∧
      drained.pending = history.recorder.pending := by
  cases step with
  | drain | snapshot => cases drains; exact ⟨rfl, rfl, rfl⟩
  | access access time =>
      have tables := tables_countAccess history.recorder.counters access
      rw [Step.drained?] at drains
      split at drains
      next counters counted =>
        cases drains
        rw [counted] at tables
        exact ⟨rfl, tables, rfl⟩
      next => cases drains
  | put | clear clearance | close => cases drains

/-- Of the clearances that a recorder knew of and the one that a step sends, it knows of all after
the step but of those that the step lost. -/
theorem step_sent {history : History}
    (words : history.recorder.counters.tablesReclaimed < Word.limit) (step : Step) :
    (history.step step).state.recorder.counters.tablesReclaimed < Word.limit ∧
      (history.step step).state.recorder.totals.tablesReclaimed + (history.lost step).length =
        history.recorder.totals.tablesReclaimed + (step.told history.isOpen).tablesReclaimed := by
  rw [lost]
  cases drains : step.drained? history.recorder with
  | none =>
      obtain ⟨tables, queue⟩ := step_undrained drains
      simp only [totals, Statistics.plus, ofClearances, tables, queue]
      exact ⟨words, Nat.add_assoc _ _ _ |>.symm⟩
  | some drained =>
      obtain ⟨nothing, tables, queue⟩ := told_of_drained drains
      obtain ⟨small, known⟩ := @known_drain drained (tables ▸ words)
      obtain ⟨counters, pending⟩ := step_drained drains
      simp only [totals, Statistics.plus, ofClearances, tables, queue] at known ⊢
      rw [counters, pending, nothing]
      exact ⟨small, known⟩

/-! ## Histories -/

/-- A clearance that a recorder knew of or was sent is one that it knows of, or it was lost. -/
theorem sent_eq {history : History}
    (words : history.recorder.counters.tablesReclaimed < Word.limit) (steps : List Step) :
    history.recorder.totals.tablesReclaimed + (tally history.isOpen steps).tablesReclaimed =
      (finalState History.step history steps).recorder.totals.tablesReclaimed +
        (history.lostBy steps).length := by
  induction steps generalizing history with
  | nil => rfl
  | cons step rest ih =>
      obtain ⟨small, known⟩ := step_sent words step
      have later := ih small
      rw [isOpen_step] at later
      rw [tally, lostBy, List.length_append, finalState]
      show _ + (_ + _) = _
      omega

/-- Whether a step drains and its drain stops. -/
def Stops (history : History) (step : Step) : Prop :=
  ∃ drained fault, step.drained? history.recorder = some drained ∧
    drained.drain.result = .error fault

theorem lost_eq_nil_iff {history : History}
    (words : history.recorder.counters.tablesReclaimed < Word.limit) (step : Step) :
    history.lost step = [] ↔ ¬history.Stops step := by
  rw [lost, Stops]
  cases drains : step.drained? history.recorder with
  | none => simp
  | some drained =>
      have same := (told_of_drained drains).2.1
      rw [Option.map_some, Option.getD_some, Recorder.lost_eq_nil_iff (same ▸ words)]
      cases result : drained.drain.result with
      | ok count => simp [result]
      | error fault => simp [result]

/-- Some steps lose nothing if none of them stops in its drain. -/
theorem lostBy_eq_nil_iff {history : History}
    (words : history.recorder.counters.tablesReclaimed < Word.limit) (steps : List Step) :
    history.lostBy steps = [] ↔
      ∀ earlier step later, steps = earlier ++ step :: later →
        ¬(finalState History.step history earlier).Stops step := by
  induction steps generalizing history with
  | nil => simp [lostBy]
  | cons first rest ih =>
      rw [lostBy, List.append_eq_nil_iff, lost_eq_nil_iff words first,
        ih (step_sent words first).1]
      constructor
      · rintro ⟨here, others⟩ earlier step later split
        cases earlier with
        | nil => cases split; exact here
        | cons head earlier => cases split; exact others earlier step later rfl
      · intro none
        refine ⟨none [] first rest rfl, fun earlier step later split => ?_⟩
        exact none (first :: earlier) step later (congrArg (List.cons first) split)

end History

open History

/-- After any steps, every clearance that was sent while the queue was open is counted as a
reclaimed table, or waits, or was lost by a drain that stopped. So the counted and the waiting ones
are all that were sent just if no drain of the history stopped. -/
theorem clearances_lost_by_stopped_drains (interval start : Nat) (steps : List Step) :
    let after := fun steps => finalState History.step (createAt interval start) steps
    let sent := (tally true steps).tablesReclaimed
    let counted := (after steps).recorder.counters.tablesReclaimed
    let waiting := (after steps).recorder.pending.length
    sent = counted + waiting + ((createAt interval start).lostBy steps).length ∧
      (sent = counted + waiting ↔
        ∀ earlier step later, steps = earlier ++ step :: later → ¬(after earlier).Stops step) := by
  intro after sent counted waiting
  have words : (createAt interval start).recorder.counters.tablesReclaimed < Word.limit :=
    Nat.two_pow_pos 64
  have balance : sent = counted + waiting + ((createAt interval start).lostBy steps).length :=
    (Nat.zero_add _).symm.trans (sent_eq words steps)
  refine ⟨balance, ?_⟩
  rw [← lostBy_eq_nil_iff words, ← List.length_eq_zero_iff]
  omega

/-- Two clearances whose rows together are no word, and a drain. -/
def overflowing : List Step := [.clear ⟨1, Word.max, false⟩, .clear ⟨2, 1, false⟩, .drain]

/-- Both clearances are lost, though the rows of the first one are counted: it is not so that every
clearance is counted or waits. -/
theorem clearances_lost_overflowing :
    ¬∀ (interval start : Nat) (steps : List Step),
      (tally true steps).tablesReclaimed =
        (finalState History.step (createAt interval start) steps).recorder.counters.tablesReclaimed
          + (finalState History.step (createAt interval start) steps).recorder.pending.length := by
  intro kept
  have both := kept 300 0 overflowing
  have sent : (tally true overflowing).tablesReclaimed = 2 := rfl
  have known :
      (finalState History.step (createAt 300 0) overflowing).recorder.counters.tablesReclaimed = 0 ∧
        (finalState History.step (createAt 300 0) overflowing).recorder.pending = [] := by
    decide
  rw [sent, known.1, known.2] at both
  cases both

end TableCache.Recorder
