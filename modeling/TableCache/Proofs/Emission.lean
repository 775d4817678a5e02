import Mathlib.Data.List.Chain
import TableCache.History.Recorder
import TableCache.Proofs.Recorder

/-!
# Reports of the counters are rate limited, and none is skipped

A recorder looks at its clock only when a look-up is counted. It reports if an interval has passed
since its last report, and then the interval starts anew. Times may go back: a time before the last
report counts as no time passed. What a report says is all that the recorder was ever told, for the
waiting clearances are counted first.

Main definitions:

1. `tally`: all that the steps of a history tell the recorder, on paper and without any queue;
2. `emissions`: the times of the look-ups that are answered with a report.

Main statements:

1. `recordAccess_eq`: what a look-up does while all counts are words;
2. `History.told_after`: what there is of a recorder after a history;
3. `emission_is_rate_limited`: when a recorder reports, how often, and what.
-/

namespace TableCache.Recorder

open Statistics

variable {recorder : Recorder} {access : Access} {interval start time : Nat} {steps : List Step}

/-! ## One look-up -/

/-- A recorder after it counted one look-up and everything that waited. -/
def tallied (recorder : Recorder) (access : Access) : Recorder :=
  { recorder with counters := recorder.totals.plus (.oneAccess access), pending := [] }

/-- While all counts are words, a look-up brings the counters to all that was told. They are
reported if an interval has passed since the last report, which is the last one from then on. -/
theorem recordAccess_eq (fits : (recorder.totals.plus (.oneAccess access)).Fits)
    (balanced : recorder.totals.Balanced) (now : Nat) :
    recorder.recordAccess access now =
      if now - recorder.lastEmission < recorder.interval then .ok (recorder.tallied access) none
      else
        .logged { recorder.tallied access with lastEmission := now }
          [.statistics (recorder.tallied access).counters]
          (some (recorder.tallied access).counters) := by
  let counted : Recorder := { recorder with counters := recorder.counters.plus (.oneAccess access) }
  have totals : counted.totals = recorder.totals.plus (.oneAccess access) :=
    plus_right_comm _ _ _
  have early : (recorder.counters.plus (.oneAccess access)).Fits := by
    rw [Recorder.totals, plus_right_comm] at fits
    exact fits.of_plus
  have drained : counted.drain = .ok (recorder.tallied access) counted.pending.length := by
    have words : counted.totals.Fits := totals ▸ fits
    rw [drain_eq words, totals]
    rfl
  have consistent : (recorder.tallied access).counters.isConsistent? = some true :=
    isConsistent?_of_balanced fits (balanced.plus (balanced_oneAccess access))
  unfold recordAccess
  simp only [countAccess_eq early]
  rw [drained, Reply.andThen_ok, emit?]
  simp only [consistent]
  rfl

/-! ## What a history tells -/

/-- What a step tells a recorder, whether or not clearances still arrive. -/
def Step.told (isOpen : Bool) : Step → Statistics
  | .put => .onePut
  | .access access _ => .oneAccess access
  | .clear clearance => if isOpen then .ofClearances [clearance] else .zero
  | .close | .drain | .snapshot => .zero

/-- Whether clearances still arrive after some steps. -/
def arrives (isOpen : Bool) (steps : List Step) : Bool := isOpen && !steps.contains .close

/-- All that some steps tell a recorder. -/
def tally (isOpen : Bool) : List Step → Statistics
  | [] => .zero
  | step :: rest => (step.told isOpen).plus (tally (arrives isOpen [step]) rest)

theorem arrives_append (isOpen : Bool) (first second : List Step) :
    arrives isOpen (first ++ second) = arrives (arrives isOpen first) second := by
  simp [arrives, Bool.and_assoc]

theorem tally_append (isOpen : Bool) (first second : List Step) :
    tally isOpen (first ++ second) =
      (tally isOpen first).plus (tally (arrives isOpen first) second) := by
  induction first generalizing isOpen with
  | nil => simp [tally, arrives]
  | cons step rest ih =>
      have next := arrives_append isOpen [step] rest
      rw [List.singleton_append] at next
      rw [List.cons_append, tally, tally, ih, plus_assoc, next]

theorem tally_concat (isOpen : Bool) (steps : List Step) (step : Step) :
    tally isOpen (steps ++ [step]) =
      (tally isOpen steps).plus (step.told (arrives isOpen steps)) :=
  tally_append isOpen steps [step]

theorem balanced_told (isOpen : Bool) (step : Step) : (step.told isOpen).Balanced := by
  cases step with
  | access access time => exact balanced_oneAccess access
  | clear clearance => cases isOpen <;> rfl
  | _ => rfl

theorem balanced_tally (isOpen : Bool) (steps : List Step) : (tally isOpen steps).Balanced := by
  induction steps generalizing isOpen with
  | nil => rfl
  | cons step rest ih => exact (balanced_told isOpen step).plus (ih _)

/-! ## When a history reports -/

namespace History

/-- The start of a history at some time. -/
def createAt (interval start : Nat) : History :=
  ⟨{ Recorder.ofInterval interval with lastEmission := start }, true⟩

/-- The time of a look-up that is answered with a report. -/
def emission? (history : History) : Step → Option Nat
  | .access access time =>
      match (history.step (.access access time)).result with
      | .ok (.statistics _) => some time
      | _ => none
  | _ => none

/-- The times of the look-ups that are answered with a report, in order. -/
def emissions (history : History) : List Step → List Nat
  | [] => []
  | step :: rest => (history.emission? step).toList ++ (history.step step).state.emissions rest

theorem emissions_append (history : History) (first second : List Step) :
    history.emissions (first ++ second) =
      history.emissions first ++ (finalState History.step history first).emissions second := by
  induction first generalizing history with
  | nil => rfl
  | cons step rest ih => rw [List.cons_append, emissions, emissions, ih, List.append_assoc]; rfl

theorem emissions_concat (history : History) (steps : List Step) (step : Step) :
    history.emissions (steps ++ [step]) =
      history.emissions steps ++
        ((finalState History.step history steps).emission? step).toList := by
  rw [emissions_append, emissions, emissions, List.append_nil]

/-- What there is of a recorder that was told `told`, and made its last report at `last`. -/
structure Told (history : History) (isOpen : Bool) (interval last : Nat) (told : Statistics) :
    Prop where
  isOpen : history.isOpen = isOpen
  interval : history.recorder.interval = interval
  last : history.recorder.lastEmission = last
  totals : history.recorder.totals = told

variable {history : History} {isOpen : Bool} {last : Nat} {told : Statistics}

/-- A look-up is answered with a report if it is time, and else with nothing. -/
theorem Told.lookup (state : history.Told isOpen interval last told)
    (fits : (told.plus (.oneAccess access)).Fits) (balanced : told.Balanced) (time : Nat) :
    (history.step (.access access time)).result =
        .ok (if time - last < interval then .nothing
          else .statistics (told.plus (.oneAccess access))) ∧
      (history.step (.access access time)).state.Told isOpen interval
        (if time - last < interval then last else time) (told.plus (.oneAccess access)) := by
  obtain ⟨rfl, rfl, rfl, rfl⟩ := state
  have recorded := recordAccess_eq fits balanced time
  have totals : (history.recorder.tallied access).totals =
      history.recorder.totals.plus (.oneAccess access) := plus_zero _
  rw [History.step, recorded]
  split
  next => exact ⟨rfl, rfl, rfl, rfl, totals⟩
  next => exact ⟨rfl, rfl, rfl, rfl, totals⟩

theorem Told.emission?_access (state : history.Told isOpen interval last told)
    (fits : (told.plus (.oneAccess access)).Fits) (balanced : told.Balanced) (time : Nat) :
    history.emission? (.access access time) =
      if time - last < interval then none else some time := by
  rw [emission?, (state.lookup fits balanced time).1]
  by_cases early : time - last < interval
  · rw [if_pos early, if_pos early]
  · rw [if_neg early, if_neg early]

/-- Every step leaves a recorder that was told one thing more. Only a report starts the interval
anew. -/
theorem Told.step (state : history.Told isOpen interval last told) (step : Step)
    (fits : (told.plus (step.told isOpen)).Fits) (balanced : told.Balanced) :
    (history.step step).state.Told (arrives isOpen [step]) interval
      ((history.emission? step).getD last) (told.plus (step.told isOpen)) := by
  have words := fits.of_plus
  cases step with
  | put =>
      obtain ⟨rfl, rfl, rfl, rfl⟩ := state
      rw [History.step, recordPut_eq fits]
      exact ⟨(Bool.and_true _).symm, rfl, rfl, plus_right_comm _ _ _⟩
  | access access time =>
      rw [state.emission?_access fits balanced]
      obtain ⟨-, opened, interval, last, totals⟩ := state.lookup fits balanced time
      refine ⟨opened.trans (Bool.and_true _).symm, interval, last.trans ?_, totals⟩
      split <;> rfl
  | clear clearance =>
      obtain ⟨rfl, rfl, rfl, rfl⟩ := state
      rw [History.step, Step.told]
      cases opened : history.isOpen with
      | true => exact ⟨opened, rfl, rfl, totals_post history.recorder [clearance]⟩
      | false => exact ⟨opened, rfl, rfl, (plus_zero _).symm⟩
  | close =>
      obtain ⟨rfl, rfl, rfl, rfl⟩ := state
      exact ⟨(Bool.and_false _).symm, rfl, rfl, (plus_zero _).symm⟩
  | drain =>
      obtain ⟨rfl, rfl, rfl, rfl⟩ := state
      rw [History.step, drain_eq words]
      exact ⟨(Bool.and_true _).symm, rfl, rfl, plus_zero _⟩
  | snapshot =>
      obtain ⟨rfl, rfl, rfl, rfl⟩ := state
      rw [History.step, snapshot_eq words]
      exact ⟨(Bool.and_true _).symm, rfl, rfl, plus_zero _⟩

/-- The time of the last report of a history, or of its start before the first one. -/
def lastReport (interval start : Nat) (steps : List Step) : Nat :=
  ((createAt interval start).emissions steps).getLast?.getD start

theorem told_after (fits : (tally true steps).Fits) :
    (finalState History.step (createAt interval start) steps).Told (arrives true steps) interval
      (lastReport interval start steps) (tally true steps) := by
  induction steps using List.reverseRecOn with
  | nil => exact ⟨rfl, rfl, rfl, rfl⟩
  | append_singleton steps step ih =>
      rw [tally_concat] at fits ⊢
      have later := (ih fits.of_plus).step step fits (balanced_tally true steps)
      have latest : lastReport interval start (steps ++ [step]) =
          ((finalState History.step (createAt interval start) steps).emission? step).getD
            (lastReport interval start steps) := by
        rw [lastReport, emissions_concat, lastReport]
        cases (finalState History.step (createAt interval start) steps).emission? step with
        | none => rw [Option.toList_none, List.append_nil, Option.getD_none]
        | some time =>
            rw [Option.toList_some, List.getLast?_concat, Option.getD_some, Option.getD_some]
      rw [arrives_append, latest, finalState_append]
      exact later

end History

/-! ## How often a history reports -/

/-- Reports that are at least an interval apart are no more than there is room for. -/
theorem length_filter_le_of_isChain {times : List Nat} {first limit : Nat}
    (apart : (first :: times).IsChain fun earlier later => earlier + interval ≤ later) :
    (times.filter fun time => time ≤ limit).length * interval ≤ limit - first := by
  induction times generalizing first with
  | nil => simp
  | cons time rest ih =>
      obtain ⟨later, others⟩ := List.isChain_cons_cons.1 apart
      have counted := ih others
      rw [List.filter_cons]
      split
      next early =>
        rw [List.length_cons, Nat.succ_mul]
        simp only [decide_eq_true_eq] at early
        omega
      next => omega

namespace History

/-- Reports come one after the other and at least an interval apart. -/
theorem isChain_emissions (positive : 0 < interval) (fits : (tally true steps).Fits) :
    (start :: (createAt interval start).emissions steps).IsChain
      fun earlier later => earlier + interval ≤ later := by
  induction steps using List.reverseRecOn with
  | nil => exact List.isChain_singleton start
  | append_singleton steps step ih =>
      rw [tally_concat] at fits
      have chain := ih fits.of_plus
      have told := @told_after interval start steps fits.of_plus
      rw [emissions_concat, ← List.cons_append, List.isChain_append]
      refine ⟨chain, ?_, fun last latest next member => ?_⟩
      · cases (finalState History.step (createAt interval start) steps).emission? step with
        | none => exact List.isChain_nil
        | some time => exact List.isChain_singleton time
      · rw [List.getLast?_cons, Option.mem_some_iff] at latest
        cases step with
        | access access time =>
            rw [told.emission?_access fits (balanced_tally true steps)] at member
            split at member
            next => cases member
            next due =>
              cases member
              have before : lastReport interval start steps = last := latest
              rw [before] at due
              omega
        | _ => cases member

end History

open History

/-- A look-up is answered with a report if an interval has passed since the last report, or since
the start before the first one, and with nothing else if not. Without an interval it always is.

The report counts everything that the recorder was told before, every clearance that was sent to it,
and the look-up itself. Its classes add up to its look-ups, and a snapshot that is taken next says
the same.

Reports come one after the other, each at least an interval after the one before, and up to any time
there are no more of them than intervals since the start. -/
theorem emission_is_rate_limited
    (fits : (tally true (steps ++ [.access access time])).Fits) :
    let before := finalState History.step (createAt interval start) steps
    let reply := before.step (.access access time)
    let counters := tally true (steps ++ [.access access time])
    let emissions := (createAt interval start).emissions (steps ++ [.access access time])
    reply.result =
        .ok (if interval = 0 ∨ lastReport interval start steps + interval ≤ time then
          .statistics counters else .nothing) ∧
      counters.Balanced ∧
      counters.isConsistent? = some true ∧
      (reply.state.step .snapshot).result = .ok (.statistics counters) ∧
      (0 < interval →
        (start :: emissions).Pairwise (fun earlier later => earlier < later) ∧
        (start :: emissions).IsChain (fun earlier later => earlier + interval ≤ later) ∧
        ∀ span, (emissions.filter fun time => time ≤ start + span).length ≤ span / interval) := by
  intro before reply counters emissions
  have balanced := balanced_tally true steps
  have even : counters.Balanced := balanced_tally true _
  have total : counters = (tally true steps).plus (.oneAccess access) := tally_concat true steps _
  have early : ((tally true steps).plus (.oneAccess access)).Fits := total ▸ fits
  have told := @told_after interval start steps early.of_plus
  obtain ⟨result, state⟩ := told.lookup early balanced time
  rw [← total] at result state
  refine ⟨?_, even, isConsistent?_of_balanced fits even, ?_, fun positive => ?_⟩
  · refine result.trans (congrArg Except.ok ?_)
    by_cases due : time - lastReport interval start steps < interval
    · rw [if_pos due, if_neg (by omega)]
    · rw [if_neg due, if_pos (by omega)]
  · have words : reply.state.recorder.totals.Fits := state.totals ▸ fits
    rw [History.step, snapshot_eq words, state.totals]
    rfl
  · have apart := @isChain_emissions interval start _ positive fits
    have ordered : (start :: emissions).IsChain fun earlier later => earlier < later :=
      apart.imp fun earlier later distance => by omega
    refine ⟨List.isChain_iff_pairwise.1 ordered, apart, fun span => ?_⟩
    rw [Nat.le_div_iff_mul_le positive]
    exact (length_filter_le_of_isChain apart).trans (Nat.add_sub_cancel_left start span).le

/-- A put, two clearances, and look-ups at times that go back in between. -/
def restless : List Step :=
  [.put, .clear ⟨1, 5, true⟩, .access .hardHit 100, .access .miss 310, .access .softHit 50,
    .clear ⟨2, 7, false⟩]

/-- A recorder that started at time ten and reported at 310 reports again at 615, and says all that
it was told; these are the only two reports, and there is room for no third one. -/
theorem emission_is_rate_limited_restless :
    (tally true (restless ++ [.access .weakHit 615])).Fits ∧
      ((finalState History.step (createAt 300 10) restless).step (.access .weakHit 615)).result =
        .ok (.statistics ⟨1, 2, 1, 12, 4, 1, 1, 1, 1⟩) ∧
      (createAt 300 10).emissions (restless ++ [.access .weakHit 615]) = [310, 615] ∧
      (([310, 615] : List Nat).filter fun time => time ≤ 10 + 605).length ≤ 605 / 300 := by
  have fits : (tally true (restless ++ [.access .weakHit 615])).Fits := by decide
  have reports : (createAt 300 10).emissions (restless ++ [.access .weakHit 615]) = [310, 615] :=
    rfl
  obtain ⟨result, -, -, -, apart⟩ := @emission_is_rate_limited _ 300 10 _ _ fits
  have last : lastReport 300 10 restless = 310 := rfl
  have total : tally true (restless ++ [.access .weakHit 615]) = ⟨1, 2, 1, 12, 4, 1, 1, 1, 1⟩ := rfl
  obtain ⟨-, -, bounded⟩ := apart (by decide)
  have room := bounded 605
  rw [reports] at room
  rw [last, total, if_pos (by decide)] at result
  exact ⟨fits, result, reports, room⟩

end TableCache.Recorder
