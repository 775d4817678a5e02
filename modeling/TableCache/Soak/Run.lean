import TableCache.Soak.Task

/-!
# Soaks on a virtual clock

On a virtual clock work takes no time. At time zero every producer makes its first table, and then
the reclaimer runs its first pass. Producers finish a table a flush delay after they made it, and
make the next one at that instant; passes follow each other by the reclaim interval. At every
instant at which something happens each consumer takes one turn. When a soak is cancelled, each
waiting producer finishes its table at once, and every task ends.

Main definitions:

1. `Timeline.actions`: the actions before the soak is cancelled, by time;
2. `Failure`: why a soak has no outcome;
3. `runUntil`: a soak cancelled at some time;
4. `runForTurns`: a soak cancelled after some turns of its consumers, before any table is flushed.
-/

namespace TableCache.Soak

/-- What a run leaves behind: its summary, and the number of entries once all keys were given up. -/
structure Outcome where
  summary : Summary
  sizeAfter : Nat
  deriving DecidableEq, Repr, Inhabited

/-- Why a soak has no outcome. -/
inductive Failure where
  /-- The configuration of the cache or the settings are refused, or a task failed. -/
  | refused (error : CacheError)
  /-- The soak stopped before its tasks ran. -/
  | stopped (fault : Fault)
  deriving DecidableEq, Repr

namespace Timeline

/-- Actions at an instant. -/
abbrev Moment := Nat × List Action

/-- Every producer takes the same actions. -/
def eachProducer (settings : Settings) (actions : Nat → List Action) : List Action :=
  (List.range settings.producers).flatMap actions

/-- How many multiples of a positive interval lie before `stop`. -/
def multiplesBefore (interval stop : Nat) : Nat := (stop + interval - 1) / interval

/-- How many times a producer turns to a table before `stop`, the end after its last table included.
Without a delay it turns to all of them at once. -/
def turnsBefore (settings : Settings) (stop : Nat) : Nat :=
  if settings.flushDelay = 0 ∧ 0 < stop then settings.tablesPerProducer + 1
  else Nat.min (settings.tablesPerProducer + 1) (multiplesBefore settings.flushDelay stop)

/-- The instants before `stop` at which producers make and finish tables. -/
def producing (settings : Settings) (stop : Nat) : List Moment :=
  (List.range (turnsBefore settings stop)).map fun table =>
    (table * settings.flushDelay,
      eachProducer settings fun producer => [.flush producer, .put producer])

/-- The instants before `stop` at which the reclaimer runs. -/
def reclaiming (settings : Settings) (stop : Nat) : List Moment :=
  (List.range (multiplesBefore settings.reclaimInterval stop)).map
    fun number => (number * settings.reclaimInterval, [.pass])

/-- Two lists of moments as one, by time; at one instant those of the first list come first. -/
def interleave (first second : List Moment) : List Moment :=
  (first ++ second).mergeSort fun earlier later => earlier.1 ≤ later.1

/-- The actions before `stop`, by time. -/
def actions (settings : Settings) (stop : Nat) : List Moment :=
  interleave (producing settings stop) (reclaiming settings stop)

/-- The end: the soak is cancelled, and every task comes to its end. -/
def ending (settings : Settings) : List Action :=
  [.cancel]
    ++ eachProducer settings (fun producer => [.flush producer, .stopProducer producer])
    ++ (List.range settings.consumers).map .stopConsumer
    ++ [.stopReclaimer]

end Timeline

namespace State

/-- One turn of a consumer: look-ups up to its next yield. Only reports depend on their time, which
is left at zero. -/
def takeTurn (state : State) (consumer : Nat) : Reply State Unit :=
  match state.consumers[consumer]? with
  | some (.next cursor) =>
      actAll (List.replicate (Consumer.turn cursor) (.lookup consumer 0)) state
  | _ => .ok state ()

/-- One turn of some consumers, one after the other. -/
def takeTurnsOf : List Nat → State → Reply State Unit
  | [], state => .ok state ()
  | consumer :: rest, state =>
      (state.takeTurn consumer).andThen fun state _ => takeTurnsOf rest state

/-- One turn of every consumer. -/
def takeTurns (state : State) : Reply State Unit :=
  takeTurnsOf (List.range state.consumers.size) state

/-- Some rounds of turns. -/
def takeRounds : Nat → State → Reply State Unit
  | 0, state => .ok state ()
  | rounds + 1, state => state.takeTurns.andThen fun state _ => takeRounds rounds state

/-- The actions at some instants, with a turn of every consumer at each. -/
def live : List Timeline.Moment → State → Reply State Unit
  | [], state => .ok state ()
  | (_, actions) :: rest, state =>
      ((actAll actions state).andThen fun state _ => state.takeTurns).andThen fun state _ =>
        live rest state

/-- The end of a soak: every task ends, the soak reports, and the published keys are given up. -/
def finish (state : State) : Reply State Outcome :=
  (actAll (Timeline.ending state.settings) state).andThen fun state _ =>
    state.summarize.andThen fun state summary =>
      let closed := state.closeDirectory
      (closed.cache.size.within closed.withCache).map fun size => ⟨summary, size⟩

end State

/-- A cache of a configuration and a soak over it at its start, unless one of them is refused or
there is no room for the tasks. The configuration of the cache is looked at first. -/
def prepare (config : Config) (settings : Settings) : Except Failure State := do
  let cache ← (Hosted.create config .empty).mapError .refused
  settings.validate.mapError .refused
  if !settings.hasRoom then throw (.stopped .tooManyTasks)
  return .create settings cache

/-- A fault in a task fails the soak. -/
def outcomeOf (reply : Reply State Outcome) : Except Failure Outcome :=
  match reply.result with
  | .ok outcome => .ok outcome
  | .error fault => .error (.refused (.internal ("soak task failed: " ++ fault.message)))

/-- A soak cancelled at time `stop`; zero is before it starts. -/
def runUntil (config : Config) (settings : Settings) (stop : Nat) : Except Failure Outcome := do
  let state ← prepare config settings
  outcomeOf
    ((State.live (Timeline.actions settings stop) state).andThen fun state _ => state.finish)

/-- A soak cancelled after some rounds of turns at time zero. -/
def runForTurns (config : Config) (settings : Settings) (rounds : Nat) :
    Except Failure Outcome := do
  let state ← prepare config settings
  outcomeOf
    ((State.actAll (Timeline.eachProducer settings fun producer => [.put producer])
        state).andThen fun state _ =>
      (State.takeRounds rounds state).andThen fun state _ =>
        (state.act .pass).andThen fun state _ => state.finish)

end TableCache.Soak
