import TableCache.Event

/-!
# Faults and replies

A caller that breaks the contract of an operation stops it with a fault. The operation has then done
what it did before the fault, and nothing of it is taken back. So the reply of an operation always
carries the state it left behind and the events it logged, beside its result or its fault.
-/

namespace TableCache

universe u v w x

/-- Why an operation stopped. -/
inductive Fault where
  /-- A recency index was asked to hold no key. -/
  | zeroCapacity
  /-- A counter would have left the range of words. -/
  | overflow
  /-- The classes of look-ups do not add up to the look-ups. -/
  | outOfBalance
  /-- There is no room for the tasks of a soak. -/
  | tooManyTasks
  /-- A table was to be given up before its buffer reported it persisted. -/
  | unpersisted (key : Key)
  deriving DecidableEq, Repr, Inhabited

/-- The text of a fault. -/
def Fault.message : Fault → String
  | .zeroCapacity => "recency capacity must be at least 1"
  | .overflow => "attempt to add with overflow"
  | .outOfBalance => "access counters out of balance"
  | .tooManyTasks => "capacity overflow"
  | .unpersisted key =>
      "table for " ++ key.text ++ " cleared for reclaim before it was persisted"

/-- What an operation leaves behind: a result or a fault, a state, and events in order. -/
structure Reply (σ : Type u) (α : Type v) where
  result : Except Fault α
  state : σ
  events : List Event

namespace Reply

variable {σ : Type u} {τ : Type w} {α : Type v} {β : Type x}

/-- A result without events. -/
def ok (state : σ) (value : α) : Reply σ α := ⟨.ok value, state, []⟩

/-- A fault without events. -/
def stop (state : σ) (fault : Fault) : Reply σ α := ⟨.error fault, state, []⟩

/-- A result with the events before it. -/
def logged (state : σ) (events : List Event) (value : α) : Reply σ α := ⟨.ok value, state, events⟩

/-- Puts events before those of a reply. -/
def after (events : List Event) (reply : Reply σ α) : Reply σ α :=
  { reply with events := events ++ reply.events }

/-- Goes on from a result; a fault ends it. -/
def andThen (first : Reply σ α) (next : σ → α → Reply σ β) : Reply σ β :=
  match first.result with
  | .ok value => (next first.state value).after first.events
  | .error fault => ⟨.error fault, first.state, first.events⟩

/-- Changes the result and leaves all else. -/
def map (change : α → β) (reply : Reply σ α) : Reply σ β :=
  { reply with result := reply.result.map change }

/-- Puts the state back into a larger one. -/
def within (put : σ → τ) (reply : Reply σ α) : Reply τ α :=
  ⟨reply.result, put reply.state, reply.events⟩

@[simp]
theorem andThen_ok (state : σ) (value : α) (next : σ → α → Reply σ β) :
    (ok state value).andThen next = next state value := rfl

@[simp]
theorem andThen_stop (state : σ) (fault : Fault) (next : σ → α → Reply σ β) :
    (stop state fault : Reply σ α).andThen next = stop state fault := rfl

end Reply

/-- A word that a sum must not leave: the sum, or the fault of leaving the range. -/
def Fault.ofSum {α : Type u} : Option α → Except Fault α
  | some value => .ok value
  | none => .error .overflow

/-! ## Histories -/

variable {σ : Type u} {ι : Type v} {α : Type w}

/-- The replies to a list of steps, each taken from the state that the one before left. A fault does
not end the list. -/
def replies (step : σ → ι → Reply σ α) : σ → List ι → List (Reply σ α)
  | _, [] => []
  | state, first :: rest =>
      let reply := step state first
      reply :: replies step reply.state rest

/-- The state after a list of steps. -/
def finalState (step : σ → ι → Reply σ α) : σ → List ι → σ
  | state, [] => state
  | state, first :: rest => finalState step (step state first).state rest

theorem finalState_append (step : σ → ι → Reply σ α) (state : σ) (first second : List ι) :
    finalState step state (first ++ second) =
      finalState step (finalState step state first) second := by
  induction first generalizing state with
  | nil => rfl
  | cons head tail ih => exact ih _

end TableCache
