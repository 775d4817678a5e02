import TableCache.Proofs.Engine.Inbox
import TableCache.Proofs.System.View

/-!
# What a run brings for one engine

Most of what is said of the history of an engine is said of the requests that it answered, and of
what these brought, one after the other. `gather` collects such things along a run, and `history`
those that acts bring for an engine while it is running.

Main statements:

1. `serving_of_locks`: after an act that takes the lock of an engine the engine is running, and its
   inbox is empty;
2. `history_build`, `history_concat`: what a run brought for an engine, up to the first and to the
   last act that it saw.
-/

namespace TableCache

universe u v

variable {Row : Type u}

/-! ## Requests that are answered -/

/-- The request that an act makes of an engine, if it may be made. -/
def Act.request? (act : Act Row) (number : Nat) (keys : Keys) : Option (Request Row) :=
  match act with
  | .ask other request =>
      if other = number ∧ request.isAdmitted keys = true then some request else none
  | _ => none

theorem Act.request?_ask {number : Nat} {keys : Keys} {request : Request Row}
    (admitted : request.isAdmitted keys = true) :
    (Act.ask number request).request? number keys = some request :=
  if_pos ⟨rfl, admitted⟩

theorem Act.request?_eq_some {act : Act Row} {number : Nat} {keys : Keys} {request : Request Row}
    (asked : act.request? number keys = some request) :
    act = .ask number request ∧ request.isAdmitted keys = true := by
  unfold Act.request? at asked
  split at asked
  next other request =>
    split at asked
    next admitted =>
      cases asked
      exact ⟨by rw [admitted.1], admitted.2⟩
    next => cases asked
  next => cases asked

theorem Act.request?_of_unreached {act : Act Row} {number : Nat} {keys : Keys}
    {engine : Engine Row} (unreached : ¬act.reaches number keys (.running engine)) :
    act.request? number keys = none := by
  cases act with
  | ask other request => exact if_neg unreached
  | _ => rfl

/-- A turn of an engine that goes on is the answer to a request, or the act asks nothing of it. -/
theorem Turn.request_cases {number : Nat} {host next : Host} {engine after : Engine Row}
    {held others : Multiset Nat} {act : Act Row}
    (turn : Turn number host (.running engine) held act next (.running after) others) :
    (∃ request, act.request? number host.keys = some request ∧
        ((⟨engine, host⟩ : Hosted Row).perform request).state = ⟨after, next⟩) ∨
      act.request? number host.keys = none := by
  cases turn with
  | @asked state held request admitted => exact .inl ⟨request, Act.request?_ask admitted, rfl⟩
  | pruned counting => rcases counting with rfl | rfl <;> exact .inr rfl
  | spared unreached => exact .inr (Act.request?_of_unreached unreached)
  | _ => exact .inr rfl

namespace System

/-- Whether an act takes the lock of an engine. -/
def locks (system : System Row) (number : Nat) (act : Act Row) : Bool :=
  (system.serving? number).any fun state =>
    (act.request? number state.host.keys).any Request.locks

/-- What some acts bring one after the other, each of them taken where the one before led. -/
def gather {α : Type v} (what : System Row → Act Row → List α) (system : System Row) :
    List (Act Row) → List α
  | [] => []
  | act :: rest => what system act ++ gather what (system.step act).state rest

variable {system : System Row} {number : Nat} {engine : Engine Row} {acts : List (Act Row)}
  {act : Act Row}

theorem locks_of_running (running : system.caches[number]? = some (.running engine))
    (act : Act Row) :
    system.locks number act = (act.request? number system.host.keys).any Request.locks := by
  have serving : system.serving? number = some ⟨engine, system.host⟩ :=
    serving?_eq_some_iff.2 ⟨running, rfl⟩
  rw [locks, serving, Option.any_some]

/-- An act that takes the lock of an engine is a request that the engine answers. -/
theorem ask_of_locks (locks : system.locks number act = true) :
    ∃ state request, system.serving? number = some state ∧ act = .ask number request ∧
      request.isAdmitted state.host.keys = true ∧ request.locks = true := by
  obtain ⟨state, serving, reached⟩ := (Option.any_eq_true _ _).1 locks
  obtain ⟨request, asked, taken⟩ := (Option.any_eq_true _ _).1 reached
  obtain ⟨rfl, admitted⟩ := Act.request?_eq_some asked
  exact ⟨state, request, serving, rfl, admitted, taken⟩

/-- After an act that takes the lock of an engine the engine is running, with an empty inbox. -/
theorem serving_of_locks (sound : system.Sound) (locks : system.locks number act = true) :
    ∃ state, (system.step act).state.serving? number = some state ∧
      state.host.keys.posted state.engine.store.inbox = [] := by
  obtain ⟨state, request, serving, rfl, admitted, taken⟩ := ask_of_locks locks
  obtain ⟨running, host⟩ := running_ask serving admitted
  refine ⟨(state.perform request).state, serving?_eq_some_iff.2 ⟨running, host.symm⟩, ?_⟩
  exact Hosted.posted_perform (sound.caches number _ (serving?_eq_some_iff.1 serving).1) taken

/-! ## Runs -/

section

variable {α : Type v} (what : System Row → Act Row → List α)

theorem gather_append (system : System Row) (first second : List (Act Row)) :
    gather what system (first ++ second) =
      gather what system first ++ gather what (finalState step system first) second := by
  induction first generalizing system with
  | nil => rfl
  | cons act rest ih =>
      rw [List.cons_append, gather, gather, ih, finalState, List.append_assoc]

theorem gather_concat (system : System Row) (acts : List (Act Row)) (act : Act Row) :
    gather what system (acts ++ [act]) =
      gather what system acts ++ what (finalState step system acts) act := by
  rw [gather_append, gather, gather, List.append_nil]

end

variable {α : Type v} {what : Act Row → Hosted Row → List α}

/-- What an act brings for an engine if it is running. -/
def whileServing (what : Act Row → Hosted Row → List α) (number : Nat) (system : System Row)
    (act : Act Row) : List α :=
  ((system.serving? number).map (what act)).getD []

/-- What the acts of a run brought for an engine while it was running. -/
def history (what : Act Row → Hosted Row → List α) (number : Nat) (acts : List (Act Row)) :
    List α :=
  gather (whileServing what number) empty acts

theorem whileServing_of_absent (absent : system.serving? number = none) (act : Act Row) :
    whileServing what number system act = [] := by
  rw [whileServing, absent]
  rfl

theorem whileServing_of_running (running : system.caches[number]? = some (.running engine))
    (act : Act Row) :
    whileServing what number system act = what act ⟨engine, system.host⟩ := by
  have serving : system.serving? number = some ⟨engine, system.host⟩ :=
    serving?_eq_some_iff.2 ⟨running, rfl⟩
  rw [whileServing, serving]
  rfl

theorem serving?_of_absent (absent : system.caches[number]? = none) :
    system.serving? number = none := by
  rw [serving?, absent]

theorem history_append_singleton (number : Nat) (acts : List (Act Row)) (act : Act Row) :
    history what number (acts ++ [act]) =
      history what number acts ++ whileServing what number (after acts) act :=
  gather_concat _ empty acts act

theorem history_concat_of_absent (absent : (after acts).serving? number = none) (act : Act Row) :
    history what number (acts ++ [act]) = history what number acts := by
  rw [history_append_singleton, whileServing_of_absent absent, List.append_nil]

/-- The last act brings what it brings for the engine as it was then. -/
theorem history_concat (running : (after acts).caches[number]? = some (.running engine))
    (act : Act Row) :
    history what number (acts ++ [act]) =
      history what number acts ++ what act ⟨engine, (after acts).host⟩ := by
  rw [history_append_singleton, whileServing_of_running running]

/-- Nothing is brought for an engine before it is built. -/
theorem history_of_absent (absent : (after acts).caches[number]? = none) :
    history what number acts = [] := by
  induction acts using List.reverseRecOn with
  | nil => rfl
  | append_singleton acts act ih =>
      rw [after_concat] at absent
      rcases before : (after acts).caches[number]? with _ | cache
      · rw [history_concat_of_absent (serving?_of_absent before), ih before]
      · obtain ⟨found, here, -⟩ := turn_of_step before act
        rw [absent] at here
        cases here

theorem history_build (absent : (after acts).caches[number]? = none) (config : Config) :
    history what number (acts ++ [.build config]) = [] := by
  rw [history_concat_of_absent (serving?_of_absent absent), history_of_absent absent]

end System

end TableCache
