import TableCache.Proofs.Soak.Balance
import TableCache.Proofs.Soak.Strides

/-!
# How a consumer goes round the published tables

Between the look-ups of one consumer other tasks take any number of turns. As long as nothing new is
published they do not matter: the consumer reads the directory in strides. So it reads every
published key once in as many look-ups as there are keys, unless seven divides their number.

Main definitions:

1. `State.reads?`, `State.readsOf`: the keys that a consumer looks up;
2. `State.Steps`: what an action does to the consumers;
3. `State.Published`: the published keys are different.

Main statements:

1. `readsOf_eq`: a consumer reads in strides while nothing is published;
2. `published_act`: no key is published twice;
3. `consumer_reads_rounds`: when a consumer reads all keys, and what it reads if not.
-/

namespace TableCache.Soak

namespace State

/-- The key that a consumer looks up by an action. -/
def reads? (state : State) (consumer : Nat) : Action → Option Nat
  | .lookup other _ =>
      if other = consumer ∧ state.isCancelled = false then
        match state.consumers[consumer]? with
        | some (.next cursor) => Consumer.pick state.directory cursor
        | _ => none
      else none
  | _ => none

/-- The keys that a consumer looks up by some actions, in order. -/
def readsOf (consumer : Nat) : List Action → State → List Nat
  | [], _ => []
  | action :: rest, state =>
      (state.reads? consumer action).toList ++ readsOf consumer rest (state.act action).state

variable {state : State} {config : Config} {settings : Settings} {made : Nat → Nat}
  {action : Action} {actions : List Action} {consumer cursor : Nat}

/-! ## The first of several actions -/

theorem actAll_cons (done : (actAll (action :: actions) state).result = .ok ()) :
    (state.act action).result = .ok () ∧
      (actAll actions (state.act action).state).result = .ok () ∧
      (actAll (action :: actions) state).state =
        (actAll actions (state.act action).state).state := by
  rw [actAll] at done ⊢
  cases first : (state.act action).result with
  | ok value =>
      rw [Reply.andThen_of_ok first, Reply.result_after] at done
      rw [Reply.andThen_of_ok first]
      exact ⟨rfl, done, rfl⟩
  | error fault =>
      rw [Reply.andThen_of_error first] at done
      cases done

/-! ## What happens to consumers -/

/-- What an action makes of the consumers: nothing that one of them reads, a look-up, or an end. -/
inductive Steps (state : State) : Action → Array Reading → Prop
  | idle {action : Action} : (∀ consumer, state.reads? consumer action = none) →
      Steps state action state.consumers
  | read {consumer cursor keyId now : Nat} : state.isCancelled = false →
      state.consumers[consumer]? = some (.next cursor) →
      Consumer.pick state.directory cursor = some keyId →
      Steps state (.lookup consumer now)
        (state.consumers.setIfInBounds consumer (.next (Consumer.advance cursor)))
  | stop (consumer : Nat) :
      Steps state (.stopConsumer consumer) (state.consumers.setIfInBounds consumer .done)

theorem consumers_putTable {producer table : Nat}
    (done : (state.putTable producer table).result = .ok ()) :
    (state.putTable producer table).state.consumers = state.consumers := by
  cases put : (state.putting producer table).result with
  | ok cached => rw [(putTable_of_ok put).2]; rfl
  | error fault => simp [putTable_of_error put] at done

theorem consumers_lookupKey {keyId now : Nat}
    (done : (state.lookupKey consumer cursor keyId now).result = .ok ()) :
    (state.lookupKey consumer cursor keyId now).state.consumers =
      state.consumers.setIfInBounds consumer (.next (Consumer.advance cursor)) := by
  cases found : (state.cache.lookup keyId now).result with
  | ok found' => rw [(lookupKey_of_ok found).2]; rfl
  | error fault => simp [lookupKey_of_error found] at done

theorem passOnce_of_ok (done : state.passOnce.result = .ok ()) :
    ∃ merged, state.passOnce.state = { state with cache := state.passed, reclaimed := merged } := by
  rcases passOnce_eq (rfl : (state.cache.engine.reclaim state.pressure).result = .ok _) with
    ⟨-, full⟩ | ⟨merged, -, -, state'⟩
  · rw [full] at done
    cases done
  · exact ⟨merged, state'⟩

/-- A look-up of a soak that is cancelled, or of a consumer that is not at a published key, reads
nothing. -/
theorem reads?_of_idle {other now : Nat}
    (idle : ∀ cursor keyId, state.consumers[other]? = some (.next cursor) →
      state.isCancelled = false → Consumer.pick state.directory cursor ≠ some keyId)
    (consumer : Nat) : state.reads? consumer (.lookup other now) = none := by
  simp only [reads?]
  split
  next looks =>
    obtain ⟨rfl, running⟩ := looks
    split
    next cursor there =>
      exact Option.eq_none_iff_forall_ne_some.2 fun keyId => idle cursor keyId there running
    next => rfl
  next => rfl

theorem steps_act (done : (state.act action).result = .ok ()) :
    state.Steps action (state.act action).state.consumers := by
  generalize same : state.act action = reply at done ⊢
  cases action with
  | put producer =>
      simp only [act] at same
      split at same
      next =>
        split at same
        next => subst same; exact .idle fun _ => rfl
        next =>
          subst same
          rw [consumers_putTable done]
          exact .idle fun _ => rfl
      next => subst same; exact .idle fun _ => rfl
  | flush producer =>
      simp only [act] at same
      split at same
      next table buffer _ =>
        subst same
        rw [(flushTable_eq state producer table buffer).2]
        exact .idle fun _ => rfl
      next => subst same; exact .idle fun _ => rfl
  | stopProducer producer =>
      simp only [act] at same
      split at same
      next => split at same <;> subst same <;> exact .idle fun _ => rfl
      next => subst same; exact .idle fun _ => rfl
  | lookup consumer now =>
      simp only [act] at same
      split at same
      next cursor there =>
        split at same
        next keyId running picked =>
          subst same
          rw [consumers_lookupKey done]
          exact .read running there picked
        next nothing =>
          subst same
          refine .idle (reads?_of_idle fun other keyId there' running picked => ?_)
          rw [there] at there'
          cases there'
          exact nothing keyId running picked
      next nowhere =>
        subst same
        exact .idle (reads?_of_idle fun cursor keyId there => absurd there (nowhere cursor))
  | stopConsumer consumer =>
      simp only [act] at same
      split at same
      next =>
        split at same
        next => subst same; exact .stop consumer
        next => subst same; exact .idle fun _ => rfl
      next => subst same; exact .idle fun _ => rfl
  | pass =>
      simp only [act] at same
      split at same
      next =>
        subst same
        obtain ⟨merged, state'⟩ := passOnce_of_ok done
        rw [state']
        exact .idle fun _ => rfl
      next => subst same; exact .idle fun _ => rfl
  | stopReclaimer => subst same; exact .idle fun _ => rfl
  | cancel => subst same; exact .idle fun _ => rfl

/-- A consumer that is at its end stays there and reads nothing. -/
theorem reads?_of_done (ended : state.consumers[consumer]? = some .done) (action : Action) :
    state.reads? consumer action = none := by
  unfold reads?
  split
  next => rw [ended]; exact ite_self none
  next => rfl

theorem done_act (done : (state.act action).result = .ok ())
    (ended : state.consumers[consumer]? = some .done) :
    (state.act action).state.consumers[consumer]? = some .done := by
  have steps := steps_act done
  generalize (state.act action).state.consumers = consumers at steps ⊢
  cases steps with
  | idle => exact ended
  | @read other cursor keyId now running there picked =>
      rw [Array.getElem?_setIfInBounds_ne, ended]
      rintro rfl
      rw [ended] at there
      cases there
  | stop other =>
      rw [Array.getElem?_setIfInBounds]
      split
      next same =>
        obtain ⟨room, -⟩ := Array.getElem?_eq_some_iff.1 ended
        rw [if_pos (same ▸ room)]
      next => exact ended

/-- A consumer that is at a cursor reads what it is at and moves on, or it reads nothing, and then
it stays or ends. -/
theorem next_act (done : (state.act action).result = .ok ())
    (there : state.consumers[consumer]? = some (.next cursor)) :
    (∃ keyId, state.reads? consumer action = some keyId ∧
        Consumer.pick state.directory cursor = some keyId ∧
        (state.act action).state.consumers[consumer]? =
          some (.next (Consumer.advance cursor))) ∨
      state.reads? consumer action = none ∧
        ((state.act action).state.consumers[consumer]? = some (.next cursor) ∨
          (state.act action).state.consumers[consumer]? = some .done) := by
  have steps := steps_act done
  obtain ⟨room, -⟩ := Array.getElem?_eq_some_iff.1 there
  generalize (state.act action).state.consumers = consumers at steps ⊢
  cases steps with
  | idle nothing => exact .inr ⟨nothing consumer, .inl there⟩
  | @read other at' keyId now running there' picked =>
      by_cases same : other = consumer
      · subst same
        rw [there] at there'
        cases there'
        refine .inl ⟨keyId, ?_, picked, ?_⟩
        · rw [reads?, if_pos ⟨rfl, running⟩, there]
          exact picked
        · rw [Array.getElem?_setIfInBounds_self_of_lt room]
      · refine .inr ⟨if_neg fun both => same both.1, .inl ?_⟩
        rw [Array.getElem?_setIfInBounds_ne same, there]
  | stop other =>
      refine .inr ⟨rfl, ?_⟩
      rw [Array.getElem?_setIfInBounds]
      split
      next same => exact .inr (if_pos (same ▸ room))
      next => exact .inl there

/-! ## What is published -/

/-- The published keys are different, and were all made. -/
structure Published (state : State) : Prop where
  distinct : state.directory.Nodup
  made : ∀ keyId ∈ state.directory, keyId < state.nextKey

namespace Published

theorem of_same {after : State} (published : state.Published)
    (same : after.directory = state.directory) (next : state.nextKey ≤ after.nextKey) :
    after.Published := by
  refine ⟨same ▸ published.distinct, fun keyId member => ?_⟩
  rw [same] at member
  exact (published.made keyId member).trans_le next

/-- A producer publishes a key that was not made before. -/
theorem append {after : State} (published : state.Published)
    (more : after.directory = state.directory ++ [state.nextKey])
    (next : state.nextKey < after.nextKey) : after.Published := by
  refine ⟨?_, fun keyId member => ?_⟩
  · rw [more, List.nodup_append]
    refine ⟨published.distinct, List.nodup_singleton _, fun keyId member other new => ?_⟩
    rw [List.mem_singleton.1 new]
    exact Nat.ne_of_lt (published.made keyId member)
  · rw [more, List.mem_append, List.mem_singleton] at member
    rcases member with old | rfl
    · exact (published.made keyId old).trans next
    · exact next

end Published

theorem nextKey_putTable {producer table cached : Nat}
    (done : (state.putting producer table).result = .ok cached) :
    state.nextKey < (state.putTable producer table).state.nextKey := by
  have follows := Hosted.follows_put (state.labelled producer table) state.nextKey
    (makeRows state.settings table)
  have shared := (Keys.later_share ((state.putting producer table).state.release cached).host.keys
    state.nextKey).next_le
  rw [(putTable_of_ok done).2]
  refine Nat.lt_of_lt_of_le ?_ shared
  show state.nextKey < (state.putting producer table).state.host.keys.owned.next
  rw [putting, follows.next]
  exact (Numbered.next_add _ _).symm ▸ Nat.lt_succ_self _

theorem nextKey_flushTable (tasks : state.Tasks config settings made) (producer table : Nat)
    (buffer : Buffer) : state.nextKey ≤ (state.flushTable producer table buffer).state.nextKey := by
  have cleared := (Hosted.follows_perform tasks.cache.sound (.clear buffer.keyId true)).next
  have released := (Keys.later_release (state.settling table buffer.keyId).state.host.keys
    buffer.keyId).next_le
  rw [(flushTable_eq state producer table buffer).2]
  refine Nat.le_trans (Nat.le_of_eq ?_) released
  rw [Tasks.settling_state]
  split
  next =>
    rw [(Hosted.follows_perform (tasks.cache.clear buffer.keyId).sound
      (.invalidate buffer.keyId)).next, cleared]
    rfl
  next => exact cleared.symm

theorem nextKey_lookupKey (tasks : state.Tasks config settings made) {keyId now : Nat}
    {found : Found} (done : (state.cache.lookup keyId now).result = .ok found) :
    (state.lookupKey consumer cursor keyId now).state.nextKey = state.nextKey := by
  have follows := (Hosted.follows_lookup tasks.cache.sound keyId now).next
  rw [(lookupKey_of_ok done).2]
  refine Eq.trans ?_ follows
  show (state.answered keyId now found).host.keys.owned.next = _
  unfold answered
  cases found.table <;> rfl

/-- An action publishes different keys as long as the published ones are, and takes none back. -/
theorem published_act (tasks : state.Tasks config settings made) (published : state.Published)
    (done : (state.act action).result = .ok ()) :
    (state.act action).state.Published ∧
      ∃ more, (state.act action).state.directory = state.directory ++ more := by
  have comes := comes_act state action
  generalize state.act action = reply at done comes ⊢
  cases comes with
  | idle action => exact ⟨published, [], (List.append_nil _).symm⟩
  | @put producer table there more =>
      cases put : (state.putting producer table).result with
      | ok cached =>
          have next := nextKey_putTable put
          have state' := (putTable_of_ok put).2
          exact ⟨published.append (congrArg State.directory state') next, _,
            congrArg State.directory state'⟩
      | error fault => simp [putTable_of_error put] at done
  | @flush producer table buffer there =>
      have directory := congrArg State.directory (flushTable_eq state producer table buffer).2
      exact ⟨published.of_same directory (nextKey_flushTable tasks producer table buffer), [],
        directory.trans (List.append_nil _).symm⟩
  | stopProducer there =>
      exact ⟨published.of_same rfl (Nat.le_refl _), [], (List.append_nil _).symm⟩
  | lookup consumer cursor keyId now =>
      cases found : (state.cache.lookup keyId now).result with
      | ok found' =>
          have directory := congrArg State.directory
            (@lookupKey_of_ok state keyId consumer cursor now _ found).2
          exact ⟨published.of_same directory (nextKey_lookupKey tasks found).ge, [],
            directory.trans (List.append_nil _).symm⟩
      | error fault => simp [lookupKey_of_error found] at done
  | pass =>
      obtain ⟨merged, state'⟩ := passOnce_of_ok done
      have directory := congrArg State.directory state'
      have next := congrArg State.nextKey state'
      exact ⟨published.of_same directory next.ge, [], directory.trans (List.append_nil _).symm⟩
  | aside notPut consumers isReclaiming isCancelled =>
      exact ⟨published.of_same rfl (Nat.le_refl _), [], (List.append_nil _).symm⟩

theorem order_act (order : state.InOrder config settings made)
    (done : (state.act action).result = .ok ()) :
    ∃ made, (state.act action).state.InOrder config settings made := by
  rcases order.act action with ⟨-, later, -⟩ | ⟨full, -⟩
  · exact ⟨_, later⟩
  · rw [full] at done
    cases done

/-- So do some actions, and the tasks stay in order. -/
theorem published_actAll (order : state.InOrder config settings made) (published : state.Published)
    (done : (actAll actions state).result = .ok ()) :
    (∃ made, (actAll actions state).state.InOrder config settings made) ∧
      (actAll actions state).state.Published ∧
      ∃ more, (actAll actions state).state.directory = state.directory ++ more := by
  induction actions generalizing state made with
  | nil => exact ⟨⟨made, order⟩, published, [], (List.append_nil _).symm⟩
  | cons action rest ih =>
      obtain ⟨first, others, state'⟩ := actAll_cons done
      obtain ⟨published', more, grown⟩ := published_act order.tasks published first
      obtain ⟨made', order'⟩ := order_act order first
      obtain ⟨kept, last, more', grown'⟩ := ih order' published' others
      rw [state']
      exact ⟨kept, last, more ++ more', by rw [grown', grown, List.append_assoc]⟩

/-! ## What a consumer reads -/

theorem readsOf_of_done (done : (actAll actions state).result = .ok ())
    (ended : state.consumers[consumer]? = some .done) : readsOf consumer actions state = [] := by
  induction actions generalizing state with
  | nil => rfl
  | cons action rest ih =>
      obtain ⟨first, others, -⟩ := actAll_cons done
      rw [readsOf, reads?_of_done ended, ih others (done_act first ended)]
      rfl

/-- While nothing is published a consumer reads the directory in strides, whatever other tasks do.
The directory only grows, so if it is the same at the end it was the same all the time. -/
theorem readsOf_eq (order : state.InOrder config settings made) (published : state.Published)
    (done : (actAll actions state).result = .ok ())
    (there : state.consumers[consumer]? = some (.next cursor))
    (steady : (actAll actions state).state.directory = state.directory) :
    readsOf consumer actions state =
      Consumer.reads state.directory (readsOf consumer actions state).length cursor := by
  induction actions generalizing state made cursor with
  | nil => rfl
  | cons action rest ih =>
      obtain ⟨first, others, state'⟩ := actAll_cons done
      obtain ⟨published', more, grown⟩ := published_act order.tasks published first
      obtain ⟨made', order'⟩ := order_act order first
      obtain ⟨-, -, more', grown'⟩ := published_actAll order' published' others
      have same : (state.act action).state.directory = state.directory := by
        rw [state', grown', grown, List.append_assoc, List.append_right_eq_self,
          List.append_eq_nil_iff] at steady
        rw [grown, steady.1, List.append_nil]
      have later : (actAll rest (state.act action).state).state.directory =
          (state.act action).state.directory := by
        rw [same, ← state']
        exact steady
      rw [readsOf]
      rcases next_act first there with ⟨keyId, reads, picked, moved⟩ | ⟨nothing, stays | ends⟩
      · have strides := ih order' published' others moved later
        rw [reads, Option.toList_some, List.singleton_append, List.length_cons, Consumer.reads,
          picked, Option.toList_some, List.singleton_append]
        rw [same] at strides
        exact congrArg (List.cons keyId) strides
      · have strides := ih order' published' others stays later
        rw [same] at strides
        rw [nothing, Option.toList_none, List.nil_append]
        exact strides
      · rw [nothing, readsOf_of_done others ends]
        rfl

/-- A state that some soak over a new cache comes to. -/
structure Reached (state : State) (config : Config) (settings : Settings) (host : Host)
    (earlier : List Action) : Prop where
  valid : config.validate = .ok ()
  done : (actAll earlier (create settings (Hosted.build config host))).result = .ok ()
  state : (actAll earlier (create settings (Hosted.build config host))).state = state

theorem Reached.published {host : Host} {earlier : List Action}
    (reached : state.Reached config settings host earlier) :
    (∃ made, state.InOrder config settings made) ∧ state.Published := by
  obtain ⟨valid, done, rfl⟩ := reached
  have none : (create settings (Hosted.build config host)).Published :=
    ⟨List.nodup_nil, fun _ member => absurd member List.not_mem_nil⟩
  obtain ⟨order, published, -⟩ := published_actAll (inOrder_create valid settings host) none done
  exact ⟨order, published⟩

end State

/-- A stretch of a soak in which nothing new is published, and in which a consumer looks up as many
keys as are published, without its cursor wrapping around: the consumer reads every published key
once, if and only if seven does not divide their number.

If it does, the consumer reads one key in seven, those at the places that leave the remainder of its
cursor, and reads each of them seven times. -/
theorem consumer_reads_rounds {state : State} {config : Config} {settings : Settings} {host : Host}
    {earlier stretch : List Action} {consumer cursor : Nat}
    (reached : state.Reached config settings host earlier)
    (done : (State.actAll stretch state).result = .ok ())
    (there : state.consumers[consumer]? = some (.next cursor))
    (nonempty : state.directory ≠ [])
    (steady : (State.actAll stretch state).state.directory = state.directory)
    (count : (State.readsOf consumer stretch state).length = state.directory.length)
    (unwrapped : cursor + Consumer.stride * (state.directory.length - 1) < Word.limit) :
    ((State.readsOf consumer stretch state).Perm state.directory ↔
        ¬Consumer.stride ∣ state.directory.length) ∧
      (Consumer.stride ∣ state.directory.length →
        ∀ position keyId, state.directory[position]? = some keyId →
          (State.readsOf consumer stretch state).count keyId =
            if position % Consumer.stride = cursor % Consumer.stride then Consumer.stride
            else 0) := by
  obtain ⟨⟨made, order⟩, published⟩ := reached.published
  have strides := State.readsOf_eq order published done there steady
  rw [count] at strides
  have counts : Consumer.stride ∣ state.directory.length →
      ∀ position keyId, state.directory[position]? = some keyId →
        (State.readsOf consumer stretch state).count keyId =
          if position % Consumer.stride = cursor % Consumer.stride then Consumer.stride
          else 0 := by
    intro divides position keyId found
    rw [strides]
    exact Consumer.count_reads published.distinct divides unwrapped found
  refine ⟨⟨fun all divides => ?_, fun indivisible => ?_⟩, counts⟩
  · have room : cursor % Consumer.stride < state.directory.length :=
      (Nat.mod_lt _ (by decide)).trans_le
        (Nat.le_of_dvd (List.length_pos_iff.2 nonempty) divides)
    have seven := counts divides _ _ (List.getElem?_eq_getElem room)
    rw [if_pos (Nat.mod_mod _ _), all.count_eq, published.distinct.count,
      if_pos (List.getElem_mem room)] at seven
    exact absurd seven (by decide)
  · rw [strides]
    exact Consumer.perm_reads indivisible unwrapped

/-- Some producers with one table each, and one consumer. -/
def crew (producers : Nat) : Settings where
  producers := producers
  consumers := 1
  tablesPerProducer := 1
  rowsPerTable := 1
  rowBytes := 1
  flushDelay := 5
  invalidateEvery := 0
  reclaimInterval := 20
  reclaimBatch := 8

/-- A soak in which every producer has published its table. -/
def stocked (producers : Nat) : State :=
  (State.actAll ((List.range producers).map .put)
    (State.create (crew producers) (Hosted.build ⟨1, 300⟩ .empty))).state

/-- Two keys are read in two look-ups, also if a table is flushed between them. -/
theorem consumer_reads_rounds_two :
    (stocked 2).directory = [1, 2] ∧
      (State.readsOf 0 [.lookup 0 1, .flush 0, .lookup 0 2] (stocked 2)).Perm
        (stocked 2).directory := by
  have directory : (stocked 2).directory = [1, 2] := by decide +kernel
  have reached : (stocked 2).Reached ⟨1, 300⟩ (crew 2) .empty ((List.range 2).map .put) :=
    ⟨rfl, by decide +kernel, rfl⟩
  have indivisible : ¬Consumer.stride ∣ (stocked 2).directory.length := by
    rw [directory]
    decide
  have rounds := @consumer_reads_rounds _ _ _ _ _ [.lookup 0 1, .flush 0, .lookup 0 2] 0 0 reached
    (by decide +kernel) (by decide +kernel) (by decide +kernel) (by decide +kernel)
    (by decide +kernel) (by decide +kernel)
  exact ⟨directory, rounds.1.2 indivisible⟩

/-- Seven keys are published, and seven look-ups read the first of them every time. -/
theorem consumer_stays_with_seven :
    (stocked 7).Reached ⟨1, 300⟩ (crew 7) .empty ((List.range 7).map .put) ∧
      (State.actAll ((List.range 7).map (Action.lookup 0)) (stocked 7)).result = .ok () ∧
      (stocked 7).consumers[0]? = some (.next 0) ∧
      (State.actAll ((List.range 7).map (Action.lookup 0)) (stocked 7)).state.directory =
        (stocked 7).directory ∧
      (stocked 7).directory = [1, 2, 3, 4, 5, 6, 7] ∧
      State.readsOf 0 ((List.range 7).map (Action.lookup 0)) (stocked 7) =
        [1, 1, 1, 1, 1, 1, 1] ∧
      ¬(State.readsOf 0 ((List.range 7).map (Action.lookup 0)) (stocked 7)).Perm
        (stocked 7).directory := by
  have directory : (stocked 7).directory = [1, 2, 3, 4, 5, 6, 7] := by decide +kernel
  have reads : State.readsOf 0 ((List.range 7).map (Action.lookup 0)) (stocked 7) =
      [1, 1, 1, 1, 1, 1, 1] := by
    decide +kernel
  refine ⟨⟨rfl, by decide +kernel, rfl⟩, by decide +kernel, by decide +kernel, by decide +kernel,
    directory, reads, ?_⟩
  rw [directory, reads]
  decide

end TableCache.Soak
