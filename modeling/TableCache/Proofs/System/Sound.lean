import Mathlib.Data.List.Induction
import TableCache.Proofs.System.Turn

/-!
# Every system is sound

A sound system stays sound, whatever act is taken: an engine that is there takes a turn, and every
turn keeps it sound, and an engine that was not there before was built just now.

Main statements:

1. `birth_of_step`: an engine that was not there before was built;
2. `Turn.sound`: every turn keeps an engine sound;
3. `sound_after`: every system that comes of acts is sound;
4. `running_induction`: what every turn keeps holds of an engine as long as it runs;
5. `keys_later`: no key gets its owners back.
-/

namespace TableCache

universe u

variable {Row : Type u}

/-! ## Keys at a later time -/

/-- Keys at a later time: no number is given again, and no key gets owners back. -/
structure Keys.Later (before after : Keys) : Prop where
  next_le : before.owned.next ≤ after.owned.next
  owned : ∀ keyId, keyId < before.owned.next → after.isOwned keyId = true →
    before.isOwned keyId = true

namespace Keys

theorem Later.refl (keys : Keys) : keys.Later keys :=
  ⟨Nat.le_refl _, fun _ _ owned => owned⟩

theorem Later.trans {first second third : Keys} (one : first.Later second)
    (other : second.Later third) : first.Later third :=
  ⟨one.next_le.trans other.next_le, fun keyId known owned =>
    one.owned keyId known (other.owned keyId (known.trans_le one.next_le) owned)⟩

theorem lt_next_of_isOwned {keys : Keys} {keyId : Nat} (owned : keys.isOwned keyId = true) :
    keyId < keys.owned.next := by
  obtain ⟨identity, found⟩ := Option.isSome_iff_exists.1 owned
  exact Numbered.lt_next_of_find? found

theorem later_create (keys : Keys) (label : String) : keys.Later (keys.create label).2 := by
  refine ⟨by simp [create], fun keyId known owned => ?_⟩
  simp only [create, isOwned, Numbered.contains, Numbered.find?_add] at owned
  rwa [if_neg (Nat.ne_of_lt known)] at owned

theorem isOwned_share (keys : Keys) (keyId other : Nat) :
    (keys.share keyId).isOwned other = keys.isOwned other := by
  simp only [share, isOwned, Numbered.contains, Numbered.find?_adjust]
  split
  next => rw [Option.isSome_map]
  next => rfl

theorem later_share (keys : Keys) (keyId : Nat) : keys.Later (keys.share keyId) := by
  refine ⟨by simp [share], fun other _ owned => ?_⟩
  rwa [isOwned_share] at owned

theorem later_release (keys : Keys) (keyId : Nat) : keys.Later (keys.release keyId) := by
  unfold release
  split
  next => exact .refl keys
  next identity _ =>
    split
    next =>
      refine ⟨by simp, fun other _ owned => ?_⟩
      simp only [isOwned, Numbered.contains, Numbered.find?_erase] at owned ⊢
      split at owned
      next => cases owned
      next => exact owned
    next =>
      refine ⟨by simp, fun other _ owned => ?_⟩
      simp only [isOwned, Numbered.contains, Numbered.find?_adjust] at owned ⊢
      split at owned
      next => rwa [Option.isSome_map] at owned
      next => exact owned

theorem later_of_same {before after : Keys} (next : after.owned.next = before.owned.next)
    (owned : ∀ keyId, after.isOwned keyId = before.isOwned keyId) : before.Later after :=
  ⟨Nat.le_of_eq next.symm, fun keyId _ still => by rwa [owned keyId] at still⟩

end Keys

/-! ## Sound systems -/

/-- An engine that is running is sound, and one that was closed left only what is held. -/
def Cache.Sound (cache : Cache Row) (held : Multiset Nat) : Prop :=
  match cache with
  | .running engine => engine.Sound held
  | .closed memory => memory.Backs 0 held

/-- Every engine is sound with what is held of its tables, and nothing is held of engines that are
not there. -/
structure System.Sound (system : System Row) : Prop where
  caches : ∀ number (cache : Cache Row), system.caches[number]? = some cache →
    cache.Sound (system.heldFrom number)
  absent : ∀ number, system.caches[number]? = none → system.heldFrom number = 0

namespace System

variable {system : System Row} {number : Nat}

/-! ## New engines -/

theorem absent_setCache (absent : system.caches[number]? = none) (other : Nat)
    (next : Cache Row) : (system.setCache other next).caches[number]? = none := by
  rw [List.getElem?_eq_none_iff] at absent ⊢
  simpa [setCache] using absent

theorem absent_manage (absent : system.caches[number]? = none) (other : Nat)
    (move : Cache Row → Reply (Cache Row) Response) :
    (system.manage other move).state.caches[number]? = none := by
  unfold manage
  split
  next => exact absent
  next => exact absent_setCache absent other _

theorem heldFrom_manage (system : System Row) (other : Nat)
    (move : Cache Row → Reply (Cache Row) Response) (number : Nat) :
    (system.manage other move).state.heldFrom number = system.heldFrom number := by
  unfold manage
  split <;> rfl

/-- An engine that was not there before an act is there after it only if it was built. Nothing is
held of an engine that is not there, so an act on a hold is about another engine. -/
theorem birth_of_step (sound : system.Sound) (absent : system.caches[number]? = none)
    (act : Act Row) :
    (system.step act).state.heldFrom number = 0 ∧
      ((system.step act).state.caches[number]? = none ∨
        ∃ config, act = .build config ∧ config.validate = .ok () ∧
          (system.step act).state.host = (Hosted.build config system.host : Hosted Row).host ∧
          (system.step act).state.caches[number]? =
            some (.running (Hosted.build config system.host).engine)) := by
  have nothing := sound.absent number absent
  have unheld : ∀ hold ∈ system.holds, hold.engine ≠ number := by
    intro hold held same
    have member := mem_heldFrom held
    rw [same, nothing] at member
    exact Multiset.notMem_zero _ member
  cases act with
  | createKey label => exact ⟨nothing, .inl absent⟩
  | shareKey keyId =>
      rw [step]
      split <;> exact ⟨nothing, .inl absent⟩
  | dropKey keyId =>
      rw [step]
      split <;> exact ⟨nothing, .inl absent⟩
  | shareHold hold =>
      rw [step]
      split
      next known =>
        have held := heldFrom_cons system hold number
        rw [if_neg (unheld hold known)] at held
        have caches := getElem?_onMemory system hold.engine number fun memory =>
          memory.share hold.table
        rw [if_neg (unheld hold known)] at caches
        exact ⟨held.trans nothing, .inl (caches.trans absent)⟩
      next => exact ⟨nothing, .inl absent⟩
  | dropHold hold =>
      rw [step]
      split
      next known =>
        have held := heldFrom_erase system known number
        rw [if_neg (unheld hold known)] at held
        have caches := getElem?_onMemory system hold.engine number fun memory =>
          memory.release hold.table
        rw [if_neg (unheld hold known)] at caches
        exact ⟨held.symm.trans nothing, .inl (caches.trans absent)⟩
      next => exact ⟨nothing, .inl absent⟩
  | build config =>
      rcases build_cases system config with done | ⟨valid, done⟩
      · rw [done]
        exact ⟨nothing, .inl absent⟩
      · rw [done]
        refine ⟨nothing, ?_⟩
        rw [List.getElem?_eq_none_iff] at absent
        rcases absent.eq_or_lt with rfl | beyond
        · exact .inr ⟨config, rfl, valid, rfl, List.getElem?_concat_length⟩
        · refine .inl (List.getElem?_eq_none_iff.2 ?_)
          rw [List.length_append, List.length_singleton]
          omega
  | ask other request =>
      rcases ask_cases system other request with ⟨done, -⟩ | ⟨state, running, -, done⟩
      · rw [done]
        exact ⟨nothing, .inl absent⟩
      · rw [done]
        obtain ⟨here, -⟩ := serving?_eq_some_iff.1 running
        have different : other ≠ number := by
          rintro rfl
          rw [absent] at here
          cases here
        have held := heldFrom_append system (Hosted.given (state.perform request).result) other
          number
        rw [if_neg different] at held
        exact ⟨held.trans nothing, .inl (absent_setCache absent other _)⟩
  | reclaim other pressure | reclaimable other | tracked other =>
      refine ⟨?_, .inl (absent_manage absent other _)⟩
      exact (heldFrom_manage system other _ number).trans nothing
  | close other =>
      rcases close_cases system other with ⟨done, -⟩ | ⟨state, -, done⟩
      · rw [done]
        exact ⟨nothing, .inl absent⟩
      · rw [done]
        exact ⟨nothing, .inl (absent_setCache absent other _)⟩

end System

/-! ## What every turn preserves -/

theorem Cache.sound_withMemory {cache : Cache Row} {held others : Multiset Nat}
    {memory : Memory Row} (sound : cache.Sound held)
    (move : ∀ entries, cache.memory.Backs entries held → memory.Backs entries others) :
    (cache.withMemory memory).Sound others := by
  cases cache with
  | running engine =>
      exact ⟨move _ sound.store, sound.recency, sound.inStep, sound.capacity⟩
  | closed memory => exact move _ sound

theorem Cache.sound_reclaim {cache : Cache Row} {held : Multiset Nat} (sound : cache.Sound held)
    (pressure : Pressure) : (cache.reclaim pressure).state.Sound held := by
  cases cache with
  | running engine => exact Hosted.sound_reclaim sound pressure
  | closed memory => exact Memory.Backs.reclaim sound pressure

namespace Turn

variable {number : Nat} {host next : Host} {cache after : Cache Row} {held others : Multiset Nat}
  {act : Act Row}

theorem sound (turn : Turn number host cache held act next after others)
    (before : cache.Sound held) : after.Sound others := by
  cases turn with
  | asked admitted => exact Hosted.sound_perform before _
  | closed => exact Hosted.backs_close before
  | reclaimed => exact Cache.sound_reclaim before _
  | pruned => exact Cache.sound_withMemory before fun _ backs => backs.live
  | shared claimed =>
      exact Cache.sound_withMemory before fun _ backs =>
        backs.share (Multiset.mem_add.2 (.inr (Multiset.mem_add.2 (.inr claimed))))
  | dropped => exact Cache.sound_withMemory before fun _ backs => backs.release
  | spared => exact before

/-- An engine that was closed is not opened again. -/
theorem was_running (turn : Turn number host cache held act next after others)
    {engine : Engine Row} (running : after = .running engine) :
    ∃ earlier, cache = .running earlier := by
  cases cache with
  | running earlier => exact ⟨earlier, rfl⟩
  | closed memory =>
      subst running
      cases turn

end Turn

namespace System

variable {system : System Row} {number : Nat}

theorem host_manage (system : System Row) (number : Nat)
    (move : Cache Row → Reply (Cache Row) Response) :
    (system.manage number move).state.host = system.host := by
  unfold manage
  split <;> rfl

/-- No act gives a key owners back. -/
theorem keys_later (sound : system.Sound) (act : Act Row) :
    system.host.keys.Later (system.step act).state.host.keys := by
  cases act with
  | createKey label => exact Keys.later_create _ label
  | shareKey keyId =>
      rw [step]
      split
      next => exact Keys.later_share _ keyId
      next => exact .refl _
  | dropKey keyId =>
      rw [step]
      split
      next => exact Keys.later_release _ keyId
      next => exact .refl _
  | shareHold hold | dropHold hold =>
      rw [step]
      split
      next =>
        show system.host.keys.Later (system.onMemory _ _).host.keys
        rw [host_onMemory]
        exact .refl _
      next => exact .refl _
  | build config =>
      rcases build_cases system config with done | ⟨-, done⟩
      · rw [done]
        exact .refl _
      · rw [done]
        exact Keys.later_of_same rfl fun _ => rfl
  | ask number request =>
      rcases ask_cases system number request with ⟨done, -⟩ | ⟨state, running, -, done⟩
      · rw [done]
        exact .refl _
      · rw [done]
        obtain ⟨here, host⟩ := serving?_eq_some_iff.1 running
        have follows := Hosted.follows_perform (sound.caches number _ here) request
        rw [← host]
        exact Keys.later_of_same follows.next follows.owned
  | reclaim number pressure | reclaimable number | tracked number =>
      rw [step, host_manage]
      exact .refl _
  | close number =>
      rcases close_cases system number with ⟨done, -⟩ | ⟨state, running, done⟩
      · rw [done]
        exact .refl _
      · rw [done, ← (serving?_eq_some_iff.1 running).2]
        exact Keys.later_of_same rfl fun _ => rfl

/-- A system stays sound. -/
theorem Sound.step (sound : system.Sound) (act : Act Row) : (system.step act).state.Sound where
  caches := by
    intro number after there
    rcases before : system.caches[number]? with _ | cache
    · obtain ⟨nothing, absent | ⟨config, -, valid, -, built⟩⟩ := birth_of_step sound before act
      · rw [absent] at there
        cases there
      · rw [there] at built
        cases built
        rw [nothing]
        exact Hosted.sound_build valid system.host
    · obtain ⟨found, here, turn⟩ := turn_of_step before act
      rw [there] at here
      cases here
      exact turn.sound (sound.caches number cache before)
  absent := by
    intro number absent
    rcases before : system.caches[number]? with _ | cache
    · exact (birth_of_step sound before act).1
    · obtain ⟨found, here, -⟩ := turn_of_step before act
      rw [absent] at here
      cases here

theorem sound_empty : (empty : System Row).Sound where
  caches := fun number cache there => by simp [empty] at there
  absent := fun _ _ => rfl

theorem sound_finalState (sound : system.Sound) (acts : List (Act Row)) :
    (finalState System.step system acts).Sound := by
  induction acts generalizing system with
  | nil => exact sound
  | cons act rest ih => exact ih (sound.step act)

theorem keys_later_finalState (sound : system.Sound) (acts : List (Act Row)) :
    system.host.keys.Later (finalState System.step system acts).host.keys := by
  induction acts generalizing system with
  | nil => exact .refl _
  | cons act rest ih => exact (keys_later sound act).trans (ih (sound.step act))

/-- An engine does not vanish. -/
theorem present_finalState {cache : Cache Row} (there : system.caches[number]? = some cache)
    (acts : List (Act Row)) :
    ∃ later, (finalState System.step system acts).caches[number]? = some later := by
  induction acts generalizing system cache with
  | nil => exact ⟨cache, there⟩
  | cons act rest ih =>
      obtain ⟨next, here, -⟩ := turn_of_step there act
      exact ih here

/-- Every system that comes of acts is sound. -/
theorem sound_after (acts : List (Act Row)) : (after acts).Sound :=
  sound_finalState sound_empty acts

theorem after_append (first second : List (Act Row)) :
    after (first ++ second) = finalState System.step (after first) second :=
  finalState_append System.step empty first second

theorem after_concat (acts : List (Act Row)) (act : Act Row) :
    after (acts ++ [act]) = ((after acts).step act).state :=
  after_append acts [act]

variable {act : Act Row} {engine : Engine Row}

/-- Every engine that is running after some acts is sound. -/
theorem engine_sound_after {acts : List (Act Row)}
    (running : (after acts).caches[number]? = some (.running engine)) :
    engine.Sound ((after acts).heldFrom number) :=
  (sound_after acts).caches number _ running

/-- An engine that is running after an act took a turn, or was built. -/
theorem running_of_step (sound : system.Sound)
    (running : (system.step act).state.caches[number]? = some (.running engine)) :
    (∃ earlier, system.caches[number]? = some (.running earlier) ∧
        Turn number system.host (.running earlier) (system.heldFrom number) act
          (system.step act).state.host (.running engine)
          ((system.step act).state.heldFrom number)) ∨
      system.caches[number]? = none ∧ ∃ config, act = .build config ∧
        engine = (Hosted.build config system.host).engine ∧
        (system.step act).state.host = (Hosted.build config system.host : Hosted Row).host := by
  rcases before : system.caches[number]? with _ | cache
  · obtain ⟨-, absent | ⟨config, act, -, host, built⟩⟩ := birth_of_step sound before act
    · rw [absent] at running
      cases running
    · rw [running] at built
      cases built
      exact .inr ⟨rfl, config, act, rfl, host⟩
  · obtain ⟨found, here, turn⟩ := turn_of_step before act
    rw [running] at here
    cases here
    obtain ⟨earlier, rfl⟩ := turn.was_running rfl
    exact .inl ⟨earlier, rfl, turn⟩

/-- What holds of an engine when it is built, and is kept by every turn that it takes, holds of it
as long as it runs. -/
theorem running_induction {motive : List (Act Row) → Engine Row → Prop}
    (built : ∀ acts config, (after acts).caches[number]? = none →
      motive (acts ++ [.build config]) (Hosted.build config (after acts).host).engine)
    (turned : ∀ acts act (earlier later : Engine Row),
      (after acts).caches[number]? = some (.running earlier) →
      earlier.Sound ((after acts).heldFrom number) →
      Turn number (after acts).host (.running earlier) ((after acts).heldFrom number) act
        (after (acts ++ [act])).host (.running later) ((after (acts ++ [act])).heldFrom number) →
      motive acts earlier → motive (acts ++ [act]) later)
    {acts : List (Act Row)} (running : (after acts).caches[number]? = some (.running engine)) :
    motive acts engine := by
  induction acts using List.reverseRecOn generalizing engine with
  | nil => simp [after, finalState, empty] at running
  | append_singleton acts act ih =>
      have sound := sound_after acts
      rw [after_concat] at running
      rcases running_of_step sound running with
        ⟨earlier, before, turn⟩ | ⟨absent, config, rfl, rfl, -⟩
      · rw [← after_concat] at turn
        exact turned acts act earlier engine before (sound.caches number _ before) turn (ih before)
      · exact built acts config absent

/-- An engine that runs from the first to the last moment of a run took the last act as a turn, and
a key that has an owner at the end had one before that act. -/
theorem last_turn (sound : system.Sound) {first last : Engine Row} {keyId : Nat}
    {acts : List (Act Row)} (running : system.caches[number]? = some (.running first))
    (known : keyId < system.host.keys.owned.next)
    (still : (finalState System.step system (acts ++ [act])).caches[number]? =
      some (.running last))
    (owned : (finalState System.step system (acts ++ [act])).host.keys.isOwned keyId = true) :
    ∃ earlier, (finalState System.step system acts).caches[number]? = some (.running earlier) ∧
      (finalState System.step system acts).host.keys.isOwned keyId = true ∧
      Turn number (finalState System.step system acts).host (.running earlier)
        ((finalState System.step system acts).heldFrom number) act
        (finalState System.step system (acts ++ [act])).host (.running last)
        ((finalState System.step system (acts ++ [act])).heldFrom number) := by
  have sound' := sound_finalState sound acts
  have later := keys_later_finalState sound acts
  rw [finalState_append] at still owned ⊢
  have owner := (keys_later sound' act).owned keyId (known.trans_le later.next_le) owned
  rcases running_of_step sound' still with ⟨earlier, there, turn⟩ | ⟨absent, -⟩
  · exact ⟨earlier, there, owner, turn⟩
  · obtain ⟨present, there⟩ := present_finalState running acts
    rw [absent] at there
    cases there

end System

end TableCache
