import TableCache.Proofs.Engine.Uses
import TableCache.Proofs.System.Sound

/-!
# One clock for all engines

The engines of a system take the ticks of their uses from one clock. It only goes on, and gives out
no tick twice, so no two cells of a system have the same tick, whichever engines they belong to. The
keys of every index stand in the order of the ticks.

Main statements:

1. `clock_step`: the clock does not go back;
2. `Turn.new_use`: only an engine that is asked gets new ticks;
3. `timed_after`: no tick is given out twice, and every index agrees with the ticks.
-/

namespace TableCache

universe u

variable {Row : Type u}

theorem Engine.Dated.of_same {engine later : Engine Row} {clock stop : Nat}
    (dated : engine.Dated clock) (recency : later.recency = engine.recency)
    (uses : ∀ keyId, later.store.usedAt keyId = engine.store.usedAt keyId) (goes : clock ≤ stop) :
    later.Dated stop := by
  refine dated.of_removal ?_ ?_ (fun keyId tick used => ?_) goes
  · rw [recency]
    exact dated.ordered
  · rw [recency]
  · rwa [uses] at used

theorem dated_build {config : Config} (valid : config.validate = .ok ()) (host : Host)
    (clock : Nat) : (Hosted.build config host : Hosted Row).engine.Dated clock where
  ordered := Recency.ordered_ofCapacity (Config.validate_eq_ok_iff.1 valid).1
  early := fun keyId tick used => by cases used
  apart := fun first second tick used => by cases used
  ranked := .nil

namespace Turn

variable {number : Nat} {host next : Host} {engine later : Engine Row} {held others : Multiset Nat}
  {act : Act Row}

/-- An engine is asked something, or it does not mark any use. -/
theorem used_cases (turn : Turn number host (.running engine) held act next (.running later) others)
    (sound : engine.Sound held) :
    (∃ request, act = .ask number request ∧
        (⟨engine, host⟩ : Hosted Row).Advances ⟨later, next⟩) ∨
      later.recency = engine.recency ∧
        ∀ keyId, later.store.usedAt keyId = engine.store.usedAt keyId := by
  cases turn with
  | @asked state _ request admitted =>
      exact .inl ⟨request, rfl, Hosted.advances_perform sound request⟩
  | reclaimed => exact .inr ⟨rfl, Store.usedAt_reclaimed engine.store _⟩
  | _ => exact .inr ⟨rfl, fun _ => rfl⟩

/-- A turn keeps index and ticks in agreement. -/
theorem dated (turn : Turn number host (.running engine) held act next (.running later) others)
    (sound : engine.Sound held) (dated : engine.Dated host.clock) (goes : host.clock ≤ next.clock) :
    later.Dated next.clock := by
  rcases turn.used_cases sound with ⟨request, -, advances⟩ | ⟨recency, uses⟩
  · exact advances.dated dated
  · exact dated.of_same recency uses goes

/-- Only an engine that is asked gets new ticks, and they are later than all others. -/
theorem new_use (turn : Turn number host (.running engine) held act next (.running later) others)
    (sound : engine.Sound held) {keyId tick : Nat} (used : later.store.usedAt keyId = some tick) :
    engine.store.usedAt keyId = some tick ∨
      host.clock ≤ tick ∧ ∃ request, act = .ask number request := by
  rcases turn.used_cases sound with ⟨request, asked, advances⟩ | ⟨-, uses⟩
  · exact (advances.uses keyId tick used).imp_right fun new => ⟨new, request, asked⟩
  · rw [uses] at used
    exact .inl used

end Turn

namespace System

variable {system : System Row} {number other : Nat} {engine second : Engine Row} {act : Act Row}

/-- The clock does not go back. -/
theorem clock_step (sound : system.Sound) (act : Act Row) :
    system.host.clock ≤ (system.step act).state.host.clock := by
  cases act with
  | createKey label => exact Nat.le_refl _
  | shareKey keyId | dropKey keyId =>
      rw [step]
      split <;> exact Nat.le_refl _
  | shareHold hold | dropHold hold =>
      rw [step]
      split
      next =>
        show _ ≤ (system.onMemory _ _).host.clock
        rw [host_onMemory]
      next => exact Nat.le_refl _
  | build config =>
      rcases build_cases system config with done | ⟨-, done⟩
      · rw [done]
      · rw [done]
        exact Nat.le_refl _
  | ask number request =>
      rcases ask_cases system number request with ⟨done, -⟩ | ⟨state, serving, -, done⟩
      · rw [done]
        exact Nat.le_refl _
      · rw [done]
        obtain ⟨running, host⟩ := serving?_eq_some_iff.1 serving
        rw [← host]
        exact (Hosted.advances_perform (sound.caches number _ running) request).clock
  | reclaim number pressure | reclaimable number | tracked number =>
      rw [step, host_manage]
  | close number =>
      rcases close_cases system number with ⟨done, -⟩ | ⟨state, serving, done⟩
      · rw [done]
      · rw [done, ← (serving?_eq_some_iff.1 serving).2]
        exact Nat.le_refl _

/-- Every index agrees with the ticks, and no two engines have the same tick. -/
structure Timed (system : System Row) : Prop where
  dated : ∀ (number : Nat) (engine : Engine Row), system.caches[number]? = some (.running engine) →
    engine.Dated system.host.clock
  apart : ∀ (number other : Nat) (engine second : Engine Row) (keyId otherId tick : Nat),
    system.caches[number]? = some (.running engine) →
    system.caches[other]? = some (.running second) →
    engine.store.usedAt keyId = some tick → second.store.usedAt otherId = some tick →
    number = other

/-- A tick that an engine has after an act it had before, or it was asked and the tick is new. -/
theorem Sound.use_of_step (sound : system.Sound)
    (running : (system.step act).state.caches[number]? = some (.running engine)) {keyId tick : Nat}
    (used : engine.store.usedAt keyId = some tick) :
    (∃ earlier, system.caches[number]? = some (.running earlier) ∧
        earlier.store.usedAt keyId = some tick) ∨
      system.host.clock ≤ tick ∧ ∃ request, act = .ask number request := by
  rcases running_of_step sound running with ⟨earlier, before, turn⟩ | ⟨-, config, -, rfl, -⟩
  · exact (turn.new_use (sound.caches number _ before) used).imp_left fun old =>
      ⟨earlier, before, old⟩
  · cases used

theorem Timed.step (timed : system.Timed) (sound : system.Sound) (act : Act Row) :
    (system.step act).state.Timed where
  dated := by
    intro number engine running
    rcases before : system.caches[number]? with _ | cache
    · obtain ⟨-, absent | ⟨config, -, valid, -, built⟩⟩ := birth_of_step sound before act
      · rw [absent] at running
        cases running
      · rw [running] at built
        cases built
        exact dated_build valid _ _
    · rcases running_of_step sound running with ⟨earlier, there, turn⟩ | ⟨absent, -⟩
      · exact turn.dated (sound.caches number _ there) (timed.dated number earlier there)
          (clock_step sound act)
      · rw [before] at absent
        cases absent
  apart := by
    intro number other engine second keyId otherId tick one two used use
    rcases sound.use_of_step one used with ⟨first, here, old⟩ | ⟨new, request, asked⟩
    · rcases sound.use_of_step two use with ⟨last, there, older⟩ | ⟨new, -⟩
      · exact timed.apart number other first last keyId otherId tick here there old older
      · exact absurd ((timed.dated number first here).early keyId tick old) (Nat.not_lt.2 new)
    · rcases sound.use_of_step two use with ⟨last, there, older⟩ | ⟨-, again, same⟩
      · exact absurd ((timed.dated other last there).early otherId tick older) (Nat.not_lt.2 new)
      · rw [asked] at same
        cases same
        rfl

/-- What is left of a closed engine has no cells. -/
theorem running_of_present (sound : system.Sound) {number cell : Nat} {cache : Cache Row}
    (there : system.caches[number]? = some cache)
    (present : cache.memory.isPresent cell = true) : ∃ engine, cache = .running engine := by
  have counts := sound.caches number cache there
  cases cache with
  | running engine => exact ⟨engine, rfl⟩
  | closed memory =>
      obtain ⟨keyId, entry, member, -⟩ := Memory.Backs.entry_of_cell counts present
      exact absurd member (Multiset.notMem_zero _)

/-- The clock has gone past the ticks of all cells. -/
theorem Timed.lastUsed_lt (timed : system.Timed) (sound : system.Sound) {cache : Cache Row}
    (there : system.caches[number]? = some cache) {cell : Nat} {value : Cell}
    (found : cache.memory.cells.find? cell = some value) :
    value.lastUsed < system.host.clock := by
  have present : cache.memory.isPresent cell = true := by
    rw [Memory.isPresent, Numbered.contains, found]
    rfl
  obtain ⟨engine, rfl⟩ := running_of_present sound there present
  have counts : engine.Sound _ := sound.caches number _ there
  have used : engine.store.memory.usedAt cell = some value.lastUsed :=
    congrArg (Option.map Cell.lastUsed) found
  obtain ⟨keyId, -, known⟩ := counts.store.usedAt_of_cell used
  exact (timed.dated number engine there).early keyId value.lastUsed known

theorem timed_empty : (empty : System Row).Timed where
  dated := fun number engine running => by simp [empty] at running
  apart := fun number other engine second keyId otherId tick running => by simp [empty] at running

/-- Every system that comes of acts is timed. -/
theorem timed_after (acts : List (Act Row)) : (after acts).Timed := by
  induction acts using List.reverseRecOn with
  | nil => exact timed_empty
  | append_singleton acts act ih =>
      rw [after_concat]
      exact ih.step (sound_after acts) act

/-- The index of every engine that is running after some acts is in order. -/
theorem ordered_after {acts : List (Act Row)}
    (running : (after acts).caches[number]? = some (.running engine)) :
    engine.recency.Ordered :=
  ((timed_after acts).dated number _ running).ordered

/-- The clock is past the tick that stands for no use. -/
theorem clock_pos (acts : List (Act Row)) : 0 < (after acts).host.clock := by
  induction acts using List.reverseRecOn with
  | nil => exact Nat.one_pos
  | append_singleton acts act ih =>
      rw [after_concat]
      exact ih.trans_le (clock_step (sound_after acts) act)

end System

end TableCache
