import TableCache.Proofs.System.Sound

/-!
# What the keys of a running engine show, act by act

Seen from one key of one engine there are few acts that matter. A key with an owner shows after an
act what `Act.effect` makes of what it showed before: a put, an invalidation and the giving up of
its table do what they say, a pass hides the tables it clears, and whatever is done to other keys,
to other engines and to holds changes nothing. A key can only come to show something by a put.

Main statements:

1. `Turn.shown?_of_isOwned`: what a key with an owner shows after an act;
2. `Turn.put_or_shown`: only a put makes a key show another table;
3. `Turn.memory_later`: no act changes the rows of a table;
4. `shown_known`: a key that shows something was created before.
-/

namespace TableCache

universe u

variable {Row : Type u}

/-- What an act makes of what a key with an owner shows in an engine at `state`. -/
def Act.effect (act : Act Row) (number keyId : Nat) (state : Hosted Row) (shown : Option Shown) :
    Option Shown :=
  match act with
  | .ask other request =>
      if other = number then request.effect keyId state.purged.fresh shown else shown
  | .reclaim other pressure =>
      if other = number then
        shown.filter fun shown => shown.table ∉ state.engine.store.cleared pressure
      else shown
  | _ => shown

/-- The tables of an engine that an act clears. -/
def Act.cleared (act : Act Row) (number : Nat) (engine : Engine Row) : List Nat :=
  match act with
  | .reclaim other pressure => if other = number then engine.store.cleared pressure else []
  | _ => []

/-- A key that is neither put nor invalidated goes on to show its table until the table is
cleared. -/
theorem Act.table_effect {act : Act Row} {number keyId : Nat}
    (kept : (∀ rows, act ≠ .ask number (.put keyId rows)) ∧ act ≠ .ask number (.invalidate keyId))
    (state : Hosted Row) (shown : Option Shown) :
    (act.effect number keyId state shown).map Shown.table =
      (shown.map Shown.table).filter fun table => table ∉ act.cleared number state.engine := by
  have unchanged : (shown.map Shown.table).filter (fun table => table ∉ ([] : List Nat)) =
      shown.map Shown.table := by
    cases shown <;> simp
  cases act with
  | ask other request =>
      refine Eq.trans ?_ unchanged.symm
      rw [effect]
      split
      next same =>
        subst same
        cases request with
        | put key rows =>
            rw [Request.effect, if_neg]
            exact fun same => kept.1 rows (by rw [same])
        | clear key isPersisted =>
            cases isPersisted with
            | false => rfl
            | true =>
                rw [Request.effect]
                split
                next => rw [Option.map_map]; rfl
                next => rfl
        | invalidate key =>
            rw [Request.effect, if_neg]
            exact fun same => kept.2 (by rw [same])
        | _ => rfl
      next => rfl
  | reclaim other pressure =>
      rw [effect, cleared]
      split
      next => cases shown <;> simp [Option.filter, apply_ite]
      next => exact unchanged.symm
  | _ => exact unchanged.symm

/-- A pinned table stays pinned, unless it is replaced, invalidated or given up. -/
theorem Act.effect_pinned {act : Act Row} {number keyId : Nat}
    (kept : (∀ rows, act ≠ .ask number (.put keyId rows)) ∧
      act ≠ .ask number (.invalidate keyId) ∧ act ≠ .ask number (.clear keyId true))
    {state : Hosted Row} {table : Nat} (spared : table ∉ act.cleared number state.engine) :
    act.effect number keyId state (some ⟨table, true⟩) = some ⟨table, true⟩ := by
  cases act with
  | ask other request =>
      rw [effect]
      split
      next same =>
        subst same
        cases request with
        | put key rows => exact if_neg fun same => kept.1 rows (by rw [same])
        | clear key isPersisted =>
            cases isPersisted with
            | false => rfl
            | true => exact if_neg fun same => kept.2.2 (by rw [same])
        | invalidate key => exact if_neg fun same => kept.2.1 (by rw [same])
        | _ => rfl
      next => rfl
  | reclaim other pressure =>
      rw [cleared] at spared
      rw [effect]
      split
      next same =>
        rw [if_pos same] at spared
        simp [spared]
      next => rfl
  | _ => rfl

/-- A request about another key, or about none, has no effect on a key. -/
theorem Request.effect_of_ne {request : Request Row} {keyId : Nat}
    (about : request.keyId? ≠ some keyId) (fresh : Nat) (shown : Option Shown) :
    request.effect keyId fresh shown = shown := by
  cases request with
  | put other rows => exact if_neg fun same => about (congrArg some same.symm)
  | clear other isPersisted =>
      cases isPersisted with
      | false => rfl
      | true => exact if_neg fun same => about (congrArg some same.symm)
  | invalidate other => exact if_neg fun same => about (congrArg some same.symm)
  | _ => rfl

/-- A request makes a key show a table only if it puts it there anew, or if the key showed it
before. -/
theorem Request.put_or_shown {request : Request Row} {keyId fresh : Nat} {before : Option Shown}
    {shown : Shown} (there : request.effect keyId fresh before = some shown) :
    (∃ rows, request = .put keyId rows ∧ shown.table = fresh) ∨
      ∃ earlier, before = some earlier ∧ earlier.table = shown.table := by
  cases request with
  | put other rows =>
      rw [effect] at there
      split at there
      next same =>
        cases there
        exact .inl ⟨rows, by rw [same], rfl⟩
      next => exact .inr ⟨shown, there, rfl⟩
  | clear other isPersisted =>
      cases isPersisted with
      | false => exact .inr ⟨shown, there, rfl⟩
      | true =>
          rw [effect] at there
          split at there
          next =>
            obtain ⟨earlier, showed, rfl⟩ := Option.map_eq_some_iff.1 there
            exact .inr ⟨earlier, showed, rfl⟩
          next => exact .inr ⟨shown, there, rfl⟩
  | invalidate other =>
      rw [effect] at there
      split at there
      next => cases there
      next => exact .inr ⟨shown, there, rfl⟩
  | _ => exact .inr ⟨shown, there, rfl⟩

namespace Turn

variable {number keyId : Nat} {host next : Host} {engine after : Engine Row}
  {held others : Multiset Nat} {act : Act Row}

/-- What a key with an owner shows after an act. A request that was refused is not about such a key.
-/
theorem shown?_of_isOwned
    (turn : Turn number host (.running engine) held act next (.running after) others)
    (sound : engine.Sound held) (owned : host.keys.isOwned keyId = true) :
    after.store.shown? keyId =
      act.effect number keyId ⟨engine, host⟩ (engine.store.shown? keyId) := by
  cases turn with
  | @asked state held request admitted =>
      have performed := Hosted.shown?_perform sound request keyId
      rw [Hosted.shown?_entered_of_isOwned sound request owned] at performed
      exact performed.trans (if_pos rfl).symm
  | @reclaimed host cache held pressure =>
      exact (Hosted.shown?_reclaim sound pressure keyId).trans (if_pos rfl).symm
  | pruned counting =>
      rcases counting with rfl | rfl <;> rfl
  | shared => rfl
  | dropped => rfl
  | spared unreached =>
      cases act with
      | ask other request =>
          rw [Act.effect]
          split
          next same =>
            have refused : ¬request.isAdmitted host.keys = true :=
              fun admitted => unreached ⟨same, admitted⟩
            refine (Request.effect_of_ne (fun about => refused ?_) _ _).symm
            rw [Request.isAdmitted, about]
            exact owned
          next => rfl
      | reclaim other pressure => exact (if_neg unreached).symm
      | _ => rfl

/-- Only a put makes a key show another table, and only if the key has an owner. The table is new
then. -/
theorem put_or_shown
    (turn : Turn number host (.running engine) held act next (.running after) others)
    (sound : engine.Sound held) {shown : Shown} (there : after.store.shown? keyId = some shown) :
    (∃ rows, act = .ask number (.put keyId rows) ∧ host.keys.isOwned keyId = true ∧
        engine.store.memory.tables.next ≤ shown.table) ∨
      ∃ earlier, engine.store.shown? keyId = some earlier ∧ earlier.table = shown.table := by
  cases turn with
  | @asked state held request admitted =>
      have performed := Hosted.shown?_perform sound request keyId
      rw [there] at performed
      rcases Request.put_or_shown performed.symm with ⟨rows, rfl, fresh⟩ | ⟨earlier, before, same⟩
      · refine .inl ⟨rows, rfl, admitted, ?_⟩
        rw [fresh]
        exact (Hosted.follows_purged state).memory.next_le
      · exact .inr ⟨earlier, Hosted.shown?_of_entered sound before, same⟩
  | @reclaimed host cache held pressure =>
      have cleared := (Hosted.shown?_reclaim sound pressure keyId).symm.trans there
      exact .inr ⟨shown, (Option.filter_eq_some_iff.1 cleared).1, rfl⟩
  | pruned counting => exact .inr ⟨shown, there, rfl⟩
  | shared => exact .inr ⟨shown, there, rfl⟩
  | dropped => exact .inr ⟨shown, there, rfl⟩
  | spared unreached => exact .inr ⟨shown, there, rfl⟩

/-- No act changes the rows of a table, or gives its number to another. -/
theorem memory_later
    (turn : Turn number host (.running engine) held act next (.running after) others)
    (sound : engine.Sound held) : engine.store.memory.Later after.store.memory := by
  cases turn with
  | @asked state held request admitted => exact (Hosted.follows_perform sound request).memory
  | @reclaimed host cache held pressure => exact Memory.later_reclaim _ pressure
  | pruned counting => exact .of_tables rfl
  | shared => exact Memory.later_share _ _
  | dropped => exact Memory.later_release _ _
  | spared unreached => exact .refl _

end Turn

namespace System

variable {system : System Row} {number keyId : Nat} {acts : List (Act Row)} {engine : Engine Row}
  {shown : Shown}

theorem cleared_of_running (running : system.caches[number]? = some (.running engine))
    (act : Act Row) : system.cleared number act = act.cleared number engine := by
  cases act with
  | reclaim other pressure =>
      rw [cleared, Act.cleared, running]
      rfl
  | _ => rfl

theorem clearedBy_append (system : System Row) (number : Nat) (first second : List (Act Row)) :
    system.clearedBy number (first ++ second) =
      system.clearedBy number first ++ (finalState step system first).clearedBy number second := by
  induction first generalizing system with
  | nil => rfl
  | cons act rest ih =>
      rw [List.cons_append, clearedBy, clearedBy, ih, finalState, List.append_assoc]

/-- A running engine answers a request that may be made. -/
theorem step_ask {state : Hosted Row} {request : Request Row}
    (serving : system.serving? number = some state)
    (admitted : request.isAdmitted state.host.keys = true) :
    system.step (.ask number request) = system.restore number (state.perform request) := by
  rcases ask_cases system number request with ⟨-, refused⟩ | ⟨other, running, -, done⟩
  · rw [(serving?_eq_some_iff.1 serving).2] at admitted
    exact absurd admitted (refused state serving)
  · rw [serving] at running
    cases running
    exact done

theorem result_ask {state : Hosted Row} {request : Request Row}
    (serving : system.serving? number = some state)
    (admitted : request.isAdmitted state.host.keys = true) :
    (system.step (.ask number request)).result = (state.perform request).result := by
  rw [step_ask serving admitted]
  rfl

/-- An engine that was asked runs on. -/
theorem running_ask {state : Hosted Row} {request : Request Row}
    (serving : system.serving? number = some state)
    (admitted : request.isAdmitted state.host.keys = true) :
    (system.step (.ask number request)).state.caches[number]? =
        some (.running (state.perform request).state.engine) ∧
      (system.step (.ask number request)).state.host = (state.perform request).state.host := by
  obtain ⟨running, -⟩ := serving?_eq_some_iff.1 serving
  rw [step_ask serving admitted]
  exact ⟨(getElem?_setCache system running _ number).trans (if_pos rfl), rfl⟩

theorem shown?_build (config : Config) (host : Host) (keyId : Nat) :
    (Hosted.build config host : Hosted Row).engine.store.shown? keyId = none := by
  show ((Numbered.empty.find? keyId).bind _ : Option Shown) = none
  rw [Numbered.find?_empty, Option.bind_none]

/-- A key that shows something was created before. -/
theorem shown_known (running : (after acts).caches[number]? = some (.running engine))
    (there : engine.store.shown? keyId = some shown) :
    keyId < (after acts).host.keys.owned.next := by
  refine running_induction (motive := fun acts engine => ∀ shown,
    engine.store.shown? keyId = some shown → keyId < (after acts).host.keys.owned.next)
    ?_ ?_ running shown there
  · intro acts config absent shown there
    rw [shown?_build] at there
    cases there
  · intro acts act earlier later before sound turn ih shown there
    have keys := (keys_later (sound_after acts) act).next_le
    rw [after_concat]
    rcases turn.put_or_shown sound there with ⟨rows, -, owned, -⟩ | ⟨old, showed, -⟩
    · exact (Keys.lt_next_of_isOwned owned).trans_le keys
    · exact (ih old showed).trans_le keys

end System

end TableCache
