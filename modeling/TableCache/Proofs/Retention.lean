import TableCache.Proofs.System.Answers

/-!
# No table disappears early

A table that was put is pinned. It stays pinned under its key, whatever happens to other keys, and
also if its own key is looked up, pushed out of recent use, dropped by some of its owners, or asked
to be given up before its buffer is persisted. Only three things end that: another put, an
invalidation, and a persisted buffer giving the table up. A pinned table is not cleared by any pass,
and neither is a table that is held outside of the engine.

Main statements:

1. `pinned_finalState`: a pinned table stays pinned along a run, and no pass clears it;
2. `held_notMem_cleared`: no pass clears a table that is held;
3. `no_table_disappears`: so a table that was put is found until it is given up.
-/

namespace TableCache.System

universe u

variable {Row : Type u} {system : System Row} {number keyId table : Nat}

/-- Whether an act leaves the table of a key pinned: the act neither replaces nor invalidates the
table, and does not give it up for a persisted buffer. -/
def KeepsPinned (number keyId : Nat) (act : Act Row) : Prop :=
  (∀ rows, act ≠ .ask number (.put keyId rows)) ∧ act ≠ .ask number (.invalidate keyId) ∧
    act ≠ .ask number (.clear keyId true)

/-- No act clears a pinned table. -/
theorem pinned_notMem_cleared {engine : Engine Row} {held : Multiset Nat}
    (sound : engine.Sound held) (pinned : engine.store.shown? keyId = some ⟨table, true⟩)
    (act : Act Row) : table ∉ act.cleared number engine := by
  unfold Act.cleared
  split
  next other pressure =>
    split
    next => exact sound.store.pinned_notMem pressure pinned rfl
    next => exact List.not_mem_nil
  next => exact List.not_mem_nil

/-- A pinned table stays pinned along a run, and no pass clears it on the way. A key without owners
is not given any again, so the key had an owner all the time, and what it shows followed from act to
act. -/
theorem pinned_finalState (sound : system.Sound) {acts : List (Act Row)} {engine last : Engine Row}
    (running : system.caches[number]? = some (.running engine))
    (pinned : engine.store.shown? keyId = some ⟨table, true⟩)
    (known : keyId < system.host.keys.owned.next)
    (kept : ∀ act ∈ acts, KeepsPinned number keyId act)
    (still : (finalState step system acts).caches[number]? = some (.running last))
    (owned : (finalState step system acts).host.keys.isOwned keyId = true) :
    table ∉ system.clearedBy number acts ∧
      last.store.shown? keyId = some ⟨table, true⟩ := by
  induction acts using List.reverseRecOn generalizing last with
  | nil =>
      have same := running.symm.trans still
      cases same
      exact ⟨List.not_mem_nil, pinned⟩
  | append_singleton acts act ih =>
      obtain ⟨before, keeps⟩ := List.forall_mem_append.1 kept
      obtain ⟨earlier, there, owner, turn⟩ := last_turn sound running known still owned
      obtain ⟨spared, shown⟩ := ih before there owner
      have counts := (sound_finalState sound acts).caches number _ there
      have unharmed : table ∉ act.cleared number earlier := pinned_notMem_cleared counts shown act
      constructor
      · rw [clearedBy_append, List.mem_append, not_or]
        refine ⟨spared, ?_⟩
        rw [clearedBy, clearedBy, List.append_nil, cleared_of_running there]
        exact unharmed
      · rw [turn.shown?_of_isOwned counts owner, shown]
        exact Act.effect_pinned (keeps act List.mem_cons_self) unharmed

/-- A table that is held outside of an engine is not cleared by any pass over it. -/
theorem held_notMem_cleared (sound : system.Sound) {hold : Hold} (held : hold ∈ system.holds)
    (act : Act Row) : hold.table ∉ system.cleared hold.engine act := by
  have claimed := mem_heldFrom held
  unfold cleared
  split
  next other pressure =>
    split
    next =>
      split
      next => exact List.not_mem_nil
      next cache there =>
        have counts := sound.caches hold.engine cache there
        cases cache with
        | running engine => exact counts.store.held_notMem pressure claimed
        | closed memory =>
            exact Memory.Backs.notMem_cleared counts pressure (Multiset.mem_add.2 (.inr claimed))
    next => exact List.not_mem_nil
  next => exact List.not_mem_nil

/-- No table disappears before it is given up. First, after a put of a key that was answered with a
table, and as long as the key is not put again, not invalidated and not given up for a persisted
buffer, no pass clears the table; while the key has an owner its tier is strong, it is contained,
and a look-up is a hard hit on that very table, unless a counter is full. Second, no pass clears a
table while it is held outside of its engine. -/
theorem no_table_disappears :
    (∀ (front back : List (Act Row)) (number keyId table : Nat) (rows : List Row)
        (state : Hosted Row),
      ((after front).step (.ask number (.put keyId rows))).result = .ok (.table (some table)) →
      (∀ act ∈ back, (∀ rows, act ≠ .ask number (.put keyId rows)) ∧
        act ≠ .ask number (.invalidate keyId) ∧ act ≠ .ask number (.clear keyId true)) →
      (after (front ++ .ask number (.put keyId rows) :: back)).serving? number = some state →
      state.host.keys.isOwned keyId = true →
      table ∉ (after (front ++ [.ask number (.put keyId rows)])).clearedBy number back ∧
      ((after (front ++ .ask number (.put keyId rows) :: back)).step
        (.ask number (.tier keyId))).result = .ok (.tier .strong) ∧
      ((after (front ++ .ask number (.put keyId rows) :: back)).step
        (.ask number (.contains keyId))).result = .ok (.flag true) ∧
      ∀ now,
        (tally number (front ++ .ask number (.put keyId rows) :: back ++
          [.ask number (.lookup keyId now)])).Fits →
        ((after (front ++ .ask number (.put keyId rows) :: back)).step
          (.ask number (.lookup keyId now))).result = .ok (.found ⟨some table, .hardHit⟩)) ∧
    ∀ (acts : List (Act Row)) (hold : Hold) (act : Act Row), hold ∈ (after acts).holds →
      hold.table ∉ (after acts).cleared hold.engine act := by
  refine ⟨?_, fun acts hold act held => held_notMem_cleared (sound_after acts) held act⟩
  intro front back number keyId table rows state put kept serving owned
  have sound := sound_after (front ++ .ask number (.put keyId rows) :: back)
  obtain ⟨running, host⟩ := serving?_eq_some_iff.1 serving
  have split : after (front ++ .ask number (.put keyId rows) :: back) =
      finalState step (after (front ++ [.ask number (.put keyId rows)])) back := by
    rw [← after_append, List.append_assoc, List.singleton_append]
  obtain ⟨engine, began, shown, -, -, known⟩ := put_of_result (sound_after front) put
  rw [← after_concat] at began known
  have still := running
  have owner := owned
  rw [host] at owner
  rw [split] at still owner
  obtain ⟨spared, pinned⟩ :=
    pinned_finalState (sound_after _) began shown known kept still owner
  refine ⟨spared, ?_, ?_, fun now fits => ?_⟩
  · obtain ⟨isRecent, answer⟩ := tier_answer sound serving owned
    rw [answer, pinned]
    rfl
  · rw [contains_answer sound serving owned, pinned]
    rfl
  · obtain ⟨isRecent, answer⟩ := lookup_answer serving owned fits
    rw [answer, pinned]
    rfl

/-- Two keys, and an engine with room for one of them in recent use. -/
def crowded : List (Act Nat) := [.createKey "a", .createKey "b", .build ⟨1, 300⟩]

/-- The first key is pushed out of recent use, loses an owner and is not given up. The second one
is, and a pass clears its table. -/
def pushedOut : List (Act Nat) :=
  [.shareKey 1, .ask 0 (.put 2 [9]), .dropKey 1, .ask 0 (.clear 1 false), .dropHold ⟨0, 0⟩,
    .ask 0 (.clear 2 true), .dropHold ⟨0, 1⟩, .reclaim 0 .full]

example : (after (crowded ++ [.ask 0 (.put 1 [7, 8])])).clearedBy 0 pushedOut = [1] := by decide

/-- A table that was pushed out of recent use is a hard hit, and a table that was given up is not
cleared while it is held. -/
theorem no_table_disappears_pushedOut :
    0 ∉ (after (crowded ++ [.ask 0 (.put 1 [7, 8])])).clearedBy 0 pushedOut ∧
      ((after (crowded ++ .ask 0 (.put 1 [7, 8]) :: pushedOut)).step
        (.ask 0 (.lookup 1 5))).result = .ok (.found ⟨some 0, .hardHit⟩) ∧
      0 ∉ (after (crowded ++ [.ask 0 (.put 1 [7, 8]), .ask 0 (.clear 1 true)])).cleared 0
        (.reclaim 0 .full) := by
  obtain ⟨spared, -, -, found⟩ :=
    no_table_disappears.1 crowded pushedOut 0 1 0 [7, 8] _ rfl (by simp [pushedOut]) rfl rfl
  exact ⟨spared, found 5 (by decide), no_table_disappears.2 _ ⟨0, 0⟩ _ (by decide)⟩

end TableCache.System
