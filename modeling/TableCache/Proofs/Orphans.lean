import TableCache.Proofs.RecentUse
import TableCache.Proofs.System.Wiring

/-!
# Orphans are purged, completely and once

No engine looks through its entries for keys without owners. That it finds them all the same rests
on notices: as long as a key has an entry and an owner the inbox of the engine watches it
(`Keys.Informs.watching`), so a notice is there for every entry whose key ended
(`Keys.Informs.reported`), and an inbox holds nothing else but keys that ended
(`Keys.Informs.ending`).

Main statements:

1. `Keys.Informs`: what an inbox knows of the keys that have entries, and what keeps it so;
2. `informs_after`: every running engine is informed;
3. `orphans_eq`, `isOwned_of_purged`: what a purge removes, and what it leaves;
4. `orphans_are_purged`: the same of a run.
-/

namespace TableCache

universe u

variable {Row : Type u}

/-! ## What an inbox knows -/

/-- What an inbox knows of the keys that have entries in its engine, given the keys that ended since
it was emptied last. -/
structure Keys.Informs (keys : Keys) (inbox : Nat) (has : Nat → Bool) (dead : List Nat) : Prop where
  isOpen : keys.isOpen inbox = true
  known : ∀ keyId, has keyId = true → keyId < keys.owned.next
  watching : ∀ keyId, has keyId = true → keys.isOwned keyId = true →
    keys.watches keyId inbox = true
  missing : ∀ keyId, has keyId = true → keys.isOwned keyId = false → keyId ∈ dead
  ending : (keys.posted inbox).Sublist dead
  reported : ∀ keyId ∈ dead, has keyId = true → keyId ∈ keys.posted inbox

/-- The inbox of a new engine is open and empty, and no key has an entry in it. -/
theorem Keys.informs_opened (keys : Keys) (dead : List Nat) :
    keys.openInbox.2.Informs keys.inboxes.next (fun _ => false) dead := by
  have opened := find?_openInbox keys keys.inboxes.next
  rw [if_pos rfl] at opened
  have empty : keys.openInbox.2.posted keys.inboxes.next = [] := by
    rw [posted, opened]
    rfl
  refine ⟨?_, ?_, ?_, ?_, ?_, ?_⟩
  · rw [isOpen, Numbered.contains, opened]
    rfl
  · rintro _ ⟨⟩
  · rintro _ ⟨⟩
  · rintro _ ⟨⟩
  · rw [empty]
    exact List.nil_sublist _
  · rintro _ _ ⟨⟩

namespace Keys.Informs

variable {keys after : Keys} {inbox : Nat} {has : Nat → Bool} {dead : List Nat}

/-- An inbox stays informed as long as nothing is posted or collected, nobody stops watching, and no
key ends. -/
theorem of_same (informs : keys.Informs inbox has dead)
    (isOpen : after.isOpen inbox = keys.isOpen inbox)
    (posted : after.posted inbox = keys.posted inbox)
    (next_le : keys.owned.next ≤ after.owned.next)
    (owned : ∀ keyId, keyId < keys.owned.next → after.isOwned keyId = keys.isOwned keyId)
    (watches : ∀ keyId, keys.watches keyId inbox = true → after.watches keyId inbox = true) :
    after.Informs inbox has dead where
  isOpen := isOpen.trans informs.isOpen
  known := fun keyId there => (informs.known keyId there).trans_le next_le
  watching := by
    intro keyId there owner
    rw [owned keyId (informs.known keyId there)] at owner
    exact watches keyId (informs.watching keyId there owner)
  missing := by
    intro keyId there unowned
    rw [owned keyId (informs.known keyId there)] at unowned
    exact informs.missing keyId there unowned
  ending := by
    rw [posted]
    exact informs.ending
  reported := by
    rw [posted]
    exact informs.reported

/-- The end of a key is posted if the inbox watches it, and it does so if the key has an entry. -/
theorem release_of_last (informs : keys.Informs inbox has dead) (distinct : keys.Distinct)
    {keyId : Nat} (owned : keys.isOwned keyId = true)
    (last : (keys.release keyId).isOwned keyId = false) (fresh : keyId ∉ dead) :
    (keys.release keyId).Informs inbox has (dead ++ [keyId]) where
  isOpen := (isOpen_release distinct keyId inbox).trans informs.isOpen
  known := fun other there =>
    (informs.known other there).trans_le (later_release keys keyId).next_le
  watching := by
    intro other there owner
    have different : other ≠ keyId := by
      rintro rfl
      rw [last] at owner
      cases owner
    rw [isOwned_release_of_ne different] at owner
    rw [watches_release_of_ne different]
    exact informs.watching other there owner
  missing := by
    intro other there unowned
    rw [List.mem_append, List.mem_singleton]
    by_cases same : other = keyId
    · exact .inr same
    · rw [isOwned_release_of_ne same] at unowned
      exact .inl (informs.missing other there unowned)
  ending := by
    rw [posted_release_of_last distinct owned last informs.isOpen]
    split
    next => exact informs.ending.append (.refl _)
    next => exact informs.ending.trans (List.sublist_append_left _ _)
  reported := by
    intro other member there
    rw [posted_release_of_last distinct owned last informs.isOpen]
    rcases List.mem_append.1 member with old | new
    · have before := informs.reported other old there
      split
      next => exact List.mem_append_left _ before
      next => exact before
    · obtain rfl := List.mem_singleton.1 new
      rw [if_pos (informs.watching other there owned)]
      exact List.mem_append_right _ (List.mem_singleton.2 rfl)

theorem collect (informs : keys.Informs inbox has dead) {other : Nat} (different : inbox ≠ other) :
    (keys.collect other).2.Informs inbox has dead := by
  refine informs.of_same (isOpen_collect keys other inbox) ?_ (Nat.le_refl _) (fun _ _ => rfl)
    fun _ watches => watches
  rw [posted_collect, if_neg different]

theorem watch (informs : keys.Informs inbox has dead) (keyId other : Nat) :
    (keys.watch keyId other).Informs inbox has dead := by
  refine informs.of_same rfl rfl (Nat.le_of_eq (next_watch keys keyId other).symm)
    (fun id _ => isOwned_watch keys keyId other id) fun id watches => ?_
  rw [watches_watch, watches, Bool.true_or]

theorem openInbox (informs : keys.Informs inbox has dead) :
    keys.openInbox.2.Informs inbox has dead := by
  have found := find?_openInbox keys inbox
  rw [if_neg (Nat.ne_of_lt (lt_next_of_isOpen informs.isOpen))] at found
  refine informs.of_same ?_ ?_ (Nat.le_refl _) (fun _ _ => rfl) fun _ watches => watches
  · rw [Keys.isOpen, Keys.isOpen, Numbered.contains, Numbered.contains, found]
  · rw [posted, posted, found]

theorem closeInbox (informs : keys.Informs inbox has dead) {other : Nat}
    (different : inbox ≠ other) : (keys.closeInbox other).Informs inbox has dead := by
  have found : (keys.closeInbox other).inboxes.find? inbox = keys.inboxes.find? inbox :=
    find?_closeInbox_of_ne different
  refine informs.of_same ?_ ?_ (Nat.le_refl _) (fun _ _ => rfl) fun _ watches => watches
  · rw [Keys.isOpen, Keys.isOpen, Numbered.contains, Numbered.contains, found]
  · rw [posted, posted, found]

theorem create (informs : keys.Informs inbox has dead) (label : String) :
    (keys.create label).2.Informs inbox has dead := by
  refine informs.of_same rfl rfl (later_create keys label).next_le (fun keyId known => ?_)
    fun keyId watches => (watches_create keys label keyId inbox).trans watches
  rw [isOwned_create, if_neg (Nat.ne_of_lt known)]

theorem share (informs : keys.Informs inbox has dead) (keyId : Nat) :
    (keys.share keyId).Informs inbox has dead :=
  informs.of_same rfl rfl (later_share keys keyId).next_le (fun id _ => isOwned_share keys keyId id)
    fun id watches => (watches_share keys keyId id inbox).trans watches

theorem release_of_shared (informs : keys.Informs inbox has dead) {keyId : Nat}
    (still : (keys.release keyId).isOwned keyId = true) (owned : keys.isOwned keyId = true) :
    (keys.release keyId).Informs inbox has dead := by
  refine informs.of_same ?_ ?_ (later_release keys keyId).next_le (fun id _ => ?_)
    fun id watches => ?_
  · rw [Keys.release_of_shared still]
    rfl
  · rw [Keys.release_of_shared still]
    rfl
  · by_cases same : id = keyId
    · rw [same, still, owned]
    · exact isOwned_release_of_ne same
  · rw [Keys.release_of_shared still, watches_adjust]
    · exact watches
    · exact fun _ => rfl

end Keys.Informs

/-! ## What a purge does -/

theorem filter_eq_of_sublist {α : Type u} {part whole : List α} {keep : α → Bool}
    (sublist : part.Sublist whole) (distinct : whole.Nodup)
    (covers : ∀ value ∈ whole, keep value = true → value ∈ part) :
    part.filter keep = whole.filter keep := by
  refine (sublist.filter keep).eq_of_length_le (Nat.le_of_eq (List.Perm.length_eq ?_).symm)
  refine (List.perm_ext_iff_of_nodup ((distinct.sublist sublist).filter _)
    (distinct.filter _)).2 fun value => ?_
  rw [List.mem_filter, List.mem_filter]
  constructor
  · rintro ⟨member, kept⟩
    exact ⟨sublist.subset member, kept⟩
  · rintro ⟨member, kept⟩
    exact ⟨covers value member kept, kept⟩

namespace Hosted

variable {state : Hosted Row} {held : Multiset Nat} {dead : List Nat}

/-- An engine knows of the keys that have entries in it, and of those that ended. -/
def Informed (state : Hosted Row) (dead : List Nat) : Prop :=
  state.host.keys.Informs state.engine.store.inbox state.engine.store.has dead

/-- A purge removes the entries of the keys that ended, in the order in which they ended. -/
theorem Informed.orphans_eq (informed : state.Informed dead) (distinct : dead.Nodup)
    (gone : ∀ keyId ∈ dead, state.host.keys.isOwned keyId = false) :
    state.orphans = dead.filter state.engine.store.has := by
  have once := distinct.sublist informed.ending
  have removed := Store.removed_eq (state.host.keys.collect state.engine.store.inbox).2 once
    state.engine.store
  rw [← filter_eq_of_sublist informed.ending distinct informed.reported]
  refine removed.trans (List.filter_congr fun keyId member => ?_)
  have unowned : (state.host.keys.collect state.engine.store.inbox).2.isOwned keyId = false :=
    gone keyId (informed.ending.subset member)
  rw [unowned, Bool.not_false, Bool.and_true]

/-- A purge leaves every entry as it is that it does not remove. -/
theorem entryOf?_purged (state : Hosted Row) (keyId : Nat) :
    state.purged.engine.store.entryOf? keyId =
      if keyId ∈ state.orphans then none else state.engine.store.entryOf? keyId :=
  Store.entryOf?_removeOrphans _ _ _ keyId

/-- A purge leaves no entry of a key without owner. -/
theorem Informed.isOwned_of_purged (informed : state.Informed dead) (distinct : dead.Nodup)
    (gone : ∀ keyId ∈ dead, state.host.keys.isOwned keyId = false) {keyId : Nat}
    (there : state.purged.engine.store.has keyId = true) :
    state.engine.store.has keyId = true ∧ state.host.keys.isOwned keyId = true := by
  rw [Store.has, entryOf?_purged] at there
  split at there
  next => cases there
  next kept =>
    refine ⟨there, Bool.of_not_eq_false fun unowned => kept ?_⟩
    rw [informed.orphans_eq distinct gone]
    exact List.mem_filter.2 ⟨informed.missing keyId there unowned, there⟩

/-- Every key that is taken out of an index frees the place it had. -/
theorem size_removeAll {keyIds : List Nat} (distinct : keyIds.Nodup) (recency : Recency) :
    (removeAll recency keyIds).size + keyIds.countP recency.contains = recency.size := by
  induction keyIds generalizing recency with
  | nil => rfl
  | cons first rest ih =>
      obtain ⟨once, others⟩ := List.nodup_cons.1 distinct
      have removed := Recency.size_remove recency first
      have same : rest.countP (recency.remove first).2.contains = rest.countP recency.contains := by
        refine List.countP_congr fun keyId member => ?_
        rw [Recency.contains_remove]
        refine and_iff_right ?_
        rintro rfl
        exact once member
      have left := ih others (recency.remove first).2
      rw [removeAll_cons, List.countP_cons, ← removed, ← left, same]
      omega

/-- An engine that answered a request with its lock taken has no notice to wait for. -/
theorem Informed.perform (informed : state.Informed dead) (sound : state.engine.Sound held)
    (distinct : dead.Nodup) (gone : ∀ keyId ∈ dead, state.host.keys.isOwned keyId = false)
    {request : Request Row} (admitted : request.isAdmitted state.host.keys = true)
    (locks : request.locks = true) :
    (state.perform request).state.Informed [] ∧
      ∀ keyId, (state.perform request).state.engine.store.has keyId = true →
        (state.perform request).state.host.keys.isOwned keyId = true := by
  have follows := follows_perform sound request
  have entered := state.entered_of_locks locks
  have owners : ∀ keyId, (state.perform request).state.engine.store.has keyId = true →
      state.host.keys.isOwned keyId = true := by
    intro keyId there
    rcases has_of_perform sound there with ⟨rows, rfl⟩ | before
    · exact admitted
    · rw [entered] at before
      exact (informed.isOwned_of_purged distinct gone before).2
  have posted := posted_perform sound locks
  refine ⟨⟨?_, ?_, ?_, ?_, ?_, ?_⟩, fun keyId there => ?_⟩
  · rw [follows.inbox, isOpen_perform sound]
    exact informed.isOpen
  · intro keyId there
    rw [follows.next]
    exact Keys.lt_next_of_isOwned (owners keyId there)
  · intro keyId there owned
    rw [follows.inbox]
    rcases has_of_perform sound there with ⟨rows, rfl⟩ | before
    · exact watches_put sound rows admitted
    · rw [entered] at before
      obtain ⟨earlier, owner⟩ := informed.isOwned_of_purged distinct gone before
      exact watches_perform sound request (informed.watching keyId earlier owner)
  · intro keyId there unowned
    rw [follows.owned, owners keyId there] at unowned
    cases unowned
  · rw [posted]
  · exact fun keyId member => absurd member List.not_mem_nil
  · rw [follows.owned]
    exact owners keyId there

end Hosted

/-! ## What acts on others keep -/

namespace Hosted

variable {state : Hosted Row} {held : Multiset Nat} {inbox : Nat} {has : Nat → Bool}
  {dead : List Nat}

/-- What an engine does to the keys is no matter of any other engine. -/
theorem informs_perform_other (sound : state.engine.Sound held)
    (informs : state.host.keys.Informs inbox has dead)
    (different : inbox ≠ state.engine.store.inbox) (request : Request Row) :
    (state.perform request).state.host.keys.Informs inbox has dead := by
  have entered : (state.entered request).host.keys.Informs inbox has dead := by
    unfold entered
    split
    next => exact informs
    next => exact informs.collect different
  rw [keys_perform sound]
  cases request with
  | put keyId rows => exact entered.watch keyId _
  | _ => exact entered

end Hosted

namespace System

variable {system : System Row} {number : Nat} {act : Act Row} {has : Nat → Bool} {dead : List Nat}

/-- An engine stays informed while it is neither asked nor closed. -/
theorem Rekeys.informs {keys : Keys} {length : Nat} (rekeys : system.Rekeys act keys length)
    (next : keys = (system.step act).state.host.keys) (wired : system.Wired) (sound : system.Sound)
    (unasked : act.request? number system.host.keys = none) (kept : act ≠ .close number)
    (gone : ∀ keyId ∈ dead, system.host.keys.isOwned keyId = false)
    (informs : system.host.keys.Informs number has dead) :
    keys.Informs number has (dead ++ system.ended act) := by
  rcases ended_eq_nil_or system act with nothing | ⟨keyId, ends, rfl, owned, lost⟩
  · rw [nothing, List.append_nil]
    cases rekeys with
    | kept => exact informs
    | created => exact informs.create _
    | shared => exact informs.share _
    | @released keyId owned =>
        refine informs.release_of_shared ?_ owned
        rw [ended, owned, ← next] at nothing
        simpa using nothing
    | built => exact informs.openInbox
    | @asked other state request serving admitted =>
        obtain ⟨running, host⟩ := serving?_eq_some_iff.1 serving
        have different : number ≠ other := by
          rintro rfl
          rw [← host, Act.request?_ask admitted] at unasked
          cases unasked
        rw [← wired.inbox other _ running] at different
        rw [← host] at informs
        exact Hosted.informs_perform_other (sound.caches other _ running) informs different request
    | @closed other state serving =>
        have own := wired.inbox other _ (serving?_eq_some_iff.1 serving).1
        refine informs.closeInbox ?_
        rw [own]
        rintro rfl
        exact kept rfl
  · rw [ends]
    rw [← next] at lost
    have fresh : keyId ∉ dead := by
      intro dead
      rw [gone keyId dead] at owned
      cases owned
    cases rekeys with
    | kept =>
        rw [lost] at owned
        cases owned
    | released => exact informs.release_of_last wired.distinct owned lost fresh

/-! ## Runs -/

/-- An act that is a turn of an engine that goes on does not close it. -/
theorem ne_close_of_turn {host next : Host} {engine after : Engine Row} {held others : Multiset Nat}
    (turn : Turn number host (.running engine) held act next (.running after) others) :
    act ≠ .close number := by
  rintro rfl
  cases turn with
  | pruned counting => rcases counting with same | same <;> cases same
  | spared unreached => exact unreached rfl

/-- An engine that is not asked has entries for the same keys as before. -/
theorem store_of_unasked {host next : Host} {engine after : Engine Row}
    {held others : Multiset Nat}
    (turn : Turn number host (.running engine) held act next (.running after) others)
    (unasked : act.request? number host.keys = none) :
    after.store.has = engine.store.has ∧ after.store.inbox = engine.store.inbox := by
  cases turn with
  | @asked state held request admitted =>
      rw [Act.request?_ask admitted] at unasked
      cases unasked
  | pruned counting => rcases counting with rfl | rfl <;> exact ⟨rfl, rfl⟩
  | _ => exact ⟨rfl, rfl⟩

variable {acts : List (Act Row)} {engine : Engine Row}

/-- Every running engine is informed. -/
theorem informed_after (running : (after acts).caches[number]? = some (.running engine)) :
    (⟨engine, (after acts).host⟩ : Hosted Row).Informed (deadSince number acts) := by
  induction acts using List.reverseRecOn generalizing engine with
  | nil => simp [after, finalState, empty] at running
  | append_singleton acts act ih =>
      have sound := sound_after acts
      have wired := wired_after acts
      obtain ⟨distinct, dead⟩ := dead_deadSince number acts
      have gone := fun keyId member => (dead keyId member).2
      rw [after_concat] at running ⊢
      rw [deadSince_concat]
      rcases running_of_step sound running with
        ⟨earlier, before, turn⟩ | ⟨absent, config, rfl, rfl, host⟩
      · have informed := ih before
        have inbox := wired.inbox number earlier before
        rw [locks_of_running before]
        rcases turn.request_cases with ⟨request, asked, performed⟩ | unasked
        · obtain ⟨rfl, admitted⟩ := Act.request?_eq_some asked
          rw [asked, Option.any_some]
          split
          next locks =>
            have emptied := informed.perform (sound.caches number _ before) distinct gone admitted
              locks
            rw [performed] at emptied
            exact emptied.1
          next refused =>
            have unchanged := Hosted.perform_of_not_locks (Bool.of_not_eq_true refused)
              (⟨earlier, (after acts).host⟩ : Hosted Row)
            rw [performed] at unchanged
            rw [unchanged]
            simpa [ended] using informed
        · obtain ⟨has, same⟩ := store_of_unasked turn unasked
          have informs : (after acts).host.keys.Informs earlier.store.inbox earlier.store.has
            (deadSince number acts) := informed
          rw [inbox] at informs
          have kept := (rekeys_step (after acts) act).informs rfl wired sound unasked
            (ne_close_of_turn turn) gone informs
          rw [unasked]
          show Keys.Informs _ _ _ _
          rw [same, has, inbox]
          exact kept
      · have informs : ∀ dead, ((after acts).step (.build config)).state.host.keys.Informs
            (after acts).host.keys.inboxes.next (fun _ => false) dead := by
          rw [host]
          exact Keys.informs_opened (after acts).host.keys
        have nothing : (Hosted.build config (after acts).host : Hosted Row).engine.store.has =
            fun _ => false := by
          funext keyId
          exact congrArg Option.isSome (Numbered.find?_empty keyId)
        show Keys.Informs _ (after acts).host.keys.inboxes.next _ _
        rw [nothing]
        exact informs _

/-! ## What is purged -/

/-- After an act that takes the lock of an engine, every entry left belongs to a key with an owner.
At any moment, a purge removes the entries of the keys that ended since the lock was taken last,
once each and in the order in which they ended, and says how many; the entry of a key with an owner
stays as it is. It frees the places of those keys in the index, and a purge right after it removes
nothing. -/
theorem orphans_are_purged (number : Nat) (acts : List (Act Row)) :
    (∀ act, (after acts).locks number act = true →
      ∃ state, (after (acts ++ [act])).serving? number = some state ∧
        ∀ keyId, state.engine.store.has keyId = true → state.host.keys.isOwned keyId = true) ∧
    ∀ state, (after acts).serving? number = some state →
      (∀ keyId, state.host.keys.isOwned keyId = true →
        keyId ∉ state.orphans ∧
          state.purged.engine.store.entryOf? keyId = state.engine.store.entryOf? keyId) ∧
      state.orphans.Nodup ∧
      state.orphans = (deadSince number acts).filter state.engine.store.has ∧
      ((after acts).step (.ask number .purge)).result = .ok (.number state.orphans.length) ∧
      ((after (acts ++ [.ask number .purge])).step (.ask number .purge)).result = .ok (.number 0) ∧
      ∃ later, (after (acts ++ [.ask number .purge])).serving? number = some later ∧
        (∀ keyId ∈ state.orphans, later.engine.store.has keyId = false ∧
          later.engine.recency.contains keyId = false) ∧
        later.engine.recency.size + state.orphans.countP state.engine.recency.contains =
          state.engine.recency.size := by
  obtain ⟨distinct, dead⟩ := dead_deadSince number acts
  have gone := fun keyId member => (dead keyId member).2
  have sound := sound_after acts
  constructor
  · intro act locks
    obtain ⟨state, request, serving, rfl, admitted, taken⟩ := ask_of_locks locks
    obtain ⟨running, same⟩ := serving?_eq_some_iff.1 serving
    obtain ⟨still, host⟩ := running_ask serving admitted
    have informed := informed_after running
    rw [← same] at gone informed
    rw [← after_concat] at still host
    exact ⟨_, serving?_eq_some_iff.2 ⟨still, host.symm⟩,
      (informed.perform (sound.caches number _ running) distinct gone admitted taken).2⟩
  · intro state serving
    obtain ⟨running, same⟩ := serving?_eq_some_iff.1 serving
    have admitted : (Request.purge : Request Row).isAdmitted state.host.keys = true := rfl
    obtain ⟨still, host⟩ := running_ask serving admitted
    have informed := informed_after running
    rw [← same] at gone informed
    rw [← after_concat] at still host
    have later := serving?_eq_some_iff.2 ⟨still, host.symm⟩
    have taken : (Request.purge : Request Row).locks = true := rfl
    have nothing := (Hosted.orphans_eq_nil
      (Hosted.posted_perform (sound.caches number _ running) taken)).1
    have once := Store.nodup_removed (state.host.keys.collect state.engine.store.inbox).2
      (state.host.keys.collect state.engine.store.inbox).1 state.engine.store
    refine ⟨fun keyId owned => ?_, once, informed.orphans_eq distinct gone,
      result_ask serving admitted, ?_, _, later, fun keyId orphan => ?_,
      Hosted.size_removeAll once _⟩
    · have spared := Hosted.notMem_orphans_of_isOwned owned
      exact ⟨spared, by rw [Hosted.entryOf?_purged, if_neg spared]⟩
    · refine (result_ask later rfl).trans ?_
      exact congrArg (fun removed : List Nat => Except.ok (Response.number removed.length)) nothing
    · constructor
      · show state.purged.engine.store.has keyId = false
        rw [Store.has, Hosted.entryOf?_purged, if_pos orphan]
        rfl
      · show (Hosted.removeAll state.engine.recency state.orphans).contains keyId = false
        rw [Hosted.contains_removeAll, if_pos orphan]

/-- Two engines with the same three keys. One of the engines is given a table twice under the first
key and invalidates the second key; then all owners of the keys go. -/
def partings : List (Act Nat) :=
  [.createKey "a", .createKey "b", .createKey "c", .build ⟨4, 300⟩, .build ⟨4, 300⟩,
    .ask 0 (.put 1 [7]), .ask 0 (.put 2 [8]), .ask 0 (.put 3 [9]), .ask 1 (.put 1 [7]),
    .ask 1 (.put 2 [8]), .ask 0 (.put 1 [6]), .ask 0 (.invalidate 2), .shareKey 1, .dropKey 1,
    .dropKey 3, .dropKey 2, .dropKey 1]

theorem orphans_are_purged_partings :
    deadSince 0 partings = [3, 2, 1] ∧
      (∃ state, (after partings).serving? 0 = some state ∧ state.orphans = [3, 1] ∧
        ((after partings).step (.ask 0 .purge)).result = .ok (.number 2) ∧
        ((after (partings ++ [.ask 0 .purge])).step (.ask 0 .purge)).result = .ok (.number 0)) ∧
      ∃ state, (after partings).serving? 1 = some state ∧ state.orphans = [2, 1] := by
  have first : (after partings).serving? 0 = some _ := rfl
  have second : (after partings).serving? 1 = some _ := rfl
  obtain ⟨-, -, removed, answer, again, -⟩ := (orphans_are_purged 0 partings).2 _ first
  obtain ⟨-, -, others, -⟩ := (orphans_are_purged 1 partings).2 _ second
  exact ⟨rfl, ⟨_, first, removed, answer, again⟩, _, second, others⟩

end System

end TableCache
