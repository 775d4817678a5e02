import TableCache.Host
import TableCache.Proofs.Memory.Retick
import TableCache.Proofs.Store.View
import TableCache.Proofs.Watchers

/-!
# Keys and stores with one inbox left out

The engines on a host share its keys and its clock. Seen with the inbox of one engine left out, the
keys have the same owners, and every other inbox hears the same. If the ticks of the clock have
other names besides, a store with another inbox does everything as before.

Main statements:

1. `Keys.watch_without`, `collect_without`, `release_without`, ...: what is done to the keys, seen
   without an inbox;
2. `Store.put_seen`, `attachRecent_seen`, `expunge_seen`: what a store does with its host, seen
   without the inbox of another one.
-/

namespace TableCache

universe u

/-- What is known of a key, without an inbox that may watch it. -/
def Identity.without (inbox : Nat) (identity : Identity) : Identity :=
  { identity with watchers := identity.watchers.filter fun other => other ≠ inbox }

namespace Keys

/-- Keys without one inbox. -/
def without (inbox : Nat) (keys : Keys) : Keys :=
  ⟨keys.owned.map (Identity.without inbox), keys.inboxes.erase inbox⟩

section

variable (inbox : Nat) (keys : Keys)

@[simp]
theorem isOwned_without : (keys.without inbox).isOwned = keys.isOwned :=
  funext fun id => Numbered.contains_map _ keys.owned id

@[simp]
theorem key_without (id : Nat) : (keys.without inbox).key id = keys.key id := by
  rw [key, key, without, Numbered.find?_map, Option.map_map]
  rfl

@[simp]
theorem create_without (label : String) :
    (keys.without inbox).create label =
      ((keys.create label).1, (keys.create label).2.without inbox) := by
  have added := Numbered.map_add (Identity.without inbox) keys.owned ⟨label, 1, []⟩
  refine Prod.ext (Numbered.next_map _ _) ?_
  exact congrArg (Keys.mk · (keys.inboxes.erase inbox)) added.symm

theorem adjust_without (id : Nat) (change other : Identity → Identity)
    (same : ∀ identity : Identity,
      (change identity).without inbox = other (identity.without inbox)) :
    ({ keys.without inbox with
        owned := (keys.without inbox).owned.adjust id other } : Keys) =
      ({ keys with owned := keys.owned.adjust id change } : Keys).without inbox :=
  congrArg (Keys.mk · (keys.inboxes.erase inbox)) (Numbered.map_adjust same keys.owned id).symm

@[simp]
theorem share_without (id : Nat) :
    (keys.without inbox).share id = (keys.share id).without inbox :=
  adjust_without inbox keys id _ _ fun _ => rfl

theorem watch_without {other : Nat} (different : other ≠ inbox) (id : Nat) :
    (keys.without inbox).watch id other = (keys.watch id other).without inbox := by
  refine adjust_without inbox keys id _ _ fun identity => ?_
  have known : other ∈ identity.watchers.filter (fun other => other ≠ inbox) ↔
      other ∈ identity.watchers := by simp [different]
  simp only [Identity.without, known]
  split <;> simp [different]

theorem collect_without {other : Nat} (different : other ≠ inbox) :
    (keys.without inbox).collect other =
      ((keys.collect other).1, (keys.collect other).2.without inbox) := by
  refine Prod.ext ?_ ?_
  · show ((keys.inboxes.erase inbox).find? other).getD [] = (keys.inboxes.find? other).getD []
    rw [Numbered.find?_erase, if_neg different]
  · exact congrArg (Keys.mk (keys.owned.map (Identity.without inbox)))
      (Numbered.adjust_erase_of_ne different _).symm

theorem post_without (watchers : List Nat) (id : Nat) (inboxes : Numbered (List Nat)) :
    (watchers.filter fun other => other ≠ inbox).foldl
        (fun inboxes other => post inboxes id other) (inboxes.erase inbox) =
      (watchers.foldl (fun inboxes other => post inboxes id other) inboxes).erase inbox := by
  induction watchers generalizing inboxes with
  | nil => rfl
  | cons first rest ih =>
      rw [List.foldl_cons, ← ih, List.filter_cons]
      by_cases same : first = inbox
      · subst same
        simp [post, Numbered.adjust_erase_self]
      · simp [same, post, Numbered.adjust_erase_of_ne same]

@[simp]
theorem release_without (id : Nat) :
    (keys.without inbox).release id = (keys.release id).without inbox := by
  have shared := adjust_without inbox keys id
    (fun identity => { identity with owners := identity.owners - 1 })
    (fun identity => { identity with owners := identity.owners - 1 }) fun _ => rfl
  unfold release
  rw [shared, without, Numbered.find?_map]
  cases keys.owned.find? id with
  | none => rfl
  | some identity =>
      simp only [Option.map_some]
      show (if identity.owners ≤ 1 then _ else _) = _
      split
      next =>
        exact congrArg₂ Keys.mk (Numbered.map_erase _ keys.owned id).symm
          (post_without inbox identity.watchers id keys.inboxes)
      next => rfl

theorem closeInbox_without (other : Nat) :
    (keys.without inbox).closeInbox other = (keys.closeInbox other).without inbox :=
  congrArg (Keys.mk _) (Numbered.erase_erase keys.inboxes inbox other)

/-- A new inbox gets the same number, and may be the one that is left out. -/
theorem openInbox_without :
    (keys.without inbox).openInbox.1 = keys.openInbox.1 ∧
      (keys.without inbox).openInbox.2.without inbox = keys.openInbox.2.without inbox := by
  refine ⟨Numbered.next_erase keys.inboxes inbox, congrArg₂ Keys.mk ?_ ?_⟩
  · refine Numbered.eq_of_find? (by simp [without, openInbox]) fun id => ?_
    simp only [openInbox, without, Numbered.find?_map, Option.map_map]
    refine congrArg (Option.map · _) (funext fun identity => ?_)
    simp [Identity.without]
  · refine Numbered.eq_of_find? (by simp [without, openInbox]) fun other => ?_
    simp only [openInbox, without, Numbered.find?_erase, Numbered.find?_add, Numbered.next_erase]
    split <;> rfl

/-! ## What is done with the inbox that is left out -/

theorem without_without : (keys.without inbox).without inbox = keys.without inbox := by
  refine congrArg₂ Keys.mk ?_ (Numbered.erase_self keys.inboxes inbox)
  refine (Numbered.map_map _ _ keys.owned).trans ?_
  refine congrArg (Numbered.map · keys.owned) (funext fun identity => ?_)
  simp [Identity.without]

theorem without_watch (id : Nat) : (keys.watch id inbox).without inbox = keys.without inbox := by
  refine congrArg (Keys.mk · (keys.inboxes.erase inbox)) ?_
  refine Numbered.map_adjust_of_same (fun identity => ?_) keys.owned id
  split <;> simp [Identity.without]

theorem without_collect : (keys.collect inbox).2.without inbox = keys.without inbox :=
  congrArg (Keys.mk _) (Numbered.adjust_erase_self keys.inboxes inbox _)

theorem without_closeInbox : (keys.closeInbox inbox).without inbox = keys.without inbox :=
  congrArg (Keys.mk _) (Numbered.erase_self keys.inboxes inbox)

end

end Keys

/-- A host without one inbox, and with other names for the ticks of its clock. -/
def Host.seen (tick : Nat → Nat) (inbox : Nat) (host : Host) : Host :=
  ⟨host.keys.without inbox, tick host.clock⟩

namespace Host

variable {tick : Nat → Nat} {inbox : Nat} {host : Host}

theorem seen_seen (tick other : Nat → Nat) (inbox : Nat) (host : Host) :
    (host.seen tick inbox).seen other inbox = host.seen (other ∘ tick) inbox :=
  congrArg (Host.mk · (other (tick host.clock))) (Keys.without_without inbox host.keys)

theorem tick_seen (renames : Renames tick host.clock) (inbox : Nat) :
    (host.seen tick inbox).tick = (tick host.tick.1, host.tick.2.seen tick inbox) := by
  refine Prod.ext rfl ?_
  exact congrArg (Host.mk _) renames.next.symm

theorem watch_seen {other : Nat} (different : other ≠ inbox) (tick : Nat → Nat) (host : Host)
    (keyId : Nat) :
    (host.seen tick inbox).watch keyId other = (host.watch keyId other).seen tick inbox :=
  congrArg (Host.mk · (tick host.clock)) (Keys.watch_without inbox host.keys different keyId)

end Host

namespace Store

variable {Row : Type u}

/-- A store with other names for the ticks of its cells. -/
def retick (tick : Nat → Nat) (store : Store Row) : Store Row :=
  { store with memory := store.memory.retick tick }

section

variable (tick : Nat → Nat) (store : Store Row)

/-! ## What needs no host -/

@[simp]
theorem entryOf?_retick (keyId : Nat) :
    (store.retick tick).entryOf? keyId = store.entryOf? keyId := rfl

@[simp]
theorem clearForReclaim_retick (keyId : Nat) :
    (store.retick tick).clearForReclaim keyId =
      ((store.clearForReclaim keyId).1, (store.clearForReclaim keyId).2.retick tick) := by
  rw [clearForReclaim, clearForReclaim, entryOf?_retick]
  cases (store.entryOf? keyId).bind Entry.strong <;> rfl

@[simp]
theorem contains_retick (keyId : Nat) :
    (store.retick tick).contains keyId = store.contains keyId := by
  rw [contains, contains, entryOf?_retick]
  cases store.entryOf? keyId with
  | none => rfl
  | some entry => exact Memory.isAlive_retick tick store.memory entry.cell

@[simp]
theorem tier_retick (keyId : Nat) : (store.retick tick).tier keyId = store.tier keyId := by
  rw [tier, tier, entryOf?_retick]
  cases store.entryOf? keyId with
  | none => rfl
  | some entry => exact Memory.tier_retick tick store.memory entry

@[simp]
theorem occupancy_retick : (store.retick tick).occupancy = store.occupancy := by
  rw [occupancy, occupancy, retick]
  simp only [Memory.tier_retick]

@[simp]
theorem invalidate_retick (keyId : Nat) :
    (store.retick tick).invalidate keyId =
      ((store.invalidate keyId).1, (store.invalidate keyId).2.retick tick) := by
  rw [invalidate, invalidate, entryOf?_retick]
  cases store.entryOf? keyId with
  | none => rfl
  | some entry => simp only [retick, Memory.discard_retick]

@[simp]
theorem dropRecent_retick (keyId : Nat) :
    (store.retick tick).dropRecent keyId =
      ((store.dropRecent keyId).1, (store.dropRecent keyId).2.retick tick) := by
  rw [dropRecent, dropRecent, entryOf?_retick]
  cases (store.entryOf? keyId).bind Entry.recent with
  | none => rfl
  | some cell => simp only [retick, Memory.closeRecent_retick]

@[simp]
theorem read_retick (keyId : Nat) :
    (store.retick tick).read keyId =
      ((store.read keyId).1, (store.read keyId).2.retick tick) := by
  rw [read, read, entryOf?_retick]
  cases store.entryOf? keyId with
  | none => rfl
  | some entry => simp only [retick, Memory.read_retick]

theorem removeOrphans_retick (inbox : Nat) (keys : Keys) (posted : List Nat) :
    removeOrphans (keys.without inbox) posted (store.retick tick) =
      ((removeOrphans keys posted store).1, (removeOrphans keys posted store).2.retick tick) := by
  induction posted generalizing store with
  | nil => rfl
  | cons first rest ih =>
      rw [removeOrphans, removeOrphans, entryOf?_retick, Keys.isOwned_without, invalidate_retick]
      split
      next => simp only [ih]
      next => exact ih store

end

/-! ## What needs the host -/

variable {tick : Nat → Nat} {store : Store Row} {host : Host} {inbox : Nat}

theorem put_seen (renames : Renames tick host.clock) (apart : store.inbox ≠ inbox) (keyId : Nat)
    (rows : List Row) :
    (store.retick tick).put (host.seen tick inbox) keyId rows =
      ((store.put host keyId rows).1, (store.put host keyId rows).2.1.retick tick,
        (store.put host keyId rows).2.2.seen tick inbox) := by
  have lodged := Memory.lodge_retick tick store.memory keyId rows host.clock (host.clock + 1)
  rw [renames.next] at lodged
  have memory : ((store.retick tick).put (host.seen tick inbox) keyId rows).2.1.memory =
      (store.put host keyId rows).2.1.memory.retick tick := by
    rw [put_eq, put_eq, entryOf?_retick]
    simp only [Host.seen, retick]
    cases store.entryOf? keyId with
    | none => exact lodged
    | some replaced =>
        simp only
        rw [lodged, Memory.discard_retick]
  have entries : ((store.retick tick).put (host.seen tick inbox) keyId rows).2.1.entries =
      (store.put host keyId rows).2.1.entries := by
    rw [put_eq, put_eq]
    exact congrArg (store.entries.insert keyId) (Memory.lodged_retick tick store.memory)
  have watched : ((host.tick.2.watch keyId store.inbox).seen tick inbox).tick.2 =
      (host.tick.2.watch keyId store.inbox).tick.2.seen tick inbox :=
    congrArg Prod.snd (Host.tick_seen (renames.later 1) inbox)
  refine Prod.ext rfl (Prod.ext ?_ ?_)
  · exact congrArg₂ (Store.mk · · store.inbox) memory entries
  · rw [put_eq, put_eq]
    simp only [Host.tick_seen renames, retick]
    rw [Host.watch_seen apart, watched]

theorem attachRecent_seen (renames : Renames tick host.clock) (keyId : Nat) :
    (store.retick tick).attachRecent (host.seen tick inbox) keyId =
      ((store.attachRecent host keyId).1.retick tick,
        (store.attachRecent host keyId).2.seen tick inbox) := by
  have ticked := congrArg Prod.snd (Host.tick_seen renames inbox)
  cases found : store.entryOf? keyId with
  | none =>
      have absent : (store.retick tick).entryOf? keyId = none := found
      rw [attachRecent_of_absent found, attachRecent_of_absent absent]
  | some entry =>
      have there : (store.retick tick).entryOf? keyId = some entry := found
      cases recent : entry.recent with
      | none =>
          rw [attachRecent_of_not_isRecent found recent, attachRecent_of_not_isRecent there recent]
          refine Prod.ext (congrArg (Store.mk · _ store.inbox) ?_) ticked
          exact Memory.openRecent_retick tick store.memory entry.cell host.clock
      | some cell =>
          rw [attachRecent_of_isRecent found recent, attachRecent_of_isRecent there recent]
          refine Prod.ext (congrArg (Store.mk · store.entries store.inbox) ?_) ticked
          exact Memory.touchRecent_retick tick store.memory cell host.clock

theorem expunge_seen (tick : Nat → Nat) (apart : store.inbox ≠ inbox) (host : Host) :
    (store.retick tick).expunge (host.seen tick inbox) =
      ((store.expunge host).1, (store.expunge host).2.1.retick tick,
        (store.expunge host).2.2.seen tick inbox) := by
  have collected : (host.seen tick inbox).keys.collect (store.retick tick).inbox =
      ((host.keys.collect store.inbox).1, (host.keys.collect store.inbox).2.without inbox) :=
    Keys.collect_without inbox host.keys apart
  simp only [expunge, collected, removeOrphans_retick]
  rfl

end Store

end TableCache
