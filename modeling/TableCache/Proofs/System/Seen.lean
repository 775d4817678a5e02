import TableCache.Proofs.Engine.Seen
import TableCache.Proofs.System.Clock
import TableCache.Proofs.System.Wiring

/-!
# A system without one of its engines

A system can be seen without one engine: without what is in it, without its inbox and without what
is held of its tables, and with other names for the ticks of the clock. An act on another engine
does not depend on what is left out, and an act on the engine that is left out is seen by nothing
but the clock.

Main statements:

1. `step_seen`: an act is answered as before by a system that is seen without an engine;
2. `seen_step_of_isOn`: an act on the engine that is left out only lets the clock go on.
-/

namespace TableCache

universe u

variable {Row : Type u}

/-- Whether an act is about an engine, its reclaimer or a table of it that is held. -/
def Act.isOn (number : Nat) : Act Row → Bool
  | .ask other _ | .reclaim other _ | .reclaimable other | .tracked other | .close other =>
      other = number
  | .shareHold hold | .dropHold hold => hold.engine = number
  | .createKey _ | .shareKey _ | .dropKey _ | .build _ => false

namespace Cache

/-- An engine, or what is left of one, with other names for ticks. -/
def retick (tick : Nat → Nat) : Cache Row → Cache Row
  | .running engine => .running (engine.retick tick)
  | .closed memory => .closed (memory.retick tick)

variable (tick : Nat → Nat) (cache : Cache Row)

theorem memory_retick : (cache.retick tick).memory = cache.memory.retick tick := by
  cases cache <;> rfl

theorem withMemory_retick (memory : Memory Row) :
    (cache.retick tick).withMemory (memory.retick tick) =
      (cache.withMemory memory).retick tick := by
  cases cache <;> rfl

theorem retick_congr {tick other : Nat → Nat} {cache : Cache Row}
    (same : ∀ cell found, cache.memory.cells.find? cell = some found →
      tick found.lastUsed = other found.lastUsed) :
    cache.retick tick = cache.retick other := by
  cases cache with
  | running engine =>
      exact congrArg (fun memory => running { engine with store.memory := memory })
        (Memory.retick_congr same)
  | closed memory => exact congrArg closed (Memory.retick_congr same)

theorem retick_retick (other : Nat → Nat) :
    (cache.retick tick).retick other = cache.retick (other ∘ tick) := by
  cases cache with
  | running engine =>
      exact congrArg (fun memory => running { engine with store.memory := memory })
        (Memory.retick_retick tick other engine.store.memory)
  | closed memory => exact congrArg closed (Memory.retick_retick tick other memory)

theorem reclaim_retick {tick : Nat → Nat} {clock : Nat} (renames : Renames tick clock)
    (cache : Cache Row) (pressure : Pressure) :
    (cache.retick tick).reclaim pressure = (cache.reclaim pressure).within (retick tick) := by
  cases cache with
  | running engine =>
      rw [retick, reclaim, engine.reclaim_retick renames]
      rfl
  | closed memory =>
      rw [retick, reclaim, renames.reclaim_retick]
      rfl

end Cache

namespace System

/-- A system without one engine, and with other names for ticks. The place of the engine is kept. -/
def seen (tick : Nat → Nat) (hidden : Nat) (system : System Row) : System Row where
  host := system.host.seen tick hidden
  caches := (system.caches.map (Cache.retick tick)).set hidden (.closed .empty)
  holds := system.holds.filter fun hold => hold.engine ≠ hidden

variable {system : System Row} {tick : Nat → Nat} {number hidden : Nat}

theorem getElem?_seen (different : number ≠ hidden) (system : System Row) :
    (system.seen tick hidden).caches[number]? =
      system.caches[number]?.map (Cache.retick tick) := by
  rw [seen, List.getElem?_set_ne different.symm, List.getElem?_map]

theorem serving?_seen (different : number ≠ hidden) (system : System Row) :
    (system.seen tick hidden).serving? number =
      (system.serving? number).map (Hosted.seen tick hidden) := by
  rw [serving?, serving?, getElem?_seen different]
  rcases system.caches[number]? with _ | (engine | memory) <;> rfl

theorem rowsOf_seen {hold : Hold} (different : hold.engine ≠ hidden) (system : System Row) :
    (system.seen tick hidden).rowsOf hold = system.rowsOf hold := by
  rw [rowsOf, rowsOf, getElem?_seen different]
  cases system.caches[hold.engine]? with
  | none => rfl
  | some cache =>
      rw [Option.map_some]
      simp only [Cache.memory_retick]
      rfl

theorem mem_holds_seen {hold : Hold} (different : hold.engine ≠ hidden) (system : System Row) :
    hold ∈ (system.seen tick hidden).holds ↔ hold ∈ system.holds := by
  simp [seen, different]

theorem length_seen (tick : Nat → Nat) (hidden : Nat) (system : System Row) :
    (system.seen tick hidden).caches.length = system.caches.length := by
  simp [seen]

/-! ## What is done to another engine -/

theorem setCache_seen (different : number ≠ hidden) (tick : Nat → Nat) (system : System Row)
    (cache : Cache Row) :
    (system.seen tick hidden).setCache number (cache.retick tick) =
      (system.setCache number cache).seen tick hidden := by
  have caches : ((system.caches.map (Cache.retick tick)).set hidden (.closed .empty)).set number
      (cache.retick tick) =
        ((system.caches.set number cache).map (Cache.retick tick)).set hidden (.closed .empty) := by
    rw [List.map_set, List.set_comm _ _ different.symm]
  exact congrArg (System.mk _ · _) caches

theorem manage_seen (different : number ≠ hidden) (system : System Row)
    {move : Cache Row → Reply (Cache Row) Response}
    (moved : ∀ cache, move (cache.retick tick) = (move cache).within (Cache.retick tick)) :
    (system.seen tick hidden).manage number move =
      (system.manage number move).within (seen tick hidden) := by
  unfold manage
  rw [getElem?_seen different]
  cases system.caches[number]? with
  | none => rfl
  | some cache =>
      have set := setCache_seen different tick system
      simp only [Option.map_some, moved, Reply.within, set]

theorem onMemory_seen (different : number ≠ hidden) (system : System Row)
    {change : Memory Row → Memory Row}
    (changed : ∀ memory, change (memory.retick tick) = (change memory).retick tick) :
    (system.seen tick hidden).onMemory number change =
      (system.onMemory number change).seen tick hidden := by
  unfold onMemory
  rw [getElem?_seen different]
  cases system.caches[number]? with
  | none => rfl
  | some cache =>
      simp only [Option.map_some, Cache.memory_retick, changed, Cache.withMemory_retick]
      exact setCache_seen different tick system _

theorem restore_seen (different : number ≠ hidden) (system : System Row)
    (reply : Reply (Hosted Row) Response) :
    (system.seen tick hidden).restore number (reply.within (Hosted.seen tick hidden)) =
      (system.restore number reply).within (seen tick hidden) := by
  have caches := congrArg System.caches
    (setCache_seen different tick system (.running reply.state.engine))
  have holds : (((Hosted.given reply.result).map (Hold.mk number) ++ system.holds).filter
      fun hold => hold.engine ≠ hidden) = (Hosted.given reply.result).map (Hold.mk number) ++
        (system.seen tick hidden).holds := by
    rw [List.filter_append]
    refine congrArg (· ++ _) (List.filter_eq_self.2 fun hold member => ?_)
    obtain ⟨table, -, rfl⟩ := List.mem_map.1 member
    exact decide_eq_true different
  exact congrArg₂ (fun caches holds => Reply.mk reply.result
    (System.mk (reply.state.host.seen tick hidden) caches holds) reply.events) caches holds.symm

theorem seen_seen (tick other : Nat → Nat) (hidden : Nat) (system : System Row) :
    (system.seen tick hidden).seen other hidden = system.seen (other ∘ tick) hidden := by
  have host := Host.seen_seen tick other hidden system.host
  have caches : ((((system.caches.map (Cache.retick tick)).set hidden (.closed .empty)).map
      (Cache.retick other)).set hidden (.closed .empty)) =
        (system.caches.map (Cache.retick (other ∘ tick))).set hidden (.closed .empty) := by
    rw [List.map_set, List.set_set, List.map_map]
    exact congrArg (fun change => (system.caches.map change).set hidden (.closed .empty))
      (funext fun cache => Cache.retick_retick tick cache other)
  have holds : ((system.holds.filter fun hold => hold.engine ≠ hidden).filter
      fun hold => hold.engine ≠ hidden) = system.holds.filter fun hold => hold.engine ≠ hidden := by
    rw [List.filter_filter]
    simp
  unfold seen
  rw [host, caches, holds]

/-! ## Acts on other engines -/

/-- What is done to the holders of a table of another engine, and to the holds. -/
theorem withHolds_seen (different : number ≠ hidden) (system : System Row)
    {change : Memory Row → Memory Row} {holds kept : List Hold}
    (changed : ∀ memory, change (memory.retick tick) = (change memory).retick tick)
    (same : kept = holds.filter fun hold => hold.engine ≠ hidden) :
    ((system.seen tick hidden).onMemory number change).withHolds kept =
      ((system.onMemory number change).withHolds holds).seen tick hidden := by
  rw [onMemory_seen different system changed, same]
  rfl

theorem shareHold_seen {hold : Hold} (different : hold.engine ≠ hidden) (system : System Row) :
    (system.seen tick hidden).step (.shareHold hold) =
      (system.step (.shareHold hold)).within (seen tick hidden) := by
  rw [step, step]
  simp only [mem_holds_seen different]
  split
  next =>
    refine congrArg (Reply.ok · Response.done) (withHolds_seen different system ?_ ?_)
    · exact (Memory.share_retick tick · hold.table)
    · symm
      exact List.filter_cons_of_pos (decide_eq_true different)
  next => rfl

theorem dropHold_seen {hold : Hold} (different : hold.engine ≠ hidden) (system : System Row) :
    (system.seen tick hidden).step (.dropHold hold) =
      (system.step (.dropHold hold)).within (seen tick hidden) := by
  rw [step, step]
  simp only [mem_holds_seen different]
  split
  next =>
    refine congrArg (Reply.ok · Response.done) (withHolds_seen different system ?_ ?_)
    · exact (Memory.release_retick tick · hold.table)
    · exact List.erase_filter
  next => rfl

theorem ask_seen (renames : Renames tick system.host.clock) (wired : system.Wired)
    (different : number ≠ hidden) (request : Request Row) :
    (system.seen tick hidden).step (.ask number request) =
      (system.step (.ask number request)).within (seen tick hidden) := by
  have admitted : request.isAdmitted (system.seen tick hidden).host.keys =
      request.isAdmitted system.host.keys := by
    unfold Request.isAdmitted
    simp only [seen, Host.seen, Keys.isOwned_without]
  rw [step, step, serving?_seen different, admitted]
  cases serving : system.serving? number with
  | none => rfl
  | some state =>
      obtain ⟨running, host⟩ := serving?_eq_some_iff.1 serving
      have apart : state.engine.store.inbox ≠ hidden := by
        rwa [wired.inbox number _ running]
      rw [← host] at renames
      simp only [Option.map_some]
      split
      next => rw [Hosted.perform_seen renames apart, restore_seen different]
      next => rfl

theorem close_seen (different : number ≠ hidden) (system : System Row) :
    (system.seen tick hidden).step (.close number) =
      (system.step (.close number)).within (seen tick hidden) := by
  rw [step, step, serving?_seen different]
  cases system.serving? number with
  | none => rfl
  | some state =>
      have caches := congrArg System.caches
        (setCache_seen different tick system (.closed state.close.1))
      simp only [Option.map_some, Hosted.close_seen]
      exact congrArg (fun caches => Reply.ok (System.mk (state.close.2.seen tick hidden) caches
        (system.seen tick hidden).holds) Response.done) caches

theorem set_append_set (caches more : List (Cache Row)) (number : Nat) (cache : Cache Row) :
    (caches.set number cache ++ more).set number cache = (caches ++ more).set number cache := by
  rw [List.set_append, List.set_append, List.length_set, List.set_set]
  split
  next => rfl
  next beyond => rw [List.set_eq_of_length_le (Nat.le_of_not_lt beyond)]

theorem retick_build (tick : Nat → Nat) (config : Config) (host : Host) :
    (Hosted.build config host : Hosted Row).engine.retick tick =
      (Hosted.build config host).engine :=
  congrArg (fun memory => Engine.mk config (Store.mk memory .empty host.keys.openInbox.1)
      (.ofCapacity config.recencyCapacity) (.ofInterval config.statisticsIntervalSecs))
    (Memory.retick_empty tick)

/-- An engine that is built is the same one, whatever is left out of the host. -/
theorem engine_build_seen (tick : Nat → Nat) (hidden : Nat) (config : Config) (host : Host) :
    (Hosted.build config (host.seen tick hidden) : Hosted Row).engine =
      (Hosted.build config host).engine :=
  congrArg (fun inbox => Engine.mk config (Store.mk .empty .empty inbox)
      (.ofCapacity config.recencyCapacity) (.ofInterval config.statisticsIntervalSecs))
    (Keys.openInbox_without hidden host.keys).1

/-- The place of the engine that is left out may be the one after the last. -/
theorem caches_build_seen (tick : Nat → Nat) (hidden : Nat) (config : Config)
    (system : System Row) :
    (((system.seen tick hidden).caches ++
        [Cache.running (Hosted.build config (system.host.seen tick hidden)).engine]).map
          (Cache.retick fun tick => tick)).set hidden (.closed .empty) =
      ((system.caches ++ [Cache.running (Hosted.build config system.host).engine]).map
        (Cache.retick tick)).set hidden (.closed .empty) := by
  have old : ((system.seen tick hidden).caches.map (Cache.retick fun tick => tick)).set hidden
      (.closed .empty) = (system.caches.map (Cache.retick tick)).set hidden (.closed .empty) :=
    congrArg System.caches (seen_seen tick (fun tick => tick) hidden system)
  rw [engine_build_seen, List.map_append, List.map_append, ← set_append_set, old, set_append_set]
  simp only [List.map_singleton, Cache.retick, retick_build]

/-- A new engine may be the one that is left out. -/
theorem build_seen (system : System Row) (config : Config) :
    ((system.seen tick hidden).step (.build config)).within (seen (fun tick => tick) hidden) =
      (system.step (.build config)).within (seen tick hidden) := by
  have again := seen_seen tick (fun tick => tick) hidden system
  rw [step, step, Hosted.create, Hosted.create]
  cases config.validate with
  | error refusal => exact congrArg (Reply.ok · Response.refused) again
  | ok valid =>
      have host : (Hosted.build config (system.host.seen tick hidden) : Hosted Row).host.seen
          (fun tick => tick) hidden =
            (Hosted.build config system.host : Hosted Row).host.seen tick hidden :=
        congrArg (Host.mk · (tick system.host.clock))
          (Keys.openInbox_without hidden system.host.keys).2
      have left := congr (congrArg₂ System.mk host (caches_build_seen tick hidden config system))
        (congrArg System.holds again)
      simp only [Except.map, Reply.within, Reply.ok, length_seen]
      exact congrArg (Reply.mk _ · []) left

/-- An act that builds no engine leaves what it left before, seen without the engine. -/
theorem step_seen_of_not_build (renames : Renames tick system.host.clock) (wired : system.Wired)
    {act : Act Row} (kept : act.isOn hidden = false) (old : ∀ config, act ≠ .build config) :
    (system.seen tick hidden).step act = (system.step act).within (seen tick hidden) := by
  cases act with
  | build config => exact absurd rfl (old config)
  | createKey label =>
      rw [step, step]
      simp only [seen, Host.seen, Keys.create_without]
      rfl
  | shareKey keyId =>
      rw [step, step]
      simp only [seen, Host.seen, Keys.isOwned_without, Keys.share_without]
      split <;> rfl
  | dropKey keyId =>
      rw [step, step]
      simp only [seen, Host.seen, Keys.isOwned_without, Keys.release_without]
      split <;> rfl
  | shareHold hold => exact shareHold_seen (of_decide_eq_false kept) system
  | dropHold hold => exact dropHold_seen (of_decide_eq_false kept) system
  | ask number request => exact ask_seen renames wired (of_decide_eq_false kept) request
  | reclaim number pressure =>
      exact manage_seen (of_decide_eq_false kept) system fun cache =>
        Cache.reclaim_retick renames cache pressure
  | reclaimable number =>
      refine manage_seen (of_decide_eq_false kept) system fun cache => ?_
      simp only [Cache.memory_retick, Memory.reclaimable_retick, Cache.withMemory_retick]
      rfl
  | tracked number =>
      refine manage_seen (of_decide_eq_false kept) system fun cache => ?_
      simp only [Cache.memory_retick, Memory.tracked_retick, Cache.withMemory_retick]
      rfl
  | close number => exact close_seen (of_decide_eq_false kept) system

/-- An act that is not on the engine that is left out is answered as before, and what it leaves is
what it left before, seen that way. Only a new engine may have to be left out once more. -/
theorem step_seen (renames : Renames tick system.host.clock) (wired : system.Wired)
    {act : Act Row} (kept : act.isOn hidden = false) :
    ((system.seen tick hidden).step act).within (seen (fun tick => tick) hidden) =
      (system.step act).within (seen tick hidden) := by
  cases act with
  | build config => exact build_seen system config
  | _ =>
      rw [step_seen_of_not_build renames wired kept fun _ same => by cases same]
      exact congrArg (Reply.mk _ · _) (seen_seen tick (fun tick => tick) hidden _)

/-! ## Acts on the engine that is left out -/

/-- A system at another time. -/
def atTime (system : System Row) (clock : Nat) : System Row :=
  { system with host := { system.host with clock := clock } }

theorem seen_setCache (tick : Nat → Nat) (hidden : Nat) (system : System Row) (cache : Cache Row) :
    (system.setCache hidden cache).seen tick hidden = system.seen tick hidden := by
  have caches : ((system.caches.set hidden cache).map (Cache.retick tick)).set hidden
      (.closed .empty) = (system.caches.map (Cache.retick tick)).set hidden (.closed .empty) := by
    rw [List.map_set, List.set_set]
  exact congrArg (System.mk _ · _) caches

theorem seen_manage (tick : Nat → Nat) (hidden : Nat) (system : System Row)
    (move : Cache Row → Reply (Cache Row) Response) :
    (system.manage hidden move).state.seen tick hidden = system.seen tick hidden := by
  unfold manage
  split
  next => rfl
  next => exact seen_setCache tick hidden system _

theorem seen_onMemory (tick : Nat → Nat) (hidden : Nat) (system : System Row)
    (change : Memory Row → Memory Row) :
    (system.onMemory hidden change).seen tick hidden = system.seen tick hidden := by
  unfold onMemory
  split
  next => rfl
  next => exact seen_setCache tick hidden system _

/-- A request to the engine that is left out does not show in the keys. -/
theorem without_perform {state : Hosted Row} {held : Multiset Nat}
    (sound : state.engine.Sound held) (inbox : state.engine.store.inbox = hidden)
    (request : Request Row) :
    (state.perform request).state.host.keys.without hidden = state.host.keys.without hidden := by
  have entered : (state.entered request).host.keys.without hidden =
      state.host.keys.without hidden := by
    unfold Hosted.entered
    split
    next => rfl
    next => rw [Hosted.keys_purged, inbox, Keys.without_collect]
  rw [Hosted.keys_perform sound]
  cases request with
  | put keyId rows =>
      rw [inbox, Keys.without_watch]
      exact entered
  | _ => exact entered

theorem seen_restore (tick : Nat → Nat) (hidden : Nat) (system : System Row)
    {reply : Reply (Hosted Row) Response}
    (keys : reply.state.host.keys.without hidden = system.host.keys.without hidden) :
    (system.restore hidden reply).state.seen tick hidden =
      (system.seen tick hidden).atTime (tick reply.state.host.clock) := by
  have caches := congrArg System.caches
    (seen_setCache tick hidden system (.running reply.state.engine))
  have holds : (((Hosted.given reply.result).map (Hold.mk hidden) ++ system.holds).filter
      fun hold => hold.engine ≠ hidden) = system.holds.filter fun hold => hold.engine ≠ hidden := by
    rw [List.filter_append]
    refine congrArg (· ++ _) (List.filter_eq_nil_iff.2 fun hold member => ?_)
    obtain ⟨table, -, rfl⟩ := List.mem_map.1 member
    simp
  have host : reply.state.host.seen tick hidden =
      ⟨system.host.keys.without hidden, tick reply.state.host.clock⟩ :=
    congrArg (Host.mk · _) keys
  exact congr (congrArg₂ System.mk host caches) holds

/-- What is done to the holders of a table of the engine that is left out, and to the holds. -/
theorem seen_withHolds (tick : Nat → Nat) (hidden : Nat) (system : System Row)
    (change : Memory Row → Memory Row) {holds : List Hold}
    (same : holds.filter (fun hold => hold.engine ≠ hidden) =
      system.holds.filter fun hold => hold.engine ≠ hidden) :
    ((system.onMemory hidden change).withHolds holds).seen tick hidden =
      (system.seen tick hidden).atTime
        (tick ((system.onMemory hidden change).withHolds holds).host.clock) := by
  have clock : ((system.onMemory hidden change).withHolds holds).host.clock = system.host.clock :=
    congrArg Host.clock (host_onMemory system hidden change)
  rw [clock]
  exact congrArg₂ withHolds (seen_onMemory tick hidden system change) same

theorem seen_shareHold (tick : Nat → Nat) (system : System Row) (hold : Hold) :
    (system.step (.shareHold hold)).state.seen tick hold.engine =
      (system.seen tick hold.engine).atTime
        (tick (system.step (.shareHold hold)).state.host.clock) := by
  rw [step]
  split
  next => exact seen_withHolds tick _ system _ (List.filter_cons_of_neg (by simp))
  next => rfl

theorem seen_dropHold (tick : Nat → Nat) (system : System Row) (hold : Hold) :
    (system.step (.dropHold hold)).state.seen tick hold.engine =
      (system.seen tick hold.engine).atTime
        (tick (system.step (.dropHold hold)).state.host.clock) := by
  rw [step]
  split
  next =>
    refine seen_withHolds tick _ system _ ?_
    rw [← List.erase_filter, List.erase_of_not_mem]
    simp
  next => rfl

theorem seen_close (wired : system.Wired) (tick : Nat → Nat)
    (hidden : Nat) :
    (system.step (.close hidden)).state.seen tick hidden =
      (system.seen tick hidden).atTime
        (tick (system.step (.close hidden)).state.host.clock) := by
  rcases close_cases system hidden with ⟨done, -⟩ | ⟨state, serving, done⟩
  · rw [done]
    rfl
  · obtain ⟨running, host⟩ := serving?_eq_some_iff.1 serving
    have caches := congrArg System.caches
      (seen_setCache tick hidden system (.closed state.close.1))
    have keys : state.close.2.keys.without hidden = system.host.keys.without hidden := by
      have closed : state.close.2.keys = state.host.keys.closeInbox hidden :=
        congrArg state.host.keys.closeInbox (wired.inbox hidden _ running)
      rw [closed, Keys.without_closeInbox, host]
    rw [done]
    exact congrArg₂ (fun keys caches => System.mk ⟨keys, tick state.close.2.clock⟩ caches
      (system.seen tick hidden).holds) keys caches

/-- An act on the engine that is left out is only seen by the clock. -/
theorem seen_step_of_isOn (sound : system.Sound) (wired : system.Wired) {act : Act Row}
    (on : act.isOn hidden = true) (tick : Nat → Nat) :
    (system.step act).state.seen tick hidden =
      (system.seen tick hidden).atTime (tick (system.step act).state.host.clock) := by
  cases act with
  | createKey label | shareKey keyId | dropKey keyId | build config => cases on
  | shareHold hold =>
      obtain rfl := of_decide_eq_true on
      exact seen_shareHold tick system hold
  | dropHold hold =>
      obtain rfl := of_decide_eq_true on
      exact seen_dropHold tick system hold
  | ask number request =>
      obtain rfl := of_decide_eq_true on
      rcases ask_cases system number request with ⟨done, -⟩ | ⟨state, serving, -, done⟩
      · rw [done]
        rfl
      · obtain ⟨running, host⟩ := serving?_eq_some_iff.1 serving
        rw [done, seen_restore tick number system]
        · rfl
        · rw [← host]
          exact without_perform (sound.caches number _ running) (wired.inbox number _ running)
            request
  | reclaim number pressure | reclaimable number | tracked number =>
      obtain rfl := of_decide_eq_true on
      rw [step, seen_manage, host_manage]
      rfl
  | close number =>
      obtain rfl := of_decide_eq_true on
      exact seen_close wired tick number

/-- No cell has a tick that the clock has yet to give out, so those ticks can be put off. -/
theorem seen_putOff (timed : system.Timed) (sound : system.Sound) (count hidden : Nat) :
    system.seen (putOff system.host.clock count) hidden =
      (system.seen (fun tick => tick) hidden).atTime (system.host.clock + count) := by
  have caches : system.caches.map (Cache.retick (putOff system.host.clock count)) =
      system.caches.map (Cache.retick fun tick => tick) := by
    refine List.map_congr_left fun cache member => Cache.retick_congr fun cell found here => ?_
    obtain ⟨number, there⟩ := List.mem_iff_getElem?.1 member
    exact putOff_of_lt count (timed.lastUsed_lt sound there here)
  unfold seen Host.seen
  rw [caches, putOff_of_le count (Nat.le_refl _)]
  rfl

end System

end TableCache
