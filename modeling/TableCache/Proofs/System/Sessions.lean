import TableCache.Proofs.System.Mirrors

/-!
# Sessions are runs of systems

Every step of a session is some acts of the system that mirrors it. So what holds of all systems
that acts lead to holds in every session.

Main statements:

1. `Mirrors.step`: every step of a session is some acts of the system that mirrors it;
2. `mirrors_run`: every session is mirrored by a system that acts lead to;
3. `Session.sound_run`, `Session.owners_run`: so its engines are sound with what names hold, and a
   key has as many owners as names stand for it.
-/

namespace TableCache

universe u v w

variable {Row : Type u}

namespace System

variable {system : System Row} {session : Session Row} {keys : Multiset Nat}
  {holds : Multiset Hold}

/-! ## Calls -/

variable {state : Hosted Row}

/-- A request that hands nothing out. -/
theorem ComesTo.asked (came : system.ComesTo (session.restore state) keys holds)
    (room : session.current < session.caches.length) (request : Request Row)
    (admitted : session.Admits request)
    (nothing : Hosted.given (state.perform request).result = []) :
    system.ComesTo (session.restore (state.perform request).state) keys holds := by
  have done := came.ask room request admitted
  rwa [nothing, Session.holdsOn_nil] at done

/-- A caller keeps or gives back what it was handed. -/
theorem ComesTo.settled {reply : Reply (Hosted Row) (Option Nat)}
    (came : system.ComesTo (session.restore reply.state) keys
      (session.holdsOn (Hosted.handed id reply.result) + holds))
    (hold : Option String) (answer : Option (List Row) → Answer Row) :
    system.ComesTo (session.settled reply hold answer).state keys holds := by
  obtain ⟨result, after, events⟩ := reply
  rcases result with fault | _ | table
  · rwa [Hosted.handed, Session.holdsOn_nil] at came
  · rwa [Hosted.handed, id, Option.toList_none, Session.holdsOn_nil] at came
  · rw [Hosted.handed, id, Option.toList_some, Session.holdsOn_singleton] at came
    exact came.trans fun between mirrors => mirrors.settle hold

/-- The caller of a call that answers with more than a table. -/
theorem ComesTo.settledBy {α : Type v} {reply : Reply (Hosted Row) α} {pick : α → Option Nat}
    (came : system.ComesTo (session.restore reply.state) keys
      (session.holdsOn (Hosted.handed pick reply.result) + holds))
    (hold : Option String) (answer : Option (List Row) → Answer Row) :
    system.ComesTo (session.settled (reply.map pick) hold answer).state keys holds := by
  obtain ⟨result, after, events⟩ := reply
  cases result with
  | error fault => exact ComesTo.settled came hold answer
  | ok value => exact ComesTo.settled came hold answer

/-- A name must stand for a key before anything is asked about it. -/
theorem ComesTo.withKey (came : system.ComesTo session keys holds) {name : String}
    {next : Owner → Reply (Session Row) (Answer Row)}
    (asked : ∀ owner, session.owners.find? name = some owner →
      system.ComesTo (next owner).state keys holds) :
    system.ComesTo (session.withKey name next).state keys holds := by
  unfold Session.withKey
  cases known : session.owners.find? name with
  | none => exact came
  | some owner => exact asked owner known

/-- Two things one after the other, the second only if the first did not fault. -/
theorem ComesTo.andThen {α : Type v} {β : Type w} {first : Reply (Hosted Row) α}
    {rest : Hosted Row → α → Reply (Hosted Row) β}
    (came : system.ComesTo (session.restore first.state) keys holds)
    (later : ∀ value,
      system.ComesTo (session.restore (rest first.state value).state) keys holds) :
    system.ComesTo (session.restore (first.andThen rest).state) keys holds := by
  obtain ⟨result, after, events⟩ := first
  cases result with
  | error fault => exact came
  | ok value => exact later value

/-- What a session has besides is not mirrored. -/
theorem Mirrors.aside (mirrors : system.Mirrors session keys holds) (current : Nat)
    (exporter : Option Exporter) :
    system.Mirrors { session with current := current, exporter := exporter } keys holds :=
  ⟨mirrors.host, mirrors.caches, mirrors.owners, mirrors.holds, mirrors.sound⟩

/-- A look-up that is answered with its class is settled like any other. -/
theorem ComesTo.classed {reply : Reply (Hosted Row) Found}
    (came : system.ComesTo (session.restore reply.state) keys
      (session.holdsOn (Hosted.handed Found.table reply.result) + holds))
    (hold : Option String) :
    system.ComesTo
      (match reply.result with
      | .error fault => ⟨.error fault, session.restore reply.state, reply.events⟩
      | .ok found => session.settled (reply.map Found.table) hold (.found found.access) :
        Reply (Session Row) (Answer Row)).state
      keys holds := by
  obtain ⟨result, after, events⟩ := reply
  cases result with
  | error fault => rwa [Hosted.handed, Session.holdsOn_nil] at came
  | ok found => exact ComesTo.settledBy came hold _

/-- What the exporter makes of an answer does not touch the engine. -/
theorem ComesTo.observed {α : Type v} {reply : Reply (Hosted Row) α}
    (came : system.ComesTo (session.restore reply.state) keys holds)
    (exporter : Session Row → α → Exporter) :
    system.ComesTo
      ((reply.within session.restore).andThen fun session value =>
        .ok { session with exporter := some (exporter session value) }
          (Answer.nothing : Answer Row)).state
      keys holds := by
  obtain ⟨result, after, events⟩ := reply
  cases result with
  | error fault => exact came
  | ok value => exact came.trans fun between mirrors => (mirrors.aside _ _).comesTo

theorem Mirrors.callStep (mirrors : system.Mirrors session keys holds) {engine : Engine Row}
    (running : session.caches[session.current]? = some (.running engine)) (call : Call Row) :
    system.ComesTo (session.callStep ⟨engine, session.host⟩ call).state keys holds := by
  have same := mirrors.comesTo
  have start := mirrors.comesTo
  rw [← Session.restore_self running] at start
  obtain ⟨room, -⟩ := List.getElem?_eq_some_iff.1 running
  have keyless := session.admits_of_keyless
  generalize (⟨engine, session.host⟩ : Hosted Row) = state at start ⊢
  cases call with
  | put name rows hold =>
      refine same.withKey fun owner known => ?_
      have asked := start.ask room (.put owner.keyId rows) (Session.admits_of_known known _ rfl)
      simp only [Hosted.perform_state, Hosted.given_perform] at asked
      exact asked.settledBy hold _
  | get name hold =>
      refine same.withKey fun owner known => ?_
      have asked := start.ask room (.get owner.keyId 0) (Session.admits_of_known known _ rfl)
      simp only [Hosted.perform_state, Hosted.given_perform] at asked
      exact asked.settledBy hold _
  | lookup name hold =>
      refine same.withKey fun owner known => ?_
      have asked := start.ask room (.lookup owner.keyId 0) (Session.admits_of_known known _ rfl)
      simp only [Hosted.perform_state, Hosted.given_perform] at asked
      exact asked.classed hold
  | peek name hold =>
      refine same.withKey fun owner known => ?_
      have asked := start.ask room (.peek owner.keyId) (Session.admits_of_known known _ rfl)
      simp only [Hosted.perform_state, Hosted.given_perform] at asked
      exact asked.settled hold _
  | clear name isPersisted =>
      refine same.withKey fun owner known => ?_
      exact start.asked room (.clear owner.keyId _) (Session.admits_of_known known _ rfl)
        (Hosted.given_perform _ _)
  | contains name =>
      refine same.withKey fun owner known => ?_
      exact start.asked room (.contains owner.keyId) (Session.admits_of_known known _ rfl)
        (Hosted.given_perform _ _)
  | invalidate name =>
      refine same.withKey fun owner known => ?_
      exact start.asked room (.invalidate owner.keyId) (Session.admits_of_known known _ rfl)
        (Hosted.given_perform _ _)
  | tier name =>
      refine same.withKey fun owner known => ?_
      exact start.asked room (.tier owner.keyId) (Session.admits_of_known known _ rfl)
        (Hosted.given_perform _ _)
  | compareTiers first second =>
      refine same.withKey fun owner known => ?_
      have asked : system.ComesTo (session.restore (state.tier owner.keyId).state) keys holds :=
        start.asked room (.tier owner.keyId) (Session.admits_of_known known _ rfl)
          (Hosted.given_perform _ _)
      refine ComesTo.andThen asked fun tier => ?_
      split
      next => exact asked
      next other found =>
        exact asked.asked room (.tier other.keyId) (Session.admits_of_known found _ rfl)
          (Hosted.given_perform _ _)
  | purge => exact start.asked room .purge (keyless _ rfl) (Hosted.given_perform _ _)
  | statistics => exact start.asked room .statistics (keyless _ rfl) (Hosted.given_perform _ _)
  | hitRatio =>
      have asked : system.ComesTo (session.restore state.statistics.state) keys holds :=
        start.asked room .statistics (keyless _ rfl) (Hosted.given_perform _ _)
      refine ComesTo.andThen asked fun counters => ?_
      split <;> exact asked
  | occupancy => exact start.asked room .occupancy (keyless _ rfl) (Hosted.given_perform _ _)
  | size | isEmpty => exact start.asked room .size (keyless _ rfl) (Hosted.given_perform _ _)
  | config | describe => exact same
  | observe =>
      have asked : system.ComesTo (session.restore state.statistics.state) keys holds :=
        start.asked room .statistics (keyless _ rfl) (Hosted.given_perform _ _)
      refine ComesTo.observed ?_ fun session (observed : Statistics × Occupancy) =>
        (session.exporter.getD .fresh).observe observed.1 observed.2
      refine ComesTo.andThen asked fun counters => ?_
      exact asked.asked room .occupancy (keyless _ rfl) (Hosted.given_perform _ _)

/-! ## Steps -/

/-- The owner of a name may change, as long as the key it owns does not. -/
theorem Mirrors.reviseOwner (mirrors : system.Mirrors session keys holds) {name : String}
    {before : Owner} (known : session.owners.find? name = some before) (after : Owner)
    (same : after.keyId = before.keyId) :
    system.Mirrors { session with owners := session.owners.insert name after } keys holds where
  host := mirrors.host
  caches := mirrors.caches
  owners := fun keyId => by
    have replaced := congrArg (Multiset.map Owner.keyId) (Assoc.bag_insert_of_known known after)
    rw [Multiset.map_cons, Multiset.map_cons, same, Multiset.cons_inj_right] at replaced
    rw [← mirrors.owners keyId, Session.ownedKeys, replaced]
    rfl
  holds := mirrors.holds
  sound := mirrors.sound

theorem Mirrors.keyStep (mirrors : system.Mirrors session keys holds) (step : KeyStep) :
    system.ComesTo (session.keyStep step).1 keys holds := by
  have same := mirrors.comesTo
  unfold Session.keyStep
  cases step with
  | create name label =>
      exact (mirrors.createKey label).trans fun between created =>
        Mirrors.nameOwner (.bare _) created name
  | createBuffer name label =>
      exact (mirrors.createKey label).trans fun between created =>
        Mirrors.nameOwner (.buffer _ false) created name
  | clone source target =>
      simp only
      split
      next => exact same
      next owner known =>
        exact (mirrors.shareKey (Session.mem_ownedKeys known)).trans fun between shared =>
          Mirrors.nameOwner (.bare owner.keyId) shared target
  | drop name =>
      simp only
      split
      next => exact same
      next owner known => exact (mirrors.unnameOwner known).dropKey
  | markPersisted name =>
      simp only
      split
      next => exact same
      next => exact same
      next keyId isPersisted known =>
        exact (mirrors.reviseOwner known (.buffer keyId true) rfl).comesTo
  | same first second => simp only; split <;> exact same
  | count names => simp only; split <;> exact same
  | label name | describe name | isPersisted name => simp only; split <;> exact same

theorem Mirrors.holdStep (mirrors : system.Mirrors session keys holds) (step : HoldStep) :
    system.ComesTo (session.holdStep step).1 keys holds := by
  have same := mirrors.comesTo
  unfold Session.holdStep
  cases step with
  | drop name =>
      simp only
      split
      next => exact same
      next hold known => exact (mirrors.unnameHold known).dropHold
  | clone source target =>
      simp only
      split
      next => exact same
      next hold known =>
        exact (mirrors.shareHold (Assoc.mem_bag known)).trans fun between shared =>
          shared.nameHold target
  | rows name | describe name | same first second => simp only; split <;> exact same

theorem Mirrors.managerStep (mirrors : system.Mirrors session keys holds) (step : ManagerStep) :
    system.ComesTo (session.managerStep step).state keys holds := by
  have same := mirrors.comesTo
  unfold Session.managerStep
  cases there : session.caches[session.current]? with
  | none => exact same
  | some cache =>
      cases step with
      | reclaim pressure =>
          have visited := mirrors.manage there (.reclaim session.current pressure) rfl
          cases cache <;> exact visited
      | reclaimable => exact mirrors.manage there (.reclaimable session.current) rfl
      | tracked => exact mirrors.manage there (.tracked session.current) rfl
      | renew => exact same

/-- Every step of a session is some acts of the system that mirrors it. -/
theorem Mirrors.step (mirrors : system.Mirrors session keys holds) (step : Step Row) :
    system.ComesTo (session.step step).state keys holds := by
  have same := mirrors.comesTo
  unfold Session.step
  cases step with
  | key step => exact mirrors.keyStep step
  | hold step => exact mirrors.holdStep step
  | manager step => exact mirrors.managerStep step
  | call call =>
      simp only
      split
      next engine running => exact mirrors.callStep running call
      next => exact same
  | select number => exact (mirrors.aside _ _).comesTo
  | dropEngine => exact mirrors.dropEngine
  | encode => exact same

/-! ## Runs -/

theorem Mirrors.run (mirrors : system.Mirrors session keys holds) (steps : List (Step Row)) :
    system.ComesTo (finalState Session.step session steps) keys holds := by
  induction steps generalizing system session with
  | nil => exact mirrors.comesTo
  | cons step rest ih => exact (mirrors.step step).trans fun between later => ih later

/-- The engines that a session starts with are built one after the other. -/
theorem finalState_build {config : Config} (valid : config.validate = .ok ()) (count : Nat)
    (host : Host) (caches : List (Cache Row)) :
    finalState System.step ⟨host, caches, []⟩ (List.replicate count (.build config)) =
      let built : List (Cache Row) × Host := Session.buildCaches config count host
      ⟨built.2, caches ++ built.1, []⟩ := by
  induction count generalizing host caches with
  | zero => simp [finalState, Session.buildCaches]
  | succ count ih =>
      have built : Hosted.create config host = .ok (Hosted.build config host : Hosted Row) :=
        Hosted.create_eq_ok_iff.2 ⟨valid, rfl⟩
      rw [List.replicate_succ, finalState, System.step, built]
      refine (ih _ _).trans ?_
      simp only [List.append_assoc]
      rfl

/-- Engines own no keys. -/
theorem owned_buildCaches (config : Config) (count : Nat) (host : Host) :
    (Session.buildCaches config count host : List (Cache Row) × Host).2.keys.owned =
      host.keys.owned := by
  induction count generalizing host with
  | zero => rfl
  | succ count ih => exact ih _

/-- A new session is mirrored by engines that were built. -/
theorem mirrors_create {config : Config} {engines : Nat}
    (created : Session.create config engines = .ok session) :
    (after (List.replicate engines (.build config))).Mirrors session 0 0 := by
  unfold Session.create at created
  cases validated : config.validate with
  | error refused =>
      rw [validated] at created
      cases created
  | ok value =>
      rw [validated] at created
      cases created
      have sound := sound_after (List.replicate engines (.build config : Act Row))
      have built := finalState_build validated engines .empty ([] : List (Cache Row))
      rw [after, empty, built] at sound ⊢
      refine ⟨rfl, rfl, fun keyId => ?_, rfl, sound⟩
      have unowned : Host.empty.keys.owned.find? keyId = none := Numbered.find?_startingAt 1 keyId
      simp only [Keys.owners?]
      rw [owned_buildCaches, unowned]
      rfl

/-- Every session is mirrored by a system that acts lead to, in which nothing is owned or held
without a name. -/
theorem mirrors_run {config : Config} {engines : Nat} {start : Session Row}
    (created : Session.create config engines = .ok start) (steps : List (Step Row)) :
    ∃ acts, (after acts).Mirrors (finalState Session.step start steps) 0 0 := by
  obtain ⟨acts, mirrors⟩ := (mirrors_create created).run steps
  refine ⟨List.replicate engines (.build config) ++ acts, ?_⟩
  rw [after_append]
  exact mirrors

end System

namespace Session

variable {config : Config} {engines : Nat} {start : Session Row}

/-- What holds of every engine of a system holds of every engine of a session, with what names hold
of its tables. -/
theorem sound_run (created : create config engines = .ok start) (steps : List (Step Row))
    {number : Nat} {cache : Cache Row}
    (there : (finalState step start steps).caches[number]? = some cache) :
    cache.Sound
      (((finalState step start steps).holds.values.filter fun hold => hold.engine = number).map
        Hold.table : List Nat) := by
  obtain ⟨acts, mirrors⟩ := System.mirrors_run created steps
  have balance := mirrors.holds
  rw [Multiset.add_zero, Assoc.bag, Multiset.coe_eq_coe] at balance
  rw [← mirrors.caches] at there
  have sound := mirrors.sound.caches number cache there
  rwa [System.heldFrom, Multiset.coe_eq_coe.2 ((balance.filter _).map _)] at sound

/-- A key has as many owners as names stand for it. -/
theorem owners_run (created : create config engines = .ok start) (steps : List (Step Row))
    (keyId : Nat) :
    ((finalState step start steps).owners.values.map Owner.keyId).count keyId =
      ((finalState step start steps).host.keys.owners? keyId).getD 0 := by
  obtain ⟨acts, mirrors⟩ := System.mirrors_run created steps
  rw [← mirrors.owners keyId, Multiset.add_zero, ownedKeys, Assoc.bag, Multiset.map_coe,
    Multiset.coe_count]

end Session

end TableCache
