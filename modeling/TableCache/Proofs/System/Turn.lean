import TableCache.Proofs.System.Basic

/-!
# What an act does to one engine

Seen from one engine, an act is a turn: the engine answers a request, is closed or visited by the
memory manager, or one of its tables is shared or dropped outside, or it is spared. `turn_of_step`
says so of every act, and what is said of single engines elsewhere is said of turns.

Main statements:

1. `heldFrom_cons`, `heldFrom_erase`, `heldFrom_append`: what is held of the tables of an engine;
2. `ask_cases`, `build_cases`, `close_cases`: what acts do that may be refused;
3. `turn_of_step`: every act is a turn of every engine that is there.
-/

namespace TableCache

universe u

variable {Row : Type u}

/-! ## Turns -/

/-- Whether an act asks an engine something it may be asked, closes it, or sends a reclaim pass over
it. -/
def Act.reaches (act : Act Row) (number : Nat) (keys : Keys) (cache : Cache Row) : Prop :=
  match act, cache with
  | .ask other request, .running _ => other = number ∧ request.isAdmitted keys = true
  | .close other, .running _ => other = number
  | .reclaim other _, _ => other = number
  | _, _ => False

/-- What an act does to the engine with a number: from a host, an engine and what is held of its
tables to others. -/
inductive Turn (number : Nat) :
    Host → Cache Row → Multiset Nat → Act Row → Host → Cache Row → Multiset Nat → Prop
  /-- The engine answers a request. -/
  | asked {state : Hosted Row} {held : Multiset Nat} {request : Request Row} :
      request.isAdmitted state.host.keys = true →
      Turn number state.host (.running state.engine) held (.ask number request)
        (state.perform request).state.host (.running (state.perform request).state.engine)
        (Hosted.given (state.perform request).result + held)
  /-- The engine is closed. -/
  | closed {state : Hosted Row} {held : Multiset Nat} :
      Turn number state.host (.running state.engine) held (.close number)
        state.close.2 (.closed state.close.1) held
  /-- A reclaim pass goes over the memory of the engine. -/
  | reclaimed {host : Host} {cache : Cache Row} {held : Multiset Nat} {pressure : Pressure} :
      Turn number host cache held (.reclaim number pressure)
        host (cache.reclaim pressure).state held
  /-- The memory manager counts cells, and forgets those that are gone. -/
  | pruned {host : Host} {cache : Cache Row} {held : Multiset Nat} {act : Act Row} :
      act = .reclaimable number ∨ act = .tracked number →
      Turn number host cache held act host (cache.withMemory cache.memory.live.2) held
  /-- A table that is held is held once more. -/
  | shared {host : Host} {cache : Cache Row} {held : Multiset Nat} {table : Nat} :
      table ∈ held →
      Turn number host cache held (.shareHold ⟨number, table⟩)
        host (cache.withMemory (cache.memory.share table)) (table ::ₘ held)
  /-- A table that is held is held once less. -/
  | dropped {host : Host} {cache : Cache Row} {held : Multiset Nat} {table : Nat} :
      Turn number host cache (table ::ₘ held) (.dropHold ⟨number, table⟩)
        host (cache.withMemory (cache.memory.release table)) held
  /-- The act is about something else. -/
  | spared {host next : Host} {cache : Cache Row} {held : Multiset Nat} {act : Act Row} :
      ¬act.reaches number host.keys cache → Turn number host cache held act next cache held

namespace System

variable {system : System Row} {number : Nat} {cache : Cache Row} {act : Act Row}

/-! ## What is held -/

theorem heldFrom_cons (system : System Row) (hold : Hold) (number : Nat) :
    ({ system with holds := hold :: system.holds } : System Row).heldFrom number =
      if hold.engine = number then hold.table ::ₘ system.heldFrom number
      else system.heldFrom number := by
  simp only [heldFrom, List.filter_cons, decide_eq_true_eq]
  split
  next => rw [List.map_cons, Multiset.cons_coe]
  next => rfl

theorem mem_heldFrom {hold : Hold} (held : hold ∈ system.holds) :
    hold.table ∈ system.heldFrom hold.engine := by
  rw [heldFrom, Multiset.mem_coe]
  exact List.mem_map_of_mem (List.mem_filter.2 ⟨held, decide_eq_true rfl⟩)

theorem heldFrom_erase (system : System Row) {hold : Hold} (held : hold ∈ system.holds)
    (number : Nat) :
    system.heldFrom number =
      if hold.engine = number then
        hold.table ::ₘ
          ({ system with holds := system.holds.erase hold } : System Row).heldFrom number
      else ({ system with holds := system.holds.erase hold } : System Row).heldFrom number := by
  rw [← heldFrom_cons]
  simp only [heldFrom, Multiset.coe_eq_coe]
  exact ((List.perm_cons_erase held).filter _).map _

theorem heldFrom_append (system : System Row) (tables : List Nat) (other number : Nat) :
    ({ system with holds := tables.map (Hold.mk other) ++ system.holds } : System Row).heldFrom
        number =
      if other = number then (tables : Multiset Nat) + system.heldFrom number
      else system.heldFrom number := by
  induction tables with
  | nil => simp [heldFrom]
  | cons table rest ih =>
      have more := heldFrom_cons
        { system with holds := rest.map (Hold.mk other) ++ system.holds } ⟨other, table⟩ number
      rw [List.map_cons, List.cons_append]
      refine more.trans ?_
      rw [ih]
      split
      next => rw [← Multiset.cons_coe, Multiset.cons_add]
      next => rfl

/-! ## Engines by number -/

theorem getElem?_setCache (system : System Row) {number : Nat} {cache : Cache Row}
    (there : system.caches[number]? = some cache) (next : Cache Row) (other : Nat) :
    (system.setCache number next).caches[other]? =
      if number = other then some next else system.caches[other]? := by
  obtain ⟨room, -⟩ := List.getElem?_eq_some_iff.1 there
  rw [setCache, List.getElem?_set, if_pos room]

theorem getElem?_onMemory (system : System Row) (number other : Nat)
    (change : Memory Row → Memory Row) :
    (system.onMemory number change).caches[other]? =
      if number = other then
        system.caches[other]?.map fun cache => cache.withMemory (change cache.memory)
      else system.caches[other]? := by
  unfold onMemory
  split
  next absent =>
    split
    next same => rw [← same, absent]; rfl
    next => rfl
  next cache there =>
    rw [getElem?_setCache system there]
    split
    next same => rw [← same, there]; rfl
    next => rfl

theorem host_onMemory (system : System Row) (number : Nat) (change : Memory Row → Memory Row) :
    (system.onMemory number change).host = system.host := by
  unfold onMemory
  split <;> rfl

theorem serving?_eq_some_iff {state : Hosted Row} :
    system.serving? number = some state ↔
      system.caches[number]? = some (.running state.engine) ∧ state.host = system.host := by
  unfold serving?
  split
  next engine there =>
    rw [there]
    constructor
    · rintro ⟨⟩
      exact ⟨rfl, rfl⟩
    · rintro ⟨same, host⟩
      cases same
      rw [← host]
  next other =>
    constructor
    · rintro ⟨⟩
    · rintro ⟨running, -⟩
      exact absurd running (other state.engine)

theorem closed_of_not_serving (there : system.caches[number]? = some cache)
    (absent : system.serving? number = none) : ∃ memory, cache = .closed memory := by
  cases cache with
  | closed memory => exact ⟨memory, rfl⟩
  | running engine =>
      have running : system.serving? number = some ⟨engine, system.host⟩ :=
        serving?_eq_some_iff.2 ⟨there, rfl⟩
      rw [absent] at running
      cases running

/-! ## Acts that may be refused -/

/-- A request is refused, or an engine that is running answers it. -/
theorem ask_cases (system : System Row) (number : Nat) (request : Request Row) :
    system.step (.ask number request) = .ok system .refused ∧
        (∀ state, system.serving? number = some state →
          ¬request.isAdmitted system.host.keys = true) ∨
      ∃ state, system.serving? number = some state ∧ request.isAdmitted state.host.keys = true ∧
        system.step (.ask number request) = system.restore number (state.perform request) := by
  rw [step]
  split
  next absent =>
    refine .inl ⟨rfl, fun state running => ?_⟩
    rw [absent] at running
    cases running
  next state running =>
    obtain ⟨-, host⟩ := serving?_eq_some_iff.1 running
    split
    next admitted =>
      rw [← host] at admitted
      exact .inr ⟨state, running, admitted, rfl⟩
    next refused => exact .inl ⟨rfl, fun _ _ => refused⟩

/-- Nothing is built, or a new engine comes last. -/
theorem build_cases (system : System Row) (config : Config) :
    (system.step (.build config)).state = system ∨
      config.validate = .ok () ∧
        (system.step (.build config)).state =
          { system with
            host := (Hosted.build config system.host : Hosted Row).host
            caches := system.caches ++ [.running (Hosted.build config system.host).engine] } := by
  rw [step]
  split
  next => exact .inl rfl
  next built created =>
    obtain ⟨valid, rfl⟩ := Hosted.create_eq_ok_iff.1 created
    exact .inr ⟨valid, rfl⟩

/-- An engine that is running is closed, and nothing happens to any other. -/
theorem close_cases (system : System Row) (number : Nat) :
    (system.step (.close number)).state = system ∧ system.serving? number = none ∨
      ∃ state, system.serving? number = some state ∧
        (system.step (.close number)).state =
          { system.setCache number (.closed state.close.1) with host := state.close.2 } := by
  rw [step]
  split
  next absent => exact .inl ⟨rfl, absent⟩
  next state running => exact .inr ⟨state, running, rfl⟩

/-! ## Every act is a turn -/

/-- The outcome of an act for the engine with a number. -/
def TurnsTo (system : System Row) (number : Nat) (cache : Cache Row) (act : Act Row)
    (next : System Row) : Prop :=
  ∃ after, next.caches[number]? = some after ∧
    Turn number system.host cache (system.heldFrom number) act next.host after
      (next.heldFrom number)

/-- An act that changes nothing but keys spares every engine. -/
theorem turnsTo_of_spared {next : System Row} (there : system.caches[number]? = some cache)
    (unreached : ¬act.reaches number system.host.keys cache)
    (caches : next.caches[number]? = system.caches[number]?)
    (held : next.heldFrom number = system.heldFrom number) :
    system.TurnsTo number cache act next := by
  refine ⟨cache, caches.trans there, ?_⟩
  rw [held]
  exact .spared unreached

theorem turnsTo_manage {other : Nat} {move : Cache Row → Reply (Cache Row) Response}
    (there : system.caches[number]? = some cache)
    (unreached : other ≠ number → ¬act.reaches number system.host.keys cache)
    (turn : other = number → Turn number system.host cache (system.heldFrom number) act system.host
      (move cache).state (system.heldFrom number)) :
    system.TurnsTo number cache act (system.manage other move).state := by
  by_cases same : other = number
  · subst same
    unfold manage
    rw [there]
    refine ⟨(move cache).state, ?_, turn rfl⟩
    exact (getElem?_setCache system there _ other).trans (if_pos rfl)
  · unfold manage
    split
    next => exact turnsTo_of_spared there (unreached same) rfl rfl
    next found here =>
      refine turnsTo_of_spared there (unreached same) ?_ rfl
      exact (getElem?_setCache system here _ number).trans (if_neg same)

/-- The system with other holds. -/
def withHolds (system : System Row) (holds : List Hold) : System Row :=
  { system with holds := holds }

theorem turnsTo_withHolds {other : Nat} {change : Memory Row → Memory Row} {holds : List Hold}
    (there : system.caches[number]? = some cache)
    (unreached : ¬act.reaches number system.host.keys cache)
    (apart : other ≠ number → (system.withHolds holds).heldFrom number = system.heldFrom number)
    (turn : other = number → Turn number system.host cache (system.heldFrom number) act system.host
      (cache.withMemory (change cache.memory)) ((system.withHolds holds).heldFrom number)) :
    system.TurnsTo number cache act ((system.onMemory other change).withHolds holds) := by
  have caches := getElem?_onMemory system other number change
  have host := host_onMemory system other change
  by_cases same : other = number
  · rw [if_pos same, there, Option.map_some] at caches
    refine ⟨_, caches, ?_⟩
    show Turn number system.host cache (system.heldFrom number) act
      (system.onMemory other change).host _ ((system.withHolds holds).heldFrom number)
    rw [host]
    exact turn same
  · rw [if_neg same] at caches
    exact turnsTo_of_spared there unreached caches (apart same)

/-- The engine that is asked takes the turn that it answers. -/
theorem turnsTo_restore {state : Hosted Row} {request : Request Row}
    (there : system.caches[number]? = some (.running state.engine))
    (host : state.host = system.host) (admitted : request.isAdmitted state.host.keys = true) :
    system.TurnsTo number (.running state.engine) (.ask number request)
      (system.restore number (state.perform request)).state := by
  refine ⟨.running (state.perform request).state.engine, ?_, ?_⟩
  · exact (getElem?_setCache system there _ number).trans (if_pos rfl)
  · have held := heldFrom_append system (Hosted.given (state.perform request).result) number number
    rw [if_pos rfl] at held
    show Turn number system.host _ _ _ (state.perform request).state.host _
      (System.heldFrom { system with
        holds := (Hosted.given (state.perform request).result).map (Hold.mk number) ++
          system.holds } number)
    rw [held, ← host]
    exact .asked admitted

theorem turnsTo_ask (there : system.caches[number]? = some cache) (other : Nat)
    (request : Request Row) :
    system.TurnsTo number cache (.ask other request) (system.step (.ask other request)).state := by
  rcases ask_cases system other request with ⟨done, refused⟩ | ⟨state, running, admitted, done⟩
  · rw [done]
    refine turnsTo_of_spared there ?_ rfl rfl
    cases cache with
    | closed memory => simp [Act.reaches]
    | running engine =>
        rintro ⟨rfl, admitted⟩
        exact refused ⟨engine, system.host⟩ (serving?_eq_some_iff.2 ⟨there, rfl⟩) admitted
  · rw [done]
    obtain ⟨here, host⟩ := serving?_eq_some_iff.1 running
    by_cases same : other = number
    · subst same
      rw [there] at here
      cases here
      exact turnsTo_restore there host admitted
    · refine turnsTo_of_spared there ?_ ?_ ?_
      · cases cache <;> simp [Act.reaches, same]
      · exact (getElem?_setCache system here _ number).trans (if_neg same)
      · exact (heldFrom_append system _ other number).trans (if_neg same)

theorem turnsTo_close (there : system.caches[number]? = some cache) (other : Nat) :
    system.TurnsTo number cache (.close other) (system.step (.close other)).state := by
  rcases close_cases system other with ⟨done, absent⟩ | ⟨state, running, done⟩
  · rw [done]
    refine turnsTo_of_spared there ?_ rfl rfl
    by_cases same : other = number
    · subst same
      obtain ⟨memory, rfl⟩ := closed_of_not_serving there absent
      simp [Act.reaches]
    · cases cache <;> simp [Act.reaches, same]
  · rw [done]
    obtain ⟨here, host⟩ := serving?_eq_some_iff.1 running
    by_cases same : other = number
    · subst same
      rw [there] at here
      cases here
      refine ⟨.closed state.close.1, ?_, ?_⟩
      · exact (getElem?_setCache system there _ other).trans (if_pos rfl)
      · rw [← host]
        exact .closed
    · refine turnsTo_of_spared there ?_ ?_ rfl
      · cases cache <;> simp [Act.reaches, same]
      · exact (getElem?_setCache system here _ number).trans (if_neg same)

theorem turnsTo_build (there : system.caches[number]? = some cache) (config : Config) :
    system.TurnsTo number cache (.build config) (system.step (.build config)).state := by
  obtain ⟨room, -⟩ := List.getElem?_eq_some_iff.1 there
  rcases build_cases system config with done | ⟨-, done⟩
  · rw [done]
    exact turnsTo_of_spared there (by simp [Act.reaches]) rfl rfl
  · rw [done]
    exact turnsTo_of_spared there (by simp [Act.reaches]) (List.getElem?_append_left room) rfl

theorem turnsTo_shareHold (there : system.caches[number]? = some cache) (hold : Hold) :
    system.TurnsTo number cache (.shareHold hold) (system.step (.shareHold hold)).state := by
  rw [step]
  split
  next known =>
    have held := heldFrom_cons system hold number
    refine turnsTo_withHolds there (by simp [Act.reaches]) (fun apart => ?_) fun same => ?_
    · rwa [if_neg apart] at held
    · rw [if_pos same] at held
      rw [withHolds, held]
      have claimed := mem_heldFrom known
      obtain ⟨engine, table⟩ := hold
      subst same
      exact .shared claimed
  next => exact turnsTo_of_spared there (by simp [Act.reaches]) rfl rfl

theorem turnsTo_dropHold (there : system.caches[number]? = some cache) (hold : Hold) :
    system.TurnsTo number cache (.dropHold hold) (system.step (.dropHold hold)).state := by
  rw [step]
  split
  next known =>
    have held := heldFrom_erase system known number
    refine turnsTo_withHolds there (by simp [Act.reaches]) (fun apart => ?_) fun same => ?_
    · rw [if_neg apart] at held
      exact held.symm
    · rw [if_pos same] at held
      rw [held]
      obtain ⟨engine, table⟩ := hold
      subst same
      exact .dropped
  next => exact turnsTo_of_spared there (by simp [Act.reaches]) rfl rfl

/-- Every act is a turn of every engine that is there. -/
theorem turn_of_step (there : system.caches[number]? = some cache) (act : Act Row) :
    system.TurnsTo number cache act (system.step act).state := by
  cases act with
  | createKey label =>
      exact turnsTo_of_spared there (by simp [Act.reaches]) rfl rfl
  | shareKey keyId =>
      rw [step]
      split <;> exact turnsTo_of_spared there (by simp [Act.reaches]) rfl rfl
  | dropKey keyId =>
      rw [step]
      split <;> exact turnsTo_of_spared there (by simp [Act.reaches]) rfl rfl
  | shareHold hold => exact turnsTo_shareHold there hold
  | dropHold hold => exact turnsTo_dropHold there hold
  | build config => exact turnsTo_build there config
  | ask other request => exact turnsTo_ask there other request
  | reclaim other pressure =>
      refine turnsTo_manage there (fun different => by simp [Act.reaches, different]) fun same => ?_
      subst same
      exact .reclaimed
  | reclaimable other =>
      refine turnsTo_manage there (fun _ => by simp [Act.reaches]) fun same => ?_
      subst same
      exact .pruned (.inl rfl)
  | tracked other =>
      refine turnsTo_manage there (fun _ => by simp [Act.reaches]) fun same => ?_
      subst same
      exact .pruned (.inr rfl)
  | close other => exact turnsTo_close there other

end System

end TableCache
