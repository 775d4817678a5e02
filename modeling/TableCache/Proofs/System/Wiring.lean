import TableCache.Proofs.System.Locks

/-!
# How the engines of a system are wired to its keys

Every engine has an inbox of its own, which has the number of the engine, and no inbox watches a key
twice. An act changes the keys of the host in one of few ways, and which of them it is follows from
the act: `Rekeys`. The end of a key is the act that takes its last owner; the keys that ended since
an engine took its lock last are `deadSince`.

Main statements:

1. `rekeys_step`: what an act does to the keys;
2. `wired_after`: every system that comes of acts is wired;
3. `dead_deadSince`: a key ends once, and has no owner after that.
-/

namespace TableCache

universe u

variable {Row : Type u}

namespace System

/-! ## What an act does to the keys -/

/-- What an act can do to the keys of the host, and how many engines there are after it. -/
inductive Rekeys (system : System Row) : Act Row → Keys → Nat → Prop
  /-- The act is refused, or it is not about keys. -/
  | kept {act : Act Row} : Rekeys system act system.host.keys system.caches.length
  | created {label : String} :
      Rekeys system (.createKey label) (system.host.keys.create label).2 system.caches.length
  | shared {keyId : Nat} :
      Rekeys system (.shareKey keyId) (system.host.keys.share keyId) system.caches.length
  | released {keyId : Nat} : system.host.keys.isOwned keyId = true →
      Rekeys system (.dropKey keyId) (system.host.keys.release keyId) system.caches.length
  /-- A new engine opens an inbox. -/
  | built {config : Config} :
      Rekeys system (.build config) system.host.keys.openInbox.2 (system.caches.length + 1)
  /-- A request is answered. -/
  | asked {number : Nat} {state : Hosted Row} {request : Request Row} :
      system.serving? number = some state → request.isAdmitted state.host.keys = true →
      Rekeys system (.ask number request) (state.perform request).state.host.keys
        system.caches.length
  /-- An engine that is closed closes its inbox. -/
  | closed {number : Nat} {state : Hosted Row} : system.serving? number = some state →
      Rekeys system (.close number) (system.host.keys.closeInbox state.engine.store.inbox)
        system.caches.length

variable {system : System Row} {number : Nat} {act : Act Row} {acts : List (Act Row)}

theorem length_setCache (system : System Row) (number : Nat) (cache : Cache Row) :
    (system.setCache number cache).caches.length = system.caches.length :=
  List.length_set

theorem length_onMemory (system : System Row) (number : Nat) (change : Memory Row → Memory Row) :
    (system.onMemory number change).caches.length = system.caches.length := by
  unfold onMemory
  split
  next => rfl
  next => exact length_setCache _ _ _

theorem length_manage (system : System Row) (number : Nat)
    (move : Cache Row → Reply (Cache Row) Response) :
    (system.manage number move).state.caches.length = system.caches.length := by
  unfold manage
  split
  next => rfl
  next => exact length_setCache _ _ _

theorem rekeys_of_kept {next : System Row} (keys : next.host.keys = system.host.keys)
    (length : next.caches.length = system.caches.length) (act : Act Row) :
    system.Rekeys act next.host.keys next.caches.length := by
  rw [keys, length]
  exact .kept

/-- Every act does one of these things to the keys. -/
theorem rekeys_step (system : System Row) (act : Act Row) :
    system.Rekeys act (system.step act).state.host.keys (system.step act).state.caches.length := by
  cases act with
  | createKey label => exact .created
  | shareKey keyId =>
      rw [step]
      split
      next => exact .shared
      next => exact .kept
  | dropKey keyId =>
      rw [step]
      split
      next owned => exact .released owned
      next => exact .kept
  | shareHold hold | dropHold hold =>
      rw [step]
      split
      next =>
        refine rekeys_of_kept ?_ ?_ _
        · exact congrArg Host.keys (host_onMemory system _ _)
        · exact length_onMemory system _ _
      next => exact .kept
  | build config =>
      rcases build_cases system config with done | ⟨-, done⟩
      · rw [done]
        exact .kept
      · rw [done, List.length_append, List.length_singleton]
        exact .built
  | ask number request =>
      rcases ask_cases system number request with ⟨done, -⟩ | ⟨state, serving, admitted, done⟩
      · rw [done]
        exact .kept
      · rw [done]
        have asked := Rekeys.asked serving admitted
        rw [← length_setCache system number (.running (state.perform request).state.engine)]
          at asked
        exact asked
  | reclaim number pressure | reclaimable number | tracked number =>
      refine rekeys_of_kept ?_ ?_ _
      · exact congrArg Host.keys (host_manage system number _)
      · exact length_manage system number _
  | close number =>
      rcases close_cases system number with ⟨done, -⟩ | ⟨state, serving, done⟩
      · rw [done]
        exact .kept
      · rw [done]
        have closed := Rekeys.closed serving
        rw [← (serving?_eq_some_iff.1 serving).2,
          ← length_setCache system number (.closed state.close.1)] at closed
        exact closed

/-! ## Wired systems -/

/-- There are as many inboxes as engines, every engine has the inbox with its own number, and no
inbox watches a key twice. -/
structure Wired (system : System Row) : Prop where
  next : system.host.keys.inboxes.next = system.caches.length
  inbox : ∀ number (engine : Engine Row), system.caches[number]? = some (.running engine) →
    engine.store.inbox = number
  distinct : system.host.keys.Distinct

/-- A turn leaves the inbox of an engine that goes on as it is. -/
theorem inbox_of_turn {host next : Host} {engine after : Engine Row} {held others : Multiset Nat}
    (turn : Turn number host (.running engine) held act next (.running after) others)
    (sound : engine.Sound held) : after.store.inbox = engine.store.inbox := by
  cases turn with
  | @asked state held request admitted => exact (Hosted.follows_perform sound request).inbox
  | pruned counting => rcases counting with rfl | rfl <;> rfl
  | _ => rfl

theorem distinct_perform {state : Hosted Row} {held : Multiset Nat}
    (sound : state.engine.Sound held) (distinct : state.host.keys.Distinct)
    (request : Request Row) : (state.perform request).state.host.keys.Distinct := by
  have entered : (state.entered request).host.keys.Distinct := by
    unfold Hosted.entered
    split <;> exact distinct
  rw [Hosted.keys_perform sound]
  cases request with
  | put keyId rows => exact entered.watch keyId _
  | _ => exact entered

theorem inboxes_next_perform {state : Hosted Row} {held : Multiset Nat}
    (sound : state.engine.Sound held) (request : Request Row) :
    (state.perform request).state.host.keys.inboxes.next = state.host.keys.inboxes.next := by
  have entered : (state.entered request).host.keys.inboxes.next =
      state.host.keys.inboxes.next := by
    unfold Hosted.entered
    split
    next => rfl
    next => exact Numbered.next_adjust _ _ _
  rw [Hosted.keys_perform sound]
  cases request <;> exact entered

theorem Rekeys.wired {keys : Keys} {length : Nat} (rekeys : system.Rekeys act keys length)
    (wired : system.Wired) (sound : system.Sound) :
    keys.Distinct ∧ keys.inboxes.next = length := by
  cases rekeys with
  | kept => exact ⟨wired.distinct, wired.next⟩
  | created => exact ⟨wired.distinct.create _, wired.next⟩
  | shared => exact ⟨wired.distinct.share _, wired.next⟩
  | released owned => exact ⟨wired.distinct.release _, (Keys.next_release _ _).trans wired.next⟩
  | built => exact ⟨wired.distinct, (Numbered.next_add _ _).trans (congrArg (· + 1) wired.next)⟩
  | @asked number state request serving admitted =>
      obtain ⟨running, host⟩ := serving?_eq_some_iff.1 serving
      have sound := sound.caches number _ running
      refine ⟨distinct_perform sound ?_ request, (inboxes_next_perform sound request).trans ?_⟩
      · rw [host]
        exact wired.distinct
      · rw [host]
        exact wired.next
  | closed serving => exact ⟨wired.distinct, (Numbered.next_erase _ _).trans wired.next⟩

theorem Rekeys.length_le {keys : Keys} {length : Nat} (rekeys : system.Rekeys act keys length) :
    length ≤ system.caches.length + 1 := by
  cases rekeys <;> omega

/-- Every act keeps the wiring. A new engine comes last, and so does its inbox. -/
theorem Wired.step (wired : system.Wired) (sound : system.Sound) (act : Act Row) :
    (system.step act).state.Wired := by
  have rekeys := rekeys_step system act
  obtain ⟨distinct, next⟩ := rekeys.wired wired sound
  refine ⟨next, fun number engine there => ?_, distinct⟩
  rcases running_of_step sound there with
    ⟨earlier, before, turn⟩ | ⟨absent, config, rfl, rfl, -⟩
  · rw [inbox_of_turn turn (sound.caches number _ before)]
    exact wired.inbox number earlier before
  · have last := rekeys.length_le
    have beyond := List.getElem?_eq_none_iff.1 absent
    have room := (List.getElem?_eq_some_iff.1 there).1
    show system.host.keys.inboxes.next = number
    rw [wired.next]
    omega

theorem wired_after (acts : List (Act Row)) : (after acts).Wired := by
  induction acts using List.reverseRecOn with
  | nil =>
      refine ⟨rfl, fun number engine there => ?_, fun keyId identity found => ?_⟩
      · simp [after, finalState, empty] at there
      · simp [after, finalState, empty, Host.empty, Keys.empty] at found
  | append_singleton acts act ih =>
      rw [after_concat]
      exact ih.step (sound_after acts) act

/-! ## Keys that ended -/

/-- The key that an act takes the last owner of, if it does so. -/
def ended (system : System Row) (act : Act Row) : List Nat :=
  match act with
  | .dropKey keyId =>
      if system.host.keys.isOwned keyId && !(system.step act).state.host.keys.isOwned keyId then
        [keyId]
      else []
  | _ => []

/-- The keys that ended since an engine took its lock last, given those that ended before some acts
are taken. -/
def deadFrom (system : System Row) (number : Nat) (dead : List Nat) : List (Act Row) → List Nat
  | [] => dead
  | act :: rest =>
      (system.step act).state.deadFrom number
        (if system.locks number act then [] else dead ++ system.ended act) rest

/-- The keys that ended in a run since an engine took its lock last, or ever if it did not take it,
in the order in which they ended. -/
def deadSince (number : Nat) (acts : List (Act Row)) : List Nat :=
  (empty : System Row).deadFrom number [] acts

theorem deadFrom_append (system : System Row) (number : Nat) (dead : List Nat)
    (first second : List (Act Row)) :
    system.deadFrom number dead (first ++ second) =
      (finalState System.step system first).deadFrom number (system.deadFrom number dead first)
        second := by
  induction first generalizing system dead with
  | nil => rfl
  | cons act rest ih => exact ih _ _

theorem deadSince_concat (number : Nat) (acts : List (Act Row)) (act : Act Row) :
    deadSince number (acts ++ [act]) =
      if (after acts).locks number act then []
      else deadSince number acts ++ (after acts).ended act :=
  deadFrom_append empty number [] acts [act]

theorem ended_eq_nil_or (system : System Row) (act : Act Row) :
    system.ended act = [] ∨ ∃ keyId, system.ended act = [keyId] ∧ act = .dropKey keyId ∧
      system.host.keys.isOwned keyId = true ∧
      (system.step act).state.host.keys.isOwned keyId = false := by
  cases act with
  | dropKey keyId =>
      rw [ended]
      split
      next ends =>
        rw [Bool.and_eq_true, Bool.not_eq_true'] at ends
        exact .inr ⟨keyId, rfl, rfl, ends⟩
      next => exact .inl rfl
  | _ => exact .inl rfl

/-- A key that ended has no owner from then on, so it ends once. -/
theorem dead_deadSince (number : Nat) (acts : List (Act Row)) :
    (deadSince number acts).Nodup ∧ ∀ keyId ∈ deadSince number acts,
      keyId < (after acts).host.keys.owned.next ∧
        (after acts).host.keys.isOwned keyId = false := by
  induction acts using List.reverseRecOn with
  | nil => exact ⟨List.nodup_nil, fun _ member => absurd member List.not_mem_nil⟩
  | append_singleton acts act ih =>
      obtain ⟨distinct, gone⟩ := ih
      have later := keys_later (sound_after acts) act
      rw [deadSince_concat, after_concat]
      split
      next => exact ⟨List.nodup_nil, fun _ member => absurd member List.not_mem_nil⟩
      next =>
        have still : ∀ keyId ∈ deadSince number acts,
            keyId < ((after acts).step act).state.host.keys.owned.next ∧
              ((after acts).step act).state.host.keys.isOwned keyId = false := by
          intro keyId member
          obtain ⟨known, unowned⟩ := gone keyId member
          refine ⟨known.trans_le later.next_le, Bool.eq_false_iff.2 fun owned => ?_⟩
          rw [later.owned keyId known owned] at unowned
          cases unowned
        rcases ended_eq_nil_or (after acts) act with nothing | ⟨keyId, ends, -, owned, lost⟩
        · rw [nothing, List.append_nil]
          exact ⟨distinct, still⟩
        · rw [ends]
          constructor
          · refine distinct.append (List.nodup_singleton _) fun other old new => ?_
            obtain rfl := List.mem_singleton.1 new
            rw [(gone other old).2] at owned
            cases owned
          · intro other member
            rcases List.mem_append.1 member with old | new
            · exact still other old
            · rw [List.mem_singleton.1 new]
              exact ⟨(Keys.lt_next_of_isOwned owned).trans_le later.next_le, lost⟩

end System

end TableCache
