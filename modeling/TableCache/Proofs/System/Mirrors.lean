import Mathlib.Data.Multiset.AddSub
import TableCache.Proofs.System.Sound

/-!
# Systems that mirror sessions

A session keeps owners and holds by name, and works on one engine at a time. Without the names it is
a system. The moves that the steps of a session are made of are acts of that system: a key that is
cloned is shared, a name that is given anew drops what it stood for, and a table that is found is
held or dropped at once.

Main definitions:

1. `System.Mirrors`: a system is what a session is without the names;
2. `System.ComesTo`: it comes to be that by some acts.
-/

namespace TableCache

universe u v

variable {Row : Type u}

/-! ## What stands under names -/

namespace Assoc

variable {κ : Type u} {α : Type v} [DecidableEq κ]

/-- The values of a map as a bag. -/
def bag (map : Assoc κ α) : Multiset α := map.values

/-- One key more is one value more. -/
theorem bag_eq_cons {map other : Assoc κ α} {key : κ} {value : α}
    (absent : other.find? key = none)
    (same : ∀ name, map.find? name = if name = key then some value else other.find? name) :
    map.bag = value ::ₘ other.bag := by
  have fresh : (key, value) ∉ other.pairs := by
    rw [mem_pairs_iff, absent]
    simp
  have distinct : ((key, value) :: other.pairs).Nodup :=
    List.nodup_cons.2 ⟨fresh, other.nodup.of_map⟩
  have perm : map.pairs.Perm ((key, value) :: other.pairs) := by
    refine (List.perm_ext_iff_of_nodup map.nodup.of_map distinct).2 fun pair => ?_
    obtain ⟨name, found⟩ := pair
    rw [List.mem_cons, mem_pairs_iff, mem_pairs_iff, same, Prod.mk.injEq]
    split
    next here =>
      subst here
      simp [absent, eq_comm]
    next other => simp [other]
  rw [bag, values, Multiset.coe_eq_coe.2 (perm.map Prod.snd), List.map_cons, ← Multiset.cons_coe]
  rfl

theorem bag_erase {map : Assoc κ α} {key : κ} {value : α} (known : map.find? key = some value) :
    map.bag = value ::ₘ (map.erase key).bag := by
  refine bag_eq_cons (find?_erase_self map key) fun name => ?_
  rw [find?_erase]
  split
  next same => rw [same, known]
  next => rfl

theorem bag_insert_of_absent {map : Assoc κ α} {key : κ} (absent : map.find? key = none)
    (value : α) : (map.insert key value).bag = value ::ₘ map.bag :=
  bag_eq_cons absent fun name => find?_insert map key name value

/-- A value that is replaced goes, and the new one comes. -/
theorem bag_insert_of_known {map : Assoc κ α} {key : κ} {old : α}
    (known : map.find? key = some old) (value : α) :
    old ::ₘ (map.insert key value).bag = value ::ₘ map.bag := by
  have inserted : (map.insert key value).bag = value ::ₘ (map.erase key).bag := by
    refine bag_eq_cons (find?_erase_self map key) fun name => ?_
    rw [find?_insert, find?_erase]
    split <;> rfl
  rw [inserted, Multiset.cons_swap, ← bag_erase known]

theorem mem_bag {map : Assoc κ α} {key : κ} {value : α} (known : map.find? key = some value) :
    value ∈ map.bag := by
  rw [bag_erase known]
  exact Multiset.mem_cons_self _ _

end Assoc

/-! ## How many owners keys have -/

namespace Keys

theorem owners?_release (keys : Keys) (id other : Nat) :
    ((keys.release id).owners? other).getD 0 =
      (keys.owners? other).getD 0 - if other = id then 1 else 0 := by
  unfold release owners?
  split
  next unknown =>
    split
    next same =>
      subst same
      simp [unknown]
    next => rfl
  next identity known =>
    split
    next few =>
      simp only [Numbered.find?_erase]
      split
      next same =>
        subst same
        simp only [known, Option.map_none, Option.map_some, Option.getD_none, Option.getD_some]
        omega
      next => rfl
    next many =>
      simp only [Numbered.find?_adjust]
      split
      next same =>
        subst same
        simp [known]
      next => rfl

end Keys

/-! ## Systems that mirror sessions -/

namespace Session

/-- The keys that names own. -/
def ownedKeys (session : Session Row) : Multiset Nat := session.owners.bag.map Owner.keyId

/-- A request is about a key that a name owns, or about no key. -/
def Admits (session : Session Row) (request : Request Row) : Prop :=
  ∀ keyId, request.keyId? = some keyId → keyId ∈ session.ownedKeys

/-- Holds on tables of the current engine. -/
def holdsOn (session : Session Row) (tables : List Nat) : Multiset Hold :=
  (tables.map (Hold.mk session.current) : List Hold)

variable {session : Session Row}

theorem mem_ownedKeys {name : String} {owner : Owner}
    (known : session.owners.find? name = some owner) : owner.keyId ∈ session.ownedKeys :=
  Multiset.mem_map_of_mem Owner.keyId (Assoc.mem_bag known)

theorem admits_of_known {name : String} {owner : Owner}
    (known : session.owners.find? name = some owner) (request : Request Row)
    (about : request.keyId? = some owner.keyId) : session.Admits request := by
  intro keyId same
  rw [about] at same
  cases same
  exact mem_ownedKeys known

theorem admits_of_keyless (session : Session Row) (request : Request Row)
    (about : request.keyId? = none) : session.Admits request := by
  intro keyId same
  rw [about] at same
  cases same

theorem holdsOn_nil (session : Session Row) (holds : Multiset Hold) :
    session.holdsOn [] + holds = holds :=
  Multiset.zero_add holds

theorem holdsOn_singleton (session : Session Row) (table : Nat) (holds : Multiset Hold) :
    session.holdsOn [table] + holds = ⟨session.current, table⟩ ::ₘ holds :=
  Multiset.singleton_add _ _

/-- The current engine, before it is asked anything. -/
theorem restore_self {engine : Engine Row}
    (running : session.caches[session.current]? = some (.running engine)) :
    session.restore ⟨engine, session.host⟩ = session := by
  obtain ⟨room, found⟩ := List.getElem?_eq_some_iff.1 running
  unfold restore setCache
  rw [← found, List.set_getElem_self]

end Session

namespace System

/-- A system is what a session is without the names. Some owners of keys and some holds may have no
name, because they are about to get one or just lost it. -/
structure Mirrors (system : System Row) (session : Session Row) (keys : Multiset Nat)
    (holds : Multiset Hold) : Prop where
  host : system.host = session.host
  caches : system.caches = session.caches
  owners : ∀ keyId,
    (session.ownedKeys + keys).count keyId = (session.host.keys.owners? keyId).getD 0
  holds : (system.holds : Multiset Hold) = session.holds.bag + holds
  sound : system.Sound

/-- A system comes to mirror a session by some acts. -/
def ComesTo (system : System Row) (session : Session Row) (keys : Multiset Nat)
    (holds : Multiset Hold) : Prop :=
  ∃ acts, (finalState System.step system acts).Mirrors session keys holds

variable {system : System Row} {session next : Session Row} {keys more : Multiset Nat}
  {holds others : Multiset Hold}

theorem Mirrors.comesTo (mirrors : system.Mirrors session keys holds) :
    system.ComesTo session keys holds :=
  ⟨[], mirrors⟩

theorem comesTo_of_act (act : Act Row)
    (mirrors : (system.step act).state.Mirrors session keys holds) :
    system.ComesTo session keys holds :=
  ⟨[act], mirrors⟩

theorem ComesTo.trans (first : system.ComesTo session keys holds)
    (second : ∀ between : System Row, between.Mirrors session keys holds →
      between.ComesTo next more others) :
    system.ComesTo next more others := by
  obtain ⟨acts, mirrors⟩ := first
  obtain ⟨rest, later⟩ := second _ mirrors
  refine ⟨acts ++ rest, ?_⟩
  rw [finalState_append]
  exact later

/-- A key that a name owns, or that is owned without one, has an owner. -/
theorem Mirrors.isOwned (mirrors : system.Mirrors session keys holds) {keyId : Nat}
    (member : keyId ∈ session.ownedKeys + keys) : session.host.keys.isOwned keyId = true := by
  have counted := mirrors.owners keyId
  have positive := Multiset.count_pos.2 member
  rw [Keys.isOwned_eq]
  cases owners : session.host.keys.owners? keyId with
  | some owners => rfl
  | none =>
      rw [owners, Option.getD_none] at counted
      omega

/-! ## Keys -/

/-- Other keys of the host, with as many owners as there are names and nameless owners. -/
theorem Mirrors.withKeys {others : Keys} (mirrors : system.Mirrors session keys holds)
    (sound : (system.withKeys others).Sound)
    (owners : ∀ keyId, (session.ownedKeys + more).count keyId = (others.owners? keyId).getD 0) :
    (system.withKeys others).Mirrors (session.withKeys others) more holds where
  host := by
    rw [System.withKeys, Session.withKeys, mirrors.host]
  caches := mirrors.caches
  owners := owners
  holds := mirrors.holds
  sound := sound

theorem Mirrors.createKey (mirrors : system.Mirrors session keys holds) (label : String) :
    system.ComesTo (session.withKeys (session.host.keys.create label).2)
      (session.host.keys.owned.next ::ₘ keys) holds := by
  refine comesTo_of_act (.createKey label) ?_
  have sound := mirrors.sound.step (.createKey label)
  rw [step, mirrors.host] at sound ⊢
  refine mirrors.withKeys sound fun keyId => ?_
  have counted := mirrors.owners keyId
  rw [Multiset.add_cons, Multiset.count_cons, counted, Keys.owners?_create]
  split
  next same =>
    have unknown : session.host.keys.owned.find? keyId = none := by
      rw [same]
      exact Numbered.find?_eq_none_of_next_le (Nat.le_refl _)
    rw [Keys.owners?, unknown]
    rfl
  next => rfl

theorem Mirrors.shareKey (mirrors : system.Mirrors session keys holds) {keyId : Nat}
    (owned : keyId ∈ session.ownedKeys) :
    system.ComesTo (session.withKeys (session.host.keys.share keyId)) (keyId ::ₘ keys) holds := by
  have admitted := mirrors.isOwned (Multiset.mem_add.2 (.inl owned))
  refine comesTo_of_act (.shareKey keyId) ?_
  have sound := mirrors.sound.step (.shareKey keyId)
  rw [step, mirrors.host, if_pos admitted] at sound ⊢
  refine mirrors.withKeys sound fun other => ?_
  have counted := mirrors.owners other
  rw [Multiset.add_cons, Multiset.count_cons, counted, Keys.owners?_share]
  split
  next same =>
    subst same
    rw [Keys.isOwned_eq] at admitted
    obtain ⟨owners, known⟩ := Option.isSome_iff_exists.1 admitted
    rw [known]
    rfl
  next => rfl

theorem Mirrors.dropKey {keyId : Nat} (mirrors : system.Mirrors session (keyId ::ₘ keys) holds) :
    system.ComesTo (session.withKeys (session.host.keys.release keyId)) keys holds := by
  have admitted := mirrors.isOwned (Multiset.mem_add.2 (.inr (Multiset.mem_cons_self keyId keys)))
  refine comesTo_of_act (.dropKey keyId) ?_
  have sound := mirrors.sound.step (.dropKey keyId)
  rw [step, mirrors.host, if_pos admitted] at sound ⊢
  refine mirrors.withKeys sound fun other => ?_
  have counted := mirrors.owners other
  rw [Multiset.add_cons, Multiset.count_cons] at counted
  rw [Keys.owners?_release, ← counted]
  omega

/-- An owner gets a name, and the owner that had it before gives its key up. -/
theorem Mirrors.nameOwner (owner : Owner)
    (mirrors : system.Mirrors session (owner.keyId ::ₘ keys) holds) (name : String) :
    system.ComesTo (session.nameOwner name owner) keys holds := by
  have counted := mirrors.owners
  unfold Session.nameOwner
  cases known : session.owners.find? name with
  | none =>
      refine Mirrors.comesTo ⟨mirrors.host, mirrors.caches, fun keyId => ?_, mirrors.holds,
        mirrors.sound⟩
      rw [← counted keyId, Session.ownedKeys, Session.ownedKeys, Assoc.bag_insert_of_absent known,
        Multiset.map_cons, Multiset.cons_add, Multiset.add_cons]
  | some replaced =>
      refine Mirrors.dropKey ⟨mirrors.host, mirrors.caches, fun keyId => ?_, mirrors.holds,
        mirrors.sound⟩
      have swapped := congrArg (Multiset.map Owner.keyId) (Assoc.bag_insert_of_known known owner)
      rw [Multiset.map_cons, Multiset.map_cons] at swapped
      rw [← counted keyId, Multiset.add_cons, ← Multiset.cons_add, Session.ownedKeys, swapped,
        Multiset.cons_add, Multiset.add_cons]
      rfl

/-- An owner loses its name. -/
theorem Mirrors.unnameOwner (mirrors : system.Mirrors session keys holds) {name : String}
    {owner : Owner} (known : session.owners.find? name = some owner) :
    system.Mirrors { session with owners := session.owners.erase name } (owner.keyId ::ₘ keys)
      holds where
  host := mirrors.host
  caches := mirrors.caches
  owners := fun keyId => by
    rw [← mirrors.owners keyId, Session.ownedKeys, Session.ownedKeys, Assoc.bag_erase known,
      Multiset.map_cons, Multiset.cons_add, Multiset.add_cons]
  holds := mirrors.holds
  sound := mirrors.sound

/-! ## Holds -/

/-- Sessions and systems change the memory of an engine alike. -/
theorem Mirrors.onMemory (mirrors : system.Mirrors session keys holds) (number : Nat)
    (change : Memory Row → Memory Row) :
    (system.onMemory number change).caches = (session.onMemory number change).caches := by
  unfold System.onMemory Session.onMemory
  rw [mirrors.caches]
  cases session.caches[number]? with
  | none => exact mirrors.caches
  | some cache =>
      show system.caches.set _ _ = session.caches.set _ _
      rw [mirrors.caches]

/-- A change of a memory, with as many holds as there are names and nameless holds. -/
theorem Mirrors.withHolds (mirrors : system.Mirrors session keys holds) {number : Nat}
    {change : Memory Row → Memory Row} {held : List Hold}
    (sound : ((system.onMemory number change).withHolds held).Sound)
    (balance : (held : Multiset Hold) = session.holds.bag + others) :
    ((system.onMemory number change).withHolds held).Mirrors (session.onMemory number change) keys
      others := by
  have caches := mirrors.onMemory number change
  have host : (system.onMemory number change).host = session.host :=
    (host_onMemory system number change).trans mirrors.host
  unfold Session.onMemory at caches ⊢
  cases there : session.caches[number]? with
  | none =>
      rw [there] at caches
      exact ⟨host, caches, mirrors.owners, balance, sound⟩
  | some cache =>
      rw [there] at caches
      exact ⟨host, caches, mirrors.owners, balance, sound⟩

theorem Mirrors.shareHold (mirrors : system.Mirrors session keys holds) {hold : Hold}
    (held : hold ∈ session.holds.bag) :
    system.ComesTo (session.onMemory hold.engine fun memory => memory.share hold.table) keys
      (hold ::ₘ holds) := by
  have known : hold ∈ system.holds := by
    rw [← Multiset.mem_coe, mirrors.holds]
    exact Multiset.mem_add.2 (.inl held)
  refine comesTo_of_act (.shareHold hold) ?_
  have sound := mirrors.sound.step (.shareHold hold)
  rw [step, if_pos known] at sound ⊢
  refine mirrors.withHolds sound ?_
  rw [← Multiset.cons_coe, mirrors.holds, Multiset.add_cons]

theorem Mirrors.dropHold {hold : Hold} (mirrors : system.Mirrors session keys (hold ::ₘ holds)) :
    system.ComesTo (session.releaseHold hold) keys holds := by
  have known : hold ∈ system.holds := by
    rw [← Multiset.mem_coe, mirrors.holds]
    exact Multiset.mem_add.2 (.inr (Multiset.mem_cons_self hold holds))
  refine comesTo_of_act (.dropHold hold) ?_
  have sound := mirrors.sound.step (.dropHold hold)
  rw [step, if_pos known] at sound ⊢
  refine mirrors.withHolds sound ?_
  rw [← Multiset.coe_erase, mirrors.holds, Multiset.add_cons, Multiset.erase_cons_head]

/-- A hold gets a name, and the hold that had it before is given up. -/
theorem Mirrors.nameHold {hold : Hold} (mirrors : system.Mirrors session keys (hold ::ₘ holds))
    (name : String) : system.ComesTo (session.nameHold name hold) keys holds := by
  have balance := mirrors.holds
  unfold Session.nameHold
  cases known : session.holds.find? name with
  | none =>
      refine Mirrors.comesTo ⟨mirrors.host, mirrors.caches, mirrors.owners, ?_, mirrors.sound⟩
      rw [balance, Assoc.bag_insert_of_absent known, Multiset.cons_add, Multiset.add_cons]
  | some replaced =>
      refine Mirrors.dropHold ⟨mirrors.host, mirrors.caches, mirrors.owners, ?_, mirrors.sound⟩
      rw [balance, Multiset.add_cons, Multiset.add_cons, ← Multiset.cons_add,
        ← Multiset.cons_add, Assoc.bag_insert_of_known known]

/-- A hold loses its name. -/
theorem Mirrors.unnameHold (mirrors : system.Mirrors session keys holds) {name : String}
    {hold : Hold} (known : session.holds.find? name = some hold) :
    system.Mirrors { session with holds := session.holds.erase name } keys (hold ::ₘ holds) where
  host := mirrors.host
  caches := mirrors.caches
  owners := mirrors.owners
  holds := by rw [mirrors.holds, Assoc.bag_erase known, Multiset.cons_add, Multiset.add_cons]
  sound := mirrors.sound

/-- A table that was handed out is kept under a name, or given back. -/
theorem Mirrors.settle {table : Nat}
    (mirrors : system.Mirrors session keys (⟨session.current, table⟩ ::ₘ holds))
    (name : Option String) : system.ComesTo (session.settle table name) keys holds := by
  cases name with
  | none => exact mirrors.dropHold
  | some name => exact mirrors.nameHold name

/-! ## The current engine -/

/-- The memory manager visits an engine. -/
theorem Mirrors.manage (mirrors : system.Mirrors session keys holds) {number : Nat}
    {cache : Cache Row} (there : session.caches[number]? = some cache) (act : Act Row)
    {move : Cache Row → Reply (Cache Row) Response}
    (visit : system.step act = system.manage number move) :
    system.ComesTo (session.setCache number (move cache).state) keys holds := by
  refine comesTo_of_act act ?_
  have sound := mirrors.sound.step act
  rw [visit] at sound ⊢
  unfold System.manage at sound ⊢
  rw [mirrors.caches, there] at sound ⊢
  refine ⟨mirrors.host, ?_, mirrors.owners, mirrors.holds, sound⟩
  show system.caches.set _ _ = session.caches.set _ _
  rw [mirrors.caches]

/-- The engine that a session was put back with answers a request about keys that names own. What it
hands out is held without a name. -/
theorem ComesTo.ask {state : Hosted Row}
    (came : system.ComesTo (session.restore state) keys holds)
    (room : session.current < session.caches.length) (request : Request Row)
    (admitted : session.Admits request) :
    system.ComesTo (session.restore (state.perform request).state) keys
      (session.holdsOn (Hosted.given (state.perform request).result) + holds) := by
  refine came.trans fun between mirrors => comesTo_of_act (.ask session.current request) ?_
  have there : between.caches[session.current]? = some (.running state.engine) := by
    rw [mirrors.caches]
    exact List.getElem?_set_self room
  have serving : between.serving? session.current = some state :=
    serving?_eq_some_iff.2 ⟨there, mirrors.host.symm⟩
  have allowed : request.isAdmitted between.host.keys = true := by
    unfold Request.isAdmitted
    split
    next => rfl
    next keyId about =>
      rw [mirrors.host]
      exact mirrors.isOwned (Multiset.mem_add.2 (.inl (admitted keyId about)))
  have follows := Hosted.follows_perform (mirrors.sound.caches _ _ there) request
  have sound := mirrors.sound.step (.ask session.current request)
  rw [step, serving] at sound ⊢
  simp only [if_pos allowed] at sound ⊢
  refine ⟨rfl, ?_, fun keyId => ?_, ?_, sound⟩
  · show between.caches.set _ _ = session.caches.set _ _
    rw [mirrors.caches]
    exact List.set_set _
  · show _ = ((state.perform request).state.host.keys.owners? keyId).getD 0
    rw [follows.owners]
    exact mirrors.owners keyId
  · show (((Hosted.given (state.perform request).result).map (Hold.mk session.current) ++
      between.holds : List Hold) : Multiset Hold) = session.holds.bag + _
    have balance : (between.holds : Multiset Hold) = session.holds.bag + holds := mirrors.holds
    rw [← Multiset.coe_add, balance, Session.holdsOn, ← Multiset.add_assoc,
      ← Multiset.add_assoc, Multiset.add_comm session.holds.bag]

/-- The current engine is closed, if it is running. -/
theorem Mirrors.dropEngine (mirrors : system.Mirrors session keys holds) :
    system.ComesTo session.dropEngine.1 keys holds := by
  unfold Session.dropEngine
  split
  next engine running =>
    refine comesTo_of_act (.close session.current) ?_
    have serving : system.serving? session.current = some ⟨engine, session.host⟩ :=
      serving?_eq_some_iff.2 ⟨mirrors.caches ▸ running, mirrors.host.symm⟩
    have sound := mirrors.sound.step (.close session.current)
    rw [step, serving] at sound ⊢
    refine ⟨rfl, ?_, mirrors.owners, mirrors.holds, sound⟩
    show system.caches.set _ _ = session.caches.set _ _
    rw [mirrors.caches]
  next => exact mirrors.comesTo

end System

end TableCache
