import TableCache.Proofs.Engine.Requests
import TableCache.Session.Basic

/-!
# Systems

A system is some engines on one host, the keys they share, and the tables that are held outside of
them. It takes one act after the other: keys and holds come and go, engines are built, asked and
closed, and reclaim passes go over their memories, also after they were closed. An act that nobody
is in a position to take, such as a request about a key without an owner, is refused and does
nothing.

Main definitions:

1. `Act`, `System.step`: the acts, and what each of them does;
2. `System.after`: the system after some acts, starting from nothing;
3. `System.cleared`, `System.clearedBy`: the tables of an engine that passes clear.
-/

namespace TableCache

universe u v

/-- What can happen in a system. -/
inductive Act (Row : Type u) where
  | createKey (label : String)
  | shareKey (keyId : Nat)
  | dropKey (keyId : Nat)
  | shareHold (hold : Hold)
  | dropHold (hold : Hold)
  | build (config : Config)
  | ask (number : Nat) (request : Request Row)
  | reclaim (number : Nat) (pressure : Pressure)
  | reclaimable (number : Nat)
  | tracked (number : Nat)
  | close (number : Nat)
  deriving DecidableEq, Repr

/-- Engines by number, running or closed, on one host, and what is held of their tables. -/
structure System (Row : Type u) where
  host : Host
  caches : List (Cache Row)
  holds : List Hold
  deriving DecidableEq, Repr

variable {Row : Type u}

/-- A reclaim pass over an engine, or over what is left of one. Without an engine nobody is left to
hear of cleared tables. -/
def Cache.reclaim (cache : Cache Row) (pressure : Pressure) : Reply (Cache Row) Response :=
  match cache with
  | .running engine => ((engine.reclaim pressure).map .report).within .running
  | .closed memory =>
      let pass := memory.reclaim pressure
      .logged (.closed pass.memory) pass.events (.report pass.report)

/-- The tables that a reclaim pass clears. -/
def Cache.cleared (cache : Cache Row) (pressure : Pressure) : List Nat :=
  cache.memory.cleared (cache.memory.reclaim pressure).memory

/-- Whether a request may be made: only an owner of a key can ask about it. -/
def Request.isAdmitted (request : Request Row) (keys : Keys) : Bool :=
  match request.keyId? with
  | none => true
  | some keyId => keys.isOwned keyId

namespace System

/-- No engine, no key and no hold. -/
def empty : System Row := ⟨.empty, [], []⟩

instance : Inhabited (System Row) := ⟨empty⟩

/-- An engine that is running, with its host. -/
def serving? (system : System Row) (number : Nat) : Option (Hosted Row) :=
  match system.caches[number]? with
  | some (.running engine) => some ⟨engine, system.host⟩
  | _ => none

/-- The tables of an engine that are held. -/
def heldFrom (system : System Row) (number : Nat) : Multiset Nat :=
  (system.holds.filter fun hold => hold.engine = number).map Hold.table

/-! ## Acts -/

/-- Replaces the keys of the host. -/
def withKeys (system : System Row) (keys : Keys) : System Row :=
  { system with host := { system.host with keys := keys } }

/-- Replaces an engine. -/
def setCache (system : System Row) (number : Nat) (cache : Cache Row) : System Row :=
  { system with caches := system.caches.set number cache }

/-- Changes the memory of an engine. -/
def onMemory (system : System Row) (number : Nat) (change : Memory Row → Memory Row) :
    System Row :=
  match system.caches[number]? with
  | none => system
  | some cache => system.setCache number (cache.withMemory (change cache.memory))

/-- What the memory manager does with an engine, if there is one. -/
def manage (system : System Row) (number : Nat) (next : Cache Row → Reply (Cache Row) Response) :
    Reply (System Row) Response :=
  match system.caches[number]? with
  | none => .ok system .refused
  | some cache => (next cache).within (system.setCache number)

/-- Puts an engine back that answered. A table that it handed out is held. -/
def restore (system : System Row) (number : Nat) (reply : Reply (Hosted Row) Response) :
    Reply (System Row) Response :=
  reply.within fun state =>
    { host := state.host
      caches := system.caches.set number (.running state.engine)
      holds := (Hosted.given reply.result).map (Hold.mk number) ++ system.holds }

/-- One act. -/
def step (system : System Row) : Act Row → Reply (System Row) Response
  | .createKey label =>
      .ok (system.withKeys (system.host.keys.create label).2)
        (.number (system.host.keys.create label).1)
  | .shareKey keyId =>
      if system.host.keys.isOwned keyId then
        .ok (system.withKeys (system.host.keys.share keyId)) .done
      else .ok system .refused
  | .dropKey keyId =>
      if system.host.keys.isOwned keyId then
        .ok (system.withKeys (system.host.keys.release keyId)) .done
      else .ok system .refused
  | .shareHold hold =>
      if hold ∈ system.holds then
        .ok
          { system.onMemory hold.engine fun memory => memory.share hold.table with
            holds := hold :: system.holds }
          .done
      else .ok system .refused
  | .dropHold hold =>
      if hold ∈ system.holds then
        .ok
          { system.onMemory hold.engine fun memory => memory.release hold.table with
            holds := system.holds.erase hold }
          .done
      else .ok system .refused
  | .build config =>
      match Hosted.create config system.host with
      | .error _ => .ok system .refused
      | .ok built =>
          .ok
            { system with
              host := built.host
              caches := system.caches ++ [.running built.engine] }
            (.number system.caches.length)
  | .ask number request =>
      match system.serving? number with
      | none => .ok system .refused
      | some state =>
          if request.isAdmitted system.host.keys then system.restore number (state.perform request)
          else .ok system .refused
  | .reclaim number pressure => system.manage number fun cache => cache.reclaim pressure
  | .reclaimable number =>
      system.manage number fun cache =>
        .ok (cache.withMemory cache.memory.reclaimable.2) (.number cache.memory.reclaimable.1)
  | .tracked number =>
      system.manage number fun cache =>
        .ok (cache.withMemory cache.memory.tracked.2) (.number cache.memory.tracked.1)
  | .close number =>
      match system.serving? number with
      | none => .ok system .refused
      | some state =>
          .ok { system.setCache number (.closed state.close.1) with host := state.close.2 } .done

/-- The system after some acts. -/
def after (acts : List (Act Row)) : System Row := finalState step empty acts

/-! ## What is seen of a system -/

/-- The rows of a held table. -/
def rowsOf (system : System Row) (hold : Hold) : List Row :=
  match system.caches[hold.engine]? with
  | none => []
  | some cache => cache.memory.rows hold.table

/-- The tables of an engine that an act clears. -/
def cleared (system : System Row) (number : Nat) : Act Row → List Nat
  | .reclaim other pressure =>
      if other = number then
        match system.caches[number]? with
        | none => []
        | some cache => cache.cleared pressure
      else []
  | _ => []

/-- The tables of an engine that passes clear while some acts are taken, in order. -/
def clearedBy (system : System Row) (number : Nat) : List (Act Row) → List Nat
  | [] => []
  | act :: rest => system.cleared number act ++ (system.step act).state.clearedBy number rest

end System

end TableCache
