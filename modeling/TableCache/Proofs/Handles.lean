import TableCache.History.Store
import TableCache.Proofs.Store.Tiers
import TableCache.Proofs.System.Mirrors

/-!
# Handles of entries, whoever asks

An engine keeps the recent handles of its store in bounds and asks for things in a certain order.
The store does not rely on that. Here anybody asks it for anything: recent handles are attached to
entries of reclaimed tables, dropped twice, or asked for under keys without an entry, and tables are
put over entries in every tier; in between keys and tables change hands, and passes run. What the
handles of an entry say about its cell stays true all the while.

Main definitions:

1. `Errand`, `Depot.act`: what can be asked of a store without an engine;
2. `Entry.Upheld`: what the handles of an entry say about its cell;
3. `Store.Agrees`: the ways to ask for a table tell the same;
4. `Depot.Fares`: what an errand does to the presence of a table.

Main statements:

1. `Depot.Sound.run`: the counts stay right, whatever is asked;
2. `Depot.Sound.fares`: everything an errand can do to the presence of a table;
3. `Depot.comesTo_finalState`: a history of a store is some errands;
4. `handles_upheld`: what follows for every entry.
-/

namespace TableCache

universe u

variable {Row : Type u}

/-! ## Errands -/

/-- What can be asked of a store, and happen around it. Its numbers are any: the key need not have
an entry or an owner, and the table need not be held. -/
inductive Errand (Row : Type u) where
  | createKey (label : String)
  | shareKey (keyId : Nat)
  | dropKey (keyId : Nat)
  /-- A table is cached, and who cached it holds it. -/
  | put (keyId : Nat) (rows : List Row)
  | clearForReclaim (keyId : Nat)
  | invalidate (keyId : Nat)
  | attachRecent (keyId : Nat)
  | dropRecent (keyId : Nat)
  | expunge
  /-- The table of a key is taken through the weak handle, and held. -/
  | read (keyId : Nat)
  | shareTable (table : Nat)
  | dropTable (table : Nat)
  /-- The registered cells are counted. -/
  | survey
  | reclaim (pressure : Pressure)
  deriving DecidableEq, Repr

/-- A store without an engine, its host, and the tables that are held outside of it. -/
structure Depot (Row : Type u) where
  store : Store Row
  host : Host
  held : Multiset Nat

namespace Depot

/-- A new store on a host. -/
def create (host : Host) : Depot Row :=
  let (store, host) := Store.create host
  ⟨store, host, 0⟩

/-- Replaces the store. -/
def withStore (depot : Depot Row) (store : Store Row) : Depot Row := { depot with store := store }

/-- Replaces the keys of the host. -/
def withKeys (depot : Depot Row) (keys : Keys) : Depot Row :=
  { depot with host := { depot.host with keys := keys } }

/-- Changes the memory of the store. -/
def onMemory (depot : Depot Row) (change : Memory Row → Memory Row) : Depot Row :=
  depot.withStore { depot.store with memory := change depot.store.memory }

/-- What comes of an errand. A table that nobody holds cannot be shared or given up. -/
def act (depot : Depot Row) : Errand Row → Depot Row
  | .createKey label => depot.withKeys (depot.host.keys.create label).2
  | .shareKey keyId => depot.withKeys (depot.host.keys.share keyId)
  | .dropKey keyId => depot.withKeys (depot.host.keys.release keyId)
  | .put keyId rows =>
      let (table, store, host) := depot.store.put depot.host keyId rows
      ⟨store, host, table ::ₘ depot.held⟩
  | .clearForReclaim keyId => depot.withStore (depot.store.clearForReclaim keyId).2
  | .invalidate keyId => depot.withStore (depot.store.invalidate keyId).2
  | .attachRecent keyId =>
      let (store, host) := depot.store.attachRecent depot.host keyId
      { depot with store := store, host := host }
  | .dropRecent keyId => depot.withStore (depot.store.dropRecent keyId).2
  | .expunge =>
      let (_, store, host) := depot.store.expunge depot.host
      { depot with store := store, host := host }
  | .read keyId =>
      let (table, store) := depot.store.read keyId
      { depot with store := store, held := table.toList + depot.held }
  | .shareTable table =>
      if table ∈ depot.held then
        { depot.onMemory fun memory => memory.share table with held := table ::ₘ depot.held }
      else depot
  | .dropTable table =>
      if table ∈ depot.held then
        { depot.onMemory fun memory => memory.release table with held := depot.held.erase table }
      else depot
  | .survey => depot.onMemory fun memory => memory.live.2
  | .reclaim pressure => depot.withStore (depot.store.reclaimed pressure)

/-- What comes of some errands, one after the other. -/
def run (depot : Depot Row) (errands : List (Errand Row)) : Depot Row := errands.foldl act depot

/-! ## Counts -/

/-- The memory of the store counts the handles of its entries and the tables that are held. -/
def Sound (depot : Depot Row) : Prop := depot.store.Sound depot.held

variable {depot : Depot Row} {keyId : Nat}

theorem sound_create (host : Host) : (create host : Depot Row).Sound := Memory.backs_empty

theorem Sound.shareTable (sound : depot.Sound) (table : Nat) :
    (depot.act (.shareTable table)).Sound := by
  rw [act]
  split
  next holds =>
    exact Memory.Backs.share sound
      (Multiset.mem_add.2 (.inr (Multiset.mem_add.2 (.inr holds))))
  next => exact sound

theorem Sound.dropTable (sound : depot.Sound) (table : Nat) :
    (depot.act (.dropTable table)).Sound := by
  rw [act]
  split
  next holds =>
    rw [Sound, ← Multiset.cons_erase holds] at sound
    exact Memory.Backs.release sound
  next => exact sound

/-- No errand makes a count wrong. -/
theorem Sound.act (sound : depot.Sound) (errand : Errand Row) : (depot.act errand).Sound := by
  cases errand with
  | createKey | shareKey | dropKey => exact sound
  | put keyId rows => exact Store.Sound.put sound depot.host keyId rows
  | clearForReclaim keyId => exact Store.Sound.clearForReclaim sound keyId
  | invalidate keyId => exact Store.Sound.invalidate sound keyId
  | attachRecent keyId => exact Store.Sound.attachRecent sound depot.host keyId
  | dropRecent keyId => exact Store.Sound.dropRecent sound keyId
  | expunge => exact Store.Sound.removeOrphans sound _ _
  | read keyId => exact Store.Sound.read sound keyId
  | shareTable table => exact sound.shareTable table
  | dropTable table => exact sound.dropTable table
  | survey => exact Memory.Backs.live sound
  | reclaim pressure => exact Store.Sound.reclaimed sound pressure

theorem Sound.run (sound : depot.Sound) (errands : List (Errand Row)) :
    (depot.run errands).Sound := by
  induction errands generalizing depot with
  | nil => exact sound
  | cons first rest ih => exact ih (sound.act first)

end Depot

/-! ## What handles say -/

/-- The handles of an entry belong together, and its cell, which is there, counts its recent handle:
that one or none. -/
structure Entry.Upheld (entry : Entry) (memory : Memory Row) (keyId : Nat) : Prop extends
    entry.Linked memory keyId where
  present : memory.isPresent entry.cell = true
  recentHolds : memory.recentHolds entry.cell = if entry.recent.isSome then 1 else 0
  recentAlive : entry.recentAlive memory = (entry.recent.isSome && memory.isAlive entry.cell)

/-- The ways to ask for the table of a key tell the same. -/
structure Store.Agrees (store : Store Row) (keyId : Nat) : Prop where
  tier : store.tier keyId = .absent ↔ store.contains keyId = false
  read : (store.read keyId).1.isSome = store.contains keyId

namespace Store

variable {store : Store Row} {held : Multiset Nat} {keyId : Nat} {entry : Entry}

theorem Sound.upheld (sound : store.Sound held) (found : store.entryOf? keyId = some entry) :
    entry.Upheld store.memory keyId where
  toLinked := sound.linked found
  present := by
    obtain ⟨cell, there⟩ := Memory.Backs.find?_cell sound (mem_pairs found)
    rw [Memory.isPresent, Numbered.contains, there]
    rfl
  recentHolds := Memory.Backs.recentHolds_eq sound (mem_pairs found)
  recentAlive := by
    rw [Entry.recentAlive]
    cases recent : entry.recent with
    | none => rfl
    | some cell => rw [(sound.linked found).recent cell recent, Option.isSome_some, Bool.true_and]

theorem agrees (store : Store Row) (keyId : Nat) : store.Agrees keyId where
  tier := by
    rw [tier_eq_absent_iff, contains_eq, Option.isSome_eq_false_iff, Option.isNone_iff_eq_none]
  read := by
    rw [read_eq, contains_eq, Option.isSome_map]

end Store

namespace Depot

variable {depot : Depot Row} {keyId : Nat}

/-! ## Presence -/

/-- What an errand does to the presence of the table of a key. -/
inductive Fares (depot : Depot Row) (keyId : Nat) : Errand Row → Prop
  /-- It does not matter to it. -/
  | stays {errand : Errand Row} :
      (depot.act errand).store.contains keyId = depot.store.contains keyId →
      Fares depot keyId errand
  /-- A table is put. -/
  | put (rows : List Row) : (depot.act (.put keyId rows)).store.contains keyId = true →
      Fares depot keyId (.put keyId rows)
  /-- The entry is removed on demand. -/
  | invalidated : (depot.act (.invalidate keyId)).store.entryOf? keyId = none →
      Fares depot keyId (.invalidate keyId)
  /-- The entry is removed because its key has no owner. -/
  | expunged : depot.host.keys.isOwned keyId = false →
      (depot.act .expunge).store.entryOf? keyId = none → Fares depot keyId .expunge
  /-- A pass leaves the entry, and perhaps clears its cell. -/
  | passed (pressure : Pressure) :
      (depot.act (.reclaim pressure)).store.entryOf? keyId = depot.store.entryOf? keyId →
      Fares depot keyId (.reclaim pressure)

/-- Where a key shows what it showed before, a table is present if one was. -/
theorem Fares.of_shown? {errand : Errand Row}
    (same : (depot.act errand).store.shown? keyId = depot.store.shown? keyId) :
    depot.Fares keyId errand := by
  refine .stays ?_
  rw [Store.contains_eq, Store.contains_eq, same]

/-- Everything an errand can do to the presence of a table. -/
theorem Sound.fares (sound : depot.Sound) (errand : Errand Row) (keyId : Nat) :
    depot.Fares keyId errand := by
  cases errand with
  | createKey | shareKey | dropKey => exact .stays rfl
  | put other rows =>
      have shows := Store.Sound.shown?_put sound depot.host other keyId rows
      split at shows
      next same =>
        subst same
        refine .put rows ?_
        rw [Store.contains_eq]
        exact congrArg Option.isSome shows
      next => exact .of_shown? shows
  | clearForReclaim other =>
      refine .stays ?_
      have shows : (depot.act (.clearForReclaim other)).store.shown? keyId = _ :=
        depot.store.shown?_clearForReclaim other keyId
      rw [Store.contains_eq, Store.contains_eq, shows]
      split
      next same => rw [same, Option.isSome_map]
      next => rfl
  | invalidate other =>
      have gone := depot.store.entryOf?_invalidate other keyId
      have shows := Store.Sound.shown?_invalidate sound other keyId
      split at gone
      next same =>
        subst same
        exact .invalidated gone
      next different =>
        rw [if_neg different] at shows
        exact .of_shown? shows
  | attachRecent other => exact .of_shown? (depot.store.shown?_attachRecent depot.host other keyId)
  | dropRecent other => exact .of_shown? (Store.Sound.shown?_dropRecent sound other keyId)
  | expunge =>
      let posted := (depot.host.keys.collect depot.store.inbox).1
      let keys := (depot.host.keys.collect depot.store.inbox).2
      have shows : (depot.act .expunge).store.shown? keyId = _ :=
        Store.Sound.shown?_removeOrphans sound keys posted keyId
      have left : (depot.act .expunge).store.entryOf? keyId = _ :=
        Store.entryOf?_removeOrphans keys posted depot.store keyId
      by_cases gone : keyId ∈ (Store.removeOrphans keys posted depot.store).1
      · rw [if_pos gone] at left
        exact .expunged (Store.removed_removeOrphans keys posted depot.store keyId gone).2.1 left
      · rw [if_neg gone] at shows
        exact .of_shown? shows
  | read other => exact .of_shown? (depot.store.shown?_read other keyId)
  | shareTable table =>
      refine .stays ?_
      rw [Depot.act]
      split
      next => rfl
      next => rfl
  | dropTable table =>
      refine .stays ?_
      rw [Depot.act]
      split
      next => rfl
      next => rfl
  | survey => exact .stays rfl
  | reclaim pressure => exact .passed pressure rfl

/-! ## Histories -/

/-- A depot comes to another by some errands. -/
def ComesTo (depot after : Depot Row) : Prop := ∃ errands, after = depot.run errands

variable {between after : Depot Row}

theorem ComesTo.refl (depot : Depot Row) : depot.ComesTo depot := ⟨[], rfl⟩

theorem comesTo_act (depot : Depot Row) (errand : Errand Row) : depot.ComesTo (depot.act errand) :=
  ⟨[errand], rfl⟩

theorem ComesTo.trans (first : depot.ComesTo between) (second : between.ComesTo after) :
    depot.ComesTo after := by
  obtain ⟨errands, rfl⟩ := first
  obtain ⟨others, rfl⟩ := second
  exact ⟨errands ++ others, List.foldl_append.symm⟩

/-- A table that is held is given up. -/
theorem comesTo_dropTable (store : Store Row) (host : Host) (table : Nat) (held : Multiset Nat) :
    ComesTo ⟨store, host, table ::ₘ held⟩
      ⟨{ store with memory := store.memory.release table }, host, held⟩ := by
  refine ⟨[.dropTable table], ?_⟩
  rw [run, List.foldl_cons, List.foldl_nil, act, if_pos (Multiset.mem_cons_self table held)]
  simp only [Multiset.erase_cons_head]
  rfl

/-- What is left of a history without the names. -/
def ofHistory (history : Store.History Row) : Depot Row :=
  ⟨history.store, history.host, history.holds.bag⟩

theorem comesTo_nameKey (history : Store.History Row) (name : String) (keyId : Nat) :
    (ofHistory history).ComesTo (ofHistory (history.nameKey name keyId)) := by
  unfold Store.History.nameKey
  cases history.keys.find? name with
  | none => exact .refl _
  | some replaced => exact comesTo_act _ (.dropKey replaced)

/-- A hold gets a name, and what the name stood for before is given up. -/
theorem comesTo_nameHold (history : Store.History Row) (name : String) (table : Nat) :
    ComesTo ⟨history.store, history.host, table ::ₘ history.holds.bag⟩
      (ofHistory (history.nameHold name table)) := by
  unfold Store.History.nameHold
  cases known : history.holds.find? name with
  | none =>
      rw [← Assoc.bag_insert_of_absent known table]
      exact .refl _
  | some replaced =>
      rw [← Assoc.bag_insert_of_known known table]
      exact comesTo_dropTable _ _ replaced _

theorem comesTo_withKey {history : Store.History Row} {name : String}
    {next : Nat → Store.History Row × Store.Answer Row}
    (comes : ∀ keyId, (ofHistory history).ComesTo (ofHistory (next keyId).1)) :
    (ofHistory history).ComesTo (ofHistory (history.withKey name next).state) := by
  unfold Store.History.withKey
  cases history.keys.find? name with
  | none => exact .refl _
  | some keyId => exact comes keyId

/-- A step of a history is some errands. -/
theorem comesTo_step (history : Store.History Row) (step : Store.Step Row) :
    (ofHistory history).ComesTo (ofHistory (history.step step).state) := by
  cases step with
  | createKey name =>
      refine (comesTo_act _ (.createKey name)).trans ?_
      exact comesTo_nameKey (history.withKeys _) name _
  | cloneKey source target =>
      refine comesTo_withKey fun keyId => (comesTo_act _ (.shareKey keyId)).trans ?_
      exact comesTo_nameKey (history.withKeys _) target keyId
  | dropKey name =>
      rw [Store.History.step]
      cases history.keys.find? name with
      | none => exact .refl _
      | some keyId => exact comesTo_act _ (.dropKey keyId)
  | put name rows hold =>
      refine comesTo_withKey fun keyId => (comesTo_act _ (.put keyId rows)).trans ?_
      cases hold with
      | none => exact comesTo_dropTable _ _ _ _
      | some hold =>
          let put := history.store.put history.host keyId rows
          exact comesTo_nameHold { history with store := put.2.1, host := put.2.2 } hold put.1
  | dropHold hold =>
      rw [Store.History.step]
      cases known : history.holds.find? hold with
      | none => exact .refl _
      | some table =>
          rw [ofHistory, Assoc.bag_erase known]
          exact comesTo_dropTable _ _ table _
  | clear name => exact comesTo_withKey fun keyId => comesTo_act _ (.clearForReclaim keyId)
  | invalidate name => exact comesTo_withKey fun keyId => comesTo_act _ (.invalidate keyId)
  | attachRecent name => exact comesTo_withKey fun keyId => comesTo_act _ (.attachRecent keyId)
  | dropRecent name => exact comesTo_withKey fun keyId => comesTo_act _ (.dropRecent keyId)
  | contains name | entry name => exact comesTo_withKey fun _ => .refl _
  | expunge => exact comesTo_act _ .expunge
  | reclaim pressure => exact comesTo_act _ (.reclaim pressure)
  | reclaimable | tracked => exact comesTo_act _ .survey
  | recentHandles | size | occupancy | clearances => exact .refl _

/-- So is a whole history. -/
theorem comesTo_finalState (history : Store.History Row) (steps : List (Store.Step Row)) :
    (ofHistory history).ComesTo (ofHistory (finalState Store.History.step history steps)) := by
  induction steps generalizing history with
  | nil => exact .refl _
  | cons first rest ih => exact (comesTo_step history first).trans (ih _)

end Depot

/-! ## Main statement -/

/-- Whatever a store without an engine is asked, in any order, and whatever becomes of its keys and
tables and in its passes: the handles of every entry are about the table in its cell, and the ways
to ask for a table tell the same. A table that was present is not any more only if its entry was
removed, on demand or for want of an owner of the key, or if a pass cleared its cell, and then the
entry is still there. The histories of a store are among these. -/
theorem handles_upheld (host : Host) (errands : List (Errand Row)) :
    let depot := (Depot.create host).run errands
    (∀ keyId entry, depot.store.entryOf? keyId = some entry →
        entry.Upheld depot.store.memory keyId) ∧
      (∀ keyId, depot.store.Agrees keyId) ∧
      (∀ errand keyId, depot.store.contains keyId = true →
        (depot.act errand).store.contains keyId = false →
        ((errand = .invalidate keyId ∨
              errand = .expunge ∧ depot.host.keys.isOwned keyId = false) ∧
            (depot.act errand).store.entryOf? keyId = none) ∨
          ∃ pressure, errand = .reclaim pressure ∧
            (depot.act errand).store.entryOf? keyId = depot.store.entryOf? keyId) ∧
      ∀ steps, ∃ others, Depot.ofHistory (finalState Store.History.step .create steps) =
        ((Depot.create .empty).run others : Depot Row) := by
  intro depot
  have sound : depot.Sound := (Depot.sound_create host).run errands
  refine ⟨fun keyId entry found => Store.Sound.upheld sound found, fun keyId => depot.store.agrees
    keyId, fun errand keyId there gone => ?_, fun steps => Depot.comesTo_finalState .create steps⟩
  cases sound.fares errand keyId with
  | stays same =>
      rw [same, there] at gone
      cases gone
  | put rows shows =>
      rw [shows] at gone
      cases gone
  | invalidated removed => exact .inl ⟨.inl rfl, removed⟩
  | expunged unowned removed => exact .inl ⟨.inr ⟨rfl, unowned⟩, removed⟩
  | passed pressure left => exact .inr ⟨pressure, rfl, left⟩

/-- A table that is reclaimed after the other handles on it went, and whose entry then gets a recent
handle twice. -/
def reattaching : List (Errand Nat) :=
  [.createKey "a", .put 1 [10, 20], .dropTable 0, .dropRecent 1, .clearForReclaim 1,
    .reclaim .full, .attachRecent 1, .attachRecent 1]

/-- The entry of a reclaimed table has one recent handle, which brings nothing back. -/
theorem handles_upheld_reattached :
    let depot := (Depot.create .empty).run reattaching
    depot.store.entryOf? 1 = some ⟨none, some 0, 0⟩ ∧ depot.store.memory.recentHolds 0 = 1 ∧
      (⟨none, some 0, 0⟩ : Entry).recentAlive depot.store.memory = false ∧
      depot.store.tier 1 = .absent ∧ (depot.store.read 1).1.isSome = false := by
  intro depot
  have found : depot.store.entryOf? 1 = some ⟨none, some 0, 0⟩ := by decide +kernel
  have cleared : depot.store.memory.isAlive 0 = false := by decide +kernel
  have absent : depot.store.contains 1 = false := by decide +kernel
  obtain ⟨entries, agrees, -⟩ := handles_upheld .empty reattaching
  have upheld := entries 1 _ found
  refine ⟨found, upheld.recentHolds, ?_, (agrees 1).tier.2 absent, (agrees 1).read.trans absent⟩
  rw [upheld.recentAlive]
  exact cleared

end TableCache
