import TableCache.Key.Ownership

/-!
# What all caches share

Caches that run side by side share the keys and one clock. The clock ticks at every use of a table,
whichever cache the table is in.
-/

namespace TableCache

/-- The keys, and the next tick of the clock. -/
structure Host where
  keys : Keys
  clock : Nat
  deriving DecidableEq, Repr

namespace Host

/-- No key, and a clock at its first tick. -/
def empty : Host := ⟨.empty, 1⟩

instance : Inhabited Host := ⟨empty⟩

/-- The clock ticks once. -/
def tick (host : Host) : Nat × Host := (host.clock, { host with clock := host.clock + 1 })

/-- Lets an inbox watch a key. -/
def watch (host : Host) (keyId inbox : Nat) : Host :=
  { host with keys := host.keys.watch keyId inbox }

end Host

end TableCache
