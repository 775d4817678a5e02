import TableCache.Error

/-!
# Settings of a soak
-/

namespace TableCache.Soak

/-- How many producers and consumers there are, what the producers make, and how often the reclaimer
runs. Times are in milliseconds. -/
structure Settings where
  producers : Nat
  consumers : Nat
  tablesPerProducer : Nat
  rowsPerTable : Nat
  rowBytes : Nat
  /-- Time from caching a table to its being persisted. -/
  flushDelay : Nat
  /-- Of so many tables of a producer the last one is invalidated; zero stands for none. -/
  invalidateEvery : Nat
  /-- Time between two reclaim passes. -/
  reclaimInterval : Nat
  /-- Most tables that one pass clears. -/
  reclaimBatch : Nat
  deriving DecidableEq, Repr

namespace Settings

/-- What holds where nothing else is said. -/
def standard : Settings where
  producers := 2
  consumers := 4
  tablesPerProducer := 200
  rowsPerTable := 64
  rowBytes := 128
  flushDelay := 5
  invalidateEvery := 10
  reclaimInterval := 20
  reclaimBatch := 8

instance : Inhabited Settings := ⟨standard⟩

/-- Refuses settings under which a soak cannot go on. The producers are looked at first. -/
def validate (settings : Settings) : Except CacheError Unit :=
  if settings.producers = 0 then .error (.invalidArgument "producers must be at least 1")
  else if settings.reclaimInterval = 0 then
    .error (.invalidArgument "reclaim interval must be non-zero")
  else .ok ()

/-- The tasks of one kind take eight octets each in a region of fewer than 2 ^ 63 octets, so there
are fewer than this many. -/
def taskLimit : Nat := Nat.pow 2 60

/-- Whether there is room for the tasks. -/
def hasRoom (settings : Settings) : Bool :=
  settings.producers < taskLimit && settings.consumers < taskLimit

/-- Whether a producer invalidates the table with a number, counted from zero. -/
def invalidates (settings : Settings) (table : Nat) : Bool :=
  0 < settings.invalidateEvery
    && table % settings.invalidateEvery = settings.invalidateEvery - 1

/-- A soak can go on with at least one producer and an interval that is not zero. -/
theorem validate_eq_ok_iff {settings : Settings} :
    settings.validate = .ok () ↔ 0 < settings.producers ∧ 0 < settings.reclaimInterval := by
  unfold validate
  split
  next zero => simp [zero]
  next positive =>
    split
    next zero => simp [zero]
    next other => simp; omega

end Settings

end TableCache.Soak
