/-!
# Tiers

The tier of a table is the strongest handle on it that is left, and an occupancy is a tally of
tiers.
-/

namespace TableCache

/-- How strongly a table is kept. -/
inductive Tier where
  /-- Not cached, invalidated or reclaimed. -/
  | absent
  /-- Reclaimable at any time. -/
  | weak
  /-- Reclaimable, but in recent use. -/
  | recent
  /-- Kept until given up for reclaiming. -/
  | strong
  deriving DecidableEq, Repr, Inhabited

namespace Tier

/-- Tiers from weakest to strongest. -/
def rank : Tier → Nat
  | .absent => 0
  | .weak => 1
  | .recent => 2
  | .strong => 3

/-- The order of two tiers by strength. -/
def order (first second : Tier) : Ordering := compare first.rank second.rank

/-- The word for a tier. -/
def text : Tier → String
  | .absent => "absent"
  | .weak => "weak"
  | .recent => "recent"
  | .strong => "strong"

end Tier

/-- How many entries there are whose table was not reclaimed, how many of them have a strong handle,
how many have a recent handle, and how many have neither. -/
structure Occupancy where
  entries : Nat
  strong : Nat
  recent : Nat
  weakOnly : Nat
  deriving DecidableEq, Repr

namespace Occupancy

/-- No entry. -/
def zero : Occupancy := ⟨0, 0, 0, 0⟩

instance : Inhabited Occupancy := ⟨zero⟩

/-- Counts one more entry of a tier. An absent one does not count. -/
def add (occupancy : Occupancy) (tier : Tier) (hasRecent : Bool) : Occupancy :=
  if tier = .absent then occupancy
  else
    { entries := occupancy.entries + 1
      strong := occupancy.strong + if tier = .strong then 1 else 0
      recent := occupancy.recent + if hasRecent then 1 else 0
      weakOnly := occupancy.weakOnly + if tier = .weak then 1 else 0 }

/-- The counts in the order of their names in records. -/
def toList (occupancy : Occupancy) : List Nat :=
  [occupancy.entries, occupancy.strong, occupancy.recent, occupancy.weakOnly]

end Occupancy

end TableCache
