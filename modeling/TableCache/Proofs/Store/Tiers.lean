import TableCache.Proofs.Store.Orphans

/-!
# The stored keys by tier

An occupancy is made in one go over all entries. Here it is taken apart: each of its counts is a
number of stored keys, told by their tiers. What it counts are keys that show a table, so entries of
reclaimed tables come and go without changing it.

Main definitions:

1. `Store.keyIds`: the stored keys;
2. `Store.isReclaimed`: whether the table of a stored key was reclaimed;
3. `Occupancy.census`: a tally of members by tier.

Main statements:

1. `occupancy_eq`: an occupancy is the census of the stored keys;
2. `occupancy_of_same`: it depends on what keys show, and not on entries of reclaimed tables;
3. `size_eq`: the entries that it does not count are those of reclaimed tables.
-/

namespace TableCache

universe u v w

variable {Row : Type u}

/-- Lists without repetitions count the same if what counts in them is the same. -/
theorem countP_eq_of_nodup {α : Type v} {first second : List α} {one other : α → Bool}
    (distinct : first.Nodup) (distinct' : second.Nodup)
    (same : ∀ member, member ∈ first ∧ one member = true ↔ member ∈ second ∧ other member = true) :
    first.countP one = second.countP other := by
  rw [List.countP_eq_length_filter, List.countP_eq_length_filter]
  refine List.Perm.length_eq ?_
  refine (List.perm_ext_iff_of_nodup (distinct.filter _) (distinct'.filter _)).2 fun member => ?_
  rw [List.mem_filter, List.mem_filter]
  exact same member

/-! ## Members by tier -/

namespace Occupancy

variable {α : Type v} {members : List α} {tier : α → Tier} {recent : α → Bool}

/-- A tally of members by tier, where some of them are told to have a recent handle. -/
def census (members : List α) (tier : α → Tier) (recent : α → Bool) : Occupancy where
  entries := members.countP fun member => tier member ≠ .absent
  strong := members.countP fun member => tier member = .strong
  recent := members.countP fun member => tier member ≠ .absent && recent member
  weakOnly := members.countP fun member => tier member = .weak

/-- Adding members one by one to an occupancy adds their census. -/
theorem foldl_add (members : List α) (tier : α → Tier) (recent : α → Bool)
    (occupancy : Occupancy) :
    members.foldl (fun occupancy member => occupancy.add (tier member) (recent member))
        occupancy =
      ⟨occupancy.entries + (census members tier recent).entries,
        occupancy.strong + (census members tier recent).strong,
        occupancy.recent + (census members tier recent).recent,
        occupancy.weakOnly + (census members tier recent).weakOnly⟩ := by
  induction members generalizing occupancy with
  | nil => rfl
  | cons member rest ih =>
      rw [List.foldl_cons, ih, add]
      simp only [census, List.countP_cons]
      cases tier member <;> cases recent member <;>
        simp [Nat.add_assoc, Nat.add_comm 1]

theorem census_map {β : Type w} (members : List β) (change : β → α) :
    census (members.map change) tier recent =
      census members (tier ∘ change) (recent ∘ change) := by
  simp only [census, List.countP_map]
  rfl

/-- Two censuses are the same if whatever can be counted is there equally often. Nothing without a
tier is counted. -/
theorem census_eq_of_counts {others : List α} {tier' : α → Tier} {recent' : α → Bool}
    (counts : ∀ count : Tier → Bool → Bool, (∀ recent, count .absent recent = false) →
      (members.countP fun member => count (tier member) (recent member)) =
        others.countP fun member => count (tier' member) (recent' member)) :
    census members tier recent = census others tier' recent' := by
  have entries := counts (fun tier _ => tier ≠ .absent) fun _ => rfl
  have strong := counts (fun tier _ => tier = .strong) fun _ => rfl
  have recent := counts (fun tier recent => tier ≠ .absent && recent) fun _ => rfl
  have weakOnly := counts (fun tier _ => tier = .weak) fun _ => rfl
  rw [census, entries, strong, recent, weakOnly]
  rfl

theorem census_congr {tier' : α → Tier} {recent' : α → Bool}
    (same : ∀ member ∈ members, tier member = tier' member ∧ recent member = recent' member) :
    census members tier recent = census members tier' recent' := by
  refine census_eq_of_counts fun count _ => List.countP_congr fun member there => ?_
  rw [(same member there).1, (same member there).2]

/-- Of two lists without repetitions that have the same members with a tier, one has the census of
the other. -/
theorem census_eq_of_present {others : List α} {recent' : α → Bool} (distinct : members.Nodup)
    (distinct' : others.Nodup)
    (present : ∀ member, tier member ≠ .absent →
      member ∈ members ∧ member ∈ others ∧ recent member = recent' member) :
    census members tier recent = census others tier recent' := by
  refine census_eq_of_counts fun count uncounted => countP_eq_of_nodup distinct distinct'
    fun member => ?_
  by_cases absent : tier member = .absent
  · simp [absent, uncounted]
  · obtain ⟨here, there, same⟩ := present member absent
    simp [here, there, same]

/-- A member that counts is strong, weak or recent. -/
theorem entries_census (members : List α) (tier : α → Tier) (recent : α → Bool) :
    (census members tier recent).entries =
      (census members tier recent).strong + (census members tier recent).weakOnly +
        members.countP fun member => tier member = .recent := by
  induction members with
  | nil => rfl
  | cons member rest ih =>
      simp only [census, List.countP_cons] at ih ⊢
      rw [ih]
      cases tier member <;> simp <;> omega

/-- A member that does not count has no tier. -/
theorem length_eq_entries (members : List α) (tier : α → Tier) (recent : α → Bool) :
    members.length =
      (census members tier recent).entries +
        members.countP fun member => tier member = .absent := by
  rw [census, List.length_eq_countP_add_countP fun member => tier member ≠ .absent]
  simp

end Occupancy

/-! ## Stored keys -/

namespace Store

variable {store after : Store Row} {keyId : Nat}

/-- The keys that have an entry, each once. -/
def keyIds (store : Store Row) : List Nat := store.entries.toList.map Prod.fst

/-- Whether a key has an entry whose table was reclaimed. -/
def isReclaimed (store : Store Row) (keyId : Nat) : Bool :=
  (store.entryOf? keyId).any fun entry => !store.memory.isAlive entry.cell

theorem nodup_keyIds (store : Store Row) : store.keyIds.Nodup := store.entries.nodup_toList

theorem mem_keyIds : keyId ∈ store.keyIds ↔ store.has keyId = true := by
  rw [keyIds, has, Option.isSome_iff_exists, List.mem_map]
  constructor
  · rintro ⟨⟨other, entry⟩, member, rfl⟩
    exact ⟨entry, Numbered.mem_toList.1 member⟩
  · rintro ⟨entry, found⟩
    exact ⟨(keyId, entry), Numbered.mem_toList.2 found, rfl⟩

theorem length_keyIds (store : Store Row) : store.keyIds.length = store.size := by
  rw [keyIds, List.length_map, size, Numbered.size, Numbered.values_eq_map_toList, List.length_map]

theorem isReclaimed_eq (store : Store Row) (keyId : Nat) :
    store.isReclaimed keyId = (store.has keyId && !store.contains keyId) := by
  rw [isReclaimed, has, contains]
  cases store.entryOf? keyId <;> rfl

/-- A key that shows a table has an entry. -/
theorem has_of_shown (shows : store.shown? keyId ≠ none) : store.has keyId = true := by
  rw [has]
  cases found : store.entryOf? keyId with
  | none => rw [shown?, found] at shows; exact absurd rfl shows
  | some entry => rfl

theorem tier_eq_absent_iff : store.tier keyId = .absent ↔ store.shown? keyId = none := by
  rw [tier_eq]
  cases store.shown? keyId with
  | none => simp
  | some shown =>
      simp only [Option.map_some, Option.getD_some, Shown.tier]
      split
      next => simp
      next => split <;> simp

/-- The table of a stored key was reclaimed if the key has no tier. -/
theorem isReclaimed_iff (there : store.has keyId = true) :
    store.isReclaimed keyId = true ↔ store.tier keyId = .absent := by
  rw [isReclaimed_eq, there, Bool.true_and, contains_eq, tier_eq_absent_iff]
  cases store.shown? keyId <;> simp

/-- An occupancy is the census of the stored keys. -/
theorem occupancy_eq (store : Store Row) :
    store.occupancy = .census store.keyIds store.tier store.isRecent := by
  rw [occupancy, Occupancy.foldl_add, Numbered.values_eq_map_toList, keyIds, Occupancy.census_map,
    Occupancy.census_map]
  simp only [Occupancy.zero, Nat.zero_add]
  refine Occupancy.census_congr fun pair member => ?_
  have found : store.entryOf? pair.1 = some pair.2 := Numbered.mem_toList.1 member
  constructor
  · rw [Function.comp_apply, Function.comp_apply, tier, found]
  · rw [Function.comp_apply, Function.comp_apply, isRecent, found, Option.bind_some]

theorem tier_of_same (shows : ∀ keyId, after.shown? keyId = store.shown? keyId)
    (recents : ∀ keyId, store.shown? keyId ≠ none → after.isRecent keyId = store.isRecent keyId) :
    after.tier = store.tier := by
  funext keyId
  rw [tier_eq, tier_eq, shows]
  cases shown : store.shown? keyId with
  | none => rfl
  | some table => rw [recents keyId (by simp [shown])]

/-- A store in which every key shows the same, and in which the shown ones have their recent
handles, has the same occupancy. -/
theorem occupancy_of_same (shows : ∀ keyId, after.shown? keyId = store.shown? keyId)
    (recents : ∀ keyId, store.shown? keyId ≠ none → after.isRecent keyId = store.isRecent keyId) :
    after.occupancy = store.occupancy := by
  rw [occupancy_eq, occupancy_eq, tier_of_same shows recents]
  refine Occupancy.census_eq_of_present after.nodup_keyIds store.nodup_keyIds fun keyId kept => ?_
  have there : store.shown? keyId ≠ none := fun absent => kept (tier_eq_absent_iff.2 absent)
  refine ⟨mem_keyIds.2 (has_of_shown ?_), mem_keyIds.2 (has_of_shown there), recents keyId there⟩
  rwa [shows]

/-- The entries that an occupancy does not count are those of reclaimed tables. -/
theorem size_eq (store : Store Row) :
    store.size = store.occupancy.entries + store.keyIds.countP store.isReclaimed := by
  rw [← length_keyIds, occupancy_eq,
    Occupancy.length_eq_entries store.keyIds store.tier store.isRecent]
  refine congrArg _ (List.countP_congr fun keyId member => ?_)
  rw [isReclaimed_iff (mem_keyIds.1 member), decide_eq_true_iff]

/-- A key whose tier is recent has a recent handle. -/
theorem isRecent_of_tier (recent : store.tier keyId = .recent) : store.isRecent keyId = true := by
  rw [tier_eq] at recent
  cases shown : store.shown? keyId with
  | none => simp [shown] at recent
  | some table =>
      cases handle : store.isRecent keyId with
      | true => rfl
      | false => cases pinned : table.pinned <;> simp [shown, handle, Shown.tier, pinned] at recent

/-- The keys whose tier is recent are among those with a recent handle. -/
theorem countP_recent_le (store : Store Row) :
    (store.keyIds.countP fun keyId => store.tier keyId = .recent) ≤ store.occupancy.recent := by
  rw [occupancy_eq]
  refine List.countP_mono_left fun keyId _ recent => ?_
  rw [decide_eq_true_iff] at recent
  rw [isRecent_of_tier recent, recent]
  rfl

end Store

end TableCache
