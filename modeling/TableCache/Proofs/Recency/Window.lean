import Mathlib.Data.Finset.Card
import TableCache.Proofs.Recency.Members

/-!
# How long a key stays in the index

A use puts its key at the end of the list, and the keys behind it are those used after it. A key is
pushed out from the front of a full list only. So by then as many other keys were used after it as
the index has places: those behind it, and the new one. Until then it stays, whatever is used again
or removed.

Main statements:

1. `Guarded`: a key in a list, and the keys behind it;
2. `Guarded.filter`, `Guarded.concat`, `Guarded.tail`: what keeps a key guarded;
3. `Ordered.guarded_self`, `Ordered.guarded_touch`: uses of the key and of others.
-/

namespace TableCache.Recency

/-- A key is in a list, and each of the keys that stand behind it is among those `used`. -/
def Guarded (key : Nat) (used members : List Nat) : Prop :=
  ∃ older newer, members = older ++ key :: newer ∧ ∀ other ∈ newer, other ∈ used

variable {key : Nat} {used members : List Nat}

namespace Guarded

theorem mem (guarded : Guarded key used members) : key ∈ members := by
  obtain ⟨older, newer, rfl, -⟩ := guarded
  exact List.mem_append_right older List.mem_cons_self

/-- A key stays guarded when others are removed. -/
theorem filter {keep : Nat → Bool} (guarded : Guarded key used members)
    (kept : keep key = true) : Guarded key used (members.filter keep) := by
  obtain ⟨older, newer, rfl, known⟩ := guarded
  refine ⟨older.filter keep, newer.filter keep, ?_, fun other member => ?_⟩
  · rw [List.filter_append, List.filter_cons_of_pos kept]
  · exact known other (List.mem_filter.1 member).1

/-- A key stays guarded when another comes to stand behind it. -/
theorem concat (guarded : Guarded key used members) (other : Nat) :
    Guarded key (used ++ [other]) (members ++ [other]) := by
  obtain ⟨older, newer, rfl, known⟩ := guarded
  refine ⟨older, newer ++ [other], ?_, fun behind member => ?_⟩
  · rw [List.append_assoc, List.cons_append]
  · rw [List.mem_append] at member ⊢
    exact member.imp_left (known behind)

/-- A key stays guarded when another goes from the front of the list. If it is at the front itself,
all others stand behind it. -/
theorem tail {head : Nat} {rest : List Nat} (guarded : Guarded key used (head :: rest)) :
    Guarded key used rest ∨ head = key ∧ ∀ other ∈ rest, other ∈ used := by
  obtain ⟨older, newer, members, known⟩ := guarded
  cases older with
  | nil =>
      cases members
      exact .inr ⟨rfl, known⟩
  | cons first older =>
      cases members
      exact .inl ⟨older, newer, rfl, known⟩

end Guarded

/-- The more keys are used, the more of them are others. -/
theorem card_others_le (key : Nat) (used more : List Nat) :
    (used.toFinset.erase key).card ≤ ((used ++ more).toFinset.erase key).card := by
  rw [List.toFinset_append]
  exact Finset.card_le_card (Finset.erase_subset_erase key Finset.subset_union_left)

variable {index : Recency} {other : Nat}

/-- No key stands behind the one that was used last. -/
theorem Ordered.guarded_self (ordered : index.Ordered) (key : Nat) (used : List Nat) :
    Guarded key used (index.touch key).2.members := by
  obtain ⟨rest, -, -, members⟩ := ordered.members_touch_eq key
  exact ⟨rest, [], members, fun _ member => absurd member List.not_mem_nil⟩

/-- If a new key comes to an index that is full of a key and of those behind it, there were as many
others as the index has places. -/
theorem Ordered.capacity_le_of_used (ordered : index.Ordered) {rest : List Nat}
    (members : index.members = key :: rest) (known : ∀ behind ∈ rest, behind ∈ used)
    (absent : other ∉ index.members) (full : index.size = index.capacity) :
    index.capacity ≤ ((used ++ [other]).toFinset.erase key).card := by
  have once := ordered.nodup_members
  have length := ordered.length_members
  rw [members, List.nodup_cons] at once
  rw [members, List.length_cons, full] at length
  rw [members, List.mem_cons, not_or] at absent
  have distinct : (rest ++ [other]).Nodup :=
    once.2.append (List.nodup_singleton other) (List.disjoint_singleton.2 absent.2)
  have included : (rest ++ [other]).toFinset ⊆ (used ++ [other]).toFinset.erase key := by
    intro behind member
    rw [List.mem_toFinset, List.mem_append, List.mem_singleton] at member
    rw [Finset.mem_erase, List.mem_toFinset, List.mem_append, List.mem_singleton]
    rcases member with old | rfl
    · exact ⟨fun same => once.1 (same ▸ old), .inl (known behind old)⟩
    · exact ⟨absent.1, .inr rfl⟩
  have bound := Finset.card_le_card included
  rwa [List.toFinset_card_of_nodup distinct, List.length_append, List.length_singleton,
    length] at bound

/-- A key stays guarded through a use of any key, as long as fewer other keys were used than the
index has places. -/
theorem Ordered.guarded_touch (ordered : index.Ordered) (guarded : Guarded key used index.members)
    (other : Nat) (few : ((used ++ [other]).toFinset.erase key).card < index.capacity) :
    Guarded key (used ++ [other]) (index.touch other).2.members := by
  by_cases again : other = key
  · subst again
    exact ordered.guarded_self other _
  · rcases ordered.members_touch other with
      ⟨-, after⟩ | ⟨evicted, rest, -, absent, full, first, after⟩
    · rw [after]
      refine (guarded.filter ?_).concat other
      exact decide_eq_true fun same => again same.symm
    · rw [first] at guarded
      rcases guarded.tail with behind | ⟨rfl, known⟩
      · rw [after]
        exact behind.concat other
      · have many := ordered.capacity_le_of_used first known absent full
        exact absurd few (Nat.not_lt.2 many)

end TableCache.Recency
