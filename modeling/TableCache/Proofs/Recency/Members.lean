import Mathlib.Data.List.Pairwise
import TableCache.Proofs.Recency

/-!
# The recency index as a list

The order of an index holds its ticks as they came, and ticks only grow. So its keys stand in the
order of their last uses, and a use moves its key to the end, whether it was there or not. The key
that is pushed out is the head of the list.

Main statements:

1. `mem_members`, `nodup_members`, `pairwise_members`: the list and the ticks;
2. `members_touch`, `touch_room`, `touch_full`: the list after a use, and which key the use pushes
   out;
3. `members_remove`: the list after a removal;
4. `pushedOut_of_capacity`: in which order the keys would be pushed out.
-/

namespace TableCache

universe u

namespace Assoc

variable {α : Type u}

theorem pairs_insert_of_not_contains {map : Assoc Nat α} {key : Nat}
    (unknown : map.contains key = false) (value : α) :
    (map.insert key value).pairs = map.pairs ++ [(key, value)] := by
  simp [insert, unknown]

end Assoc

namespace Recency

/-- Ticks and order are inverse to each other, and the order is ascending. -/
structure Ordered (index : Recency) : Prop extends Sound index where
  ascending : index.order.pairs.Pairwise fun first second => first.1 < second.1

variable {index : Recency} {key other : Nat}

theorem ordered_ofCapacity {capacity : Nat} (positive : 0 < capacity) :
    (ofCapacity capacity).Ordered :=
  ⟨sound_ofCapacity positive, .nil⟩

/-! ## Reading the list -/

theorem mem_order_iff (paired : index.Paired) {tick : Nat} :
    (tick, key) ∈ index.order.pairs ↔ index.ticks.find? key = some tick := by
  rw [Assoc.mem_pairs_iff]
  exact (paired.inverse key tick).symm

theorem mem_members (paired : index.Paired) :
    key ∈ index.members ↔ index.contains key = true := by
  rw [members, Assoc.values, contains_iff]
  constructor
  · intro member
    obtain ⟨⟨tick, found⟩, there, rfl⟩ := List.mem_map.1 member
    exact ⟨tick, (mem_order_iff paired).1 there⟩
  · rintro ⟨tick, found⟩
    exact List.mem_map_of_mem ((mem_order_iff paired).2 found)

theorem Ordered.pairwise_members (ordered : index.Ordered) {later : Nat → Nat → Prop}
    (grows : ∀ first second tick next, index.ticks.find? first = some tick →
      index.ticks.find? second = some next → tick < next → later first second) :
    index.members.Pairwise later := by
  refine List.pairwise_map.2 (ordered.ascending.imp_of_mem fun {first second} one two less => ?_)
  exact grows _ _ _ _ ((mem_order_iff ordered.toPaired).1 one)
    ((mem_order_iff ordered.toPaired).1 two) less

/-- Keys that were used one after the other stand in that order in the list: the pairs of the order
ascend, so of two of them only the one with the less tick comes first. -/
theorem Ordered.of_pairwise_members (ordered : index.Ordered) {later : Nat → Nat → Prop}
    (sorted : index.members.Pairwise later) {tick next : Nat}
    (first : index.ticks.find? key = some tick) (second : index.ticks.find? other = some next)
    (less : tick < next) : later key other := by
  let apart : Nat × Nat → Nat × Nat → Prop := fun one two => one.1 < two.1 → later one.2 two.2
  have forward : index.order.pairs.Pairwise apart := by
    refine (List.pairwise_map.1 sorted).imp ?_
    exact fun before _ => before
  have backward : index.order.pairs.Pairwise (flip apart) :=
    ordered.ascending.imp fun ahead behind => absurd ahead (Nat.lt_asymm behind)
  have alike : ∀ pair ∈ index.order.pairs, apart pair pair :=
    fun pair _ ahead => absurd ahead (Nat.lt_irrefl _)
  have all := forward.forall_of_forall_of_flip alike backward
  exact all ((mem_order_iff ordered.toPaired).2 first) ((mem_order_iff ordered.toPaired).2 second)
    less

theorem Ordered.nodup_members (ordered : index.Ordered) : index.members.Nodup := by
  refine ordered.pairwise_members fun first second tick next one two less same => ?_
  subst same
  rw [one] at two
  cases two
  exact Nat.lt_irrefl _ less

theorem Ordered.length_members (ordered : index.Ordered) : index.members.length = index.size := by
  have distinct : index.ticks.keys.Nodup := index.ticks.nodup
  rw [size, Assoc.size_eq_length_keys]
  refine ((List.perm_ext_iff_of_nodup ordered.nodup_members distinct).2 fun key => ?_).length_eq
  rw [mem_members ordered.toPaired, contains, Assoc.contains_iff_mem_keys]

/-- The key whose last use is longest ago stands first. -/
theorem Ordered.members_eq_cons (ordered : index.Ordered) {tick : Nat}
    (known : index.ticks.find? key = some tick)
    (oldest : ∀ other last, index.ticks.find? other = some last → tick ≤ last) :
    ∃ rest, index.members = key :: rest := by
  have there := (mem_order_iff ordered.toPaired).2 known
  have ascending := ordered.ascending
  cases pairs : index.order.pairs with
  | nil =>
      rw [pairs] at there
      cases there
  | cons head tail =>
      rw [pairs, List.pairwise_cons] at ascending
      rw [pairs, List.mem_cons] at there
      rcases there with first | later
      · refine ⟨tail.map Prod.snd, ?_⟩
        rw [members, Assoc.values, pairs, ← first]
        rfl
      · have early := ascending.1 _ later
        have member : (head.1, head.2) ∈ index.order.pairs := pairs ▸ List.mem_cons_self
        have late := oldest head.2 head.1 ((mem_order_iff ordered.toPaired).1 member)
        exact absurd early (Nat.not_lt.2 late)

/-! ## Removals -/

/-- A list loses nothing with a key that it does not have. -/
theorem filter_ne_of_notMem {keys : List Nat} (absent : key ∉ keys) :
    keys.filter (fun other => other ≠ key) = keys :=
  List.filter_eq_self.2 fun _ member => decide_eq_true fun same => absent (same ▸ member)

theorem members_drop (paired : index.Paired) {tick : Nat}
    (known : index.ticks.find? key = some tick) :
    (index.drop key tick).members = index.members.filter fun other => other ≠ key := by
  rw [members, members, Assoc.values, Assoc.values, List.filter_map]
  refine congrArg _ (List.filter_congr fun pair member => ?_)
  obtain ⟨last, found⟩ := pair
  have there := (mem_order_iff paired).1 member
  refine decide_eq_decide.2 (not_congr ⟨?_, ?_⟩)
  · rintro rfl
    exact Option.some.inj ((paired.inverse found last).1 there ▸ (paired.inverse key last).1 known)
  · rintro rfl
    exact Option.some.inj (there.symm.trans known)

theorem ascending_drop
    (ascending : index.order.pairs.Pairwise fun first second => first.1 < second.1)
    (key tick : Nat) :
    (index.drop key tick).order.pairs.Pairwise fun first second => first.1 < second.1 :=
  ascending.sublist List.filter_sublist

theorem Ordered.remove (ordered : index.Ordered) (key : Nat) : (index.remove key).2.Ordered := by
  refine ⟨ordered.toSound.remove key, ?_⟩
  unfold Recency.remove
  split
  next tick _ => exact ascending_drop ordered.ascending key tick
  next => exact ordered.ascending

/-- A removal takes the key out of the list and leaves the others in order. -/
theorem members_remove (paired : index.Paired) (key : Nat) :
    (index.remove key).2.members = index.members.filter fun other => other ≠ key := by
  unfold remove
  split
  next tick known => exact members_drop paired known
  next unknown =>
    refine (filter_ne_of_notMem fun member => ?_).symm
    have present := (mem_members paired).1 member
    rw [contains, Assoc.contains, unknown] at present
    cases present

/-! ## Uses -/

/-- A use takes the key out of the order and puts it at the end. -/
theorem order_advance (paired : index.Paired) (key : Nat) :
    (index.advance key).order.pairs =
      (index.remove key).2.order.pairs ++ [(index.clock + 1, key)] := by
  have base : (index.advance key).order =
      (index.remove key).2.order.insert (index.clock + 1) key := by
    rw [advance, remove]
    cases index.ticks.find? key <;> rfl
  have ahead : (index.remove key).2.order.contains (index.clock + 1) = false := by
    rw [Assoc.contains_eq_false_iff, Option.eq_none_iff_forall_ne_some]
    intro other found
    have early : index.order.find? (index.clock + 1) = some other := by
      rw [remove] at found
      split at found
      next =>
        simp only [Assoc.find?_erase] at found
        split at found
        next => cases found
        next => exact found
      next => exact found
    have bound := paired.bounded other _ ((paired.inverse other _).2 early)
    omega
  rw [base, Assoc.pairs_insert_of_not_contains ahead]

theorem members_advance (paired : index.Paired) (key : Nat) :
    (index.advance key).members =
      (index.members.filter fun other => other ≠ key) ++ [key] := by
  rw [← members_remove paired, members, members, Assoc.values, Assoc.values, order_advance paired,
    List.map_append]
  rfl

theorem Ordered.ascending_advance (ordered : index.Ordered) (key : Nat) :
    (index.advance key).order.pairs.Pairwise fun first second => first.1 < second.1 := by
  have removed := ordered.remove key
  rw [order_advance ordered.toPaired, List.pairwise_append]
  refine ⟨removed.ascending, List.pairwise_singleton _ _, fun pair member last new => ?_⟩
  obtain ⟨tick, other⟩ := pair
  have known := (mem_order_iff removed.toPaired).1 member
  have bound := removed.bounded other tick known
  have clock : (index.remove key).2.clock = index.clock := by
    unfold Recency.remove
    split <;> rfl
  rw [List.mem_singleton.1 new]
  rw [clock] at bound
  exact Nat.lt_succ_of_le bound

/-- A use renews its key or lets it in, or it lets it in and pushes out the head of the list. -/
theorem Ordered.members_touch (ordered : index.Ordered) (key : Nat) :
    (index.touch key).1 = none ∧
        (index.touch key).2.members =
          (index.members.filter fun other => other ≠ key) ++ [key] ∨
      ∃ evicted rest, (index.touch key).1 = some evicted ∧ key ∉ index.members ∧
        index.size = index.capacity ∧ index.members = evicted :: rest ∧
        (index.touch key).2.members = rest ++ [key] := by
  have paired := ordered.toPaired
  rcases touch_cases ordered.toSound key with ⟨used, -⟩ | ⟨evicted, tick, used, unknown, full,
    different, found, oldest⟩
  · rw [used]
    exact .inl ⟨rfl, members_advance paired key⟩
  · obtain ⟨rest, first⟩ := ordered.members_eq_cons found oldest
    have absent : key ∉ index.members := by
      rw [mem_members paired, unknown]
      exact Bool.false_ne_true
    have there : (index.advance key).ticks.find? evicted = some tick := by
      rw [advance, Assoc.find?_insert, if_neg different]
      exact found
    have kept := filter_ne_of_notMem absent
    have once := ordered.nodup_members
    rw [first, List.nodup_cons] at once
    have others := filter_ne_of_notMem once.1
    refine .inr ⟨evicted, rest, by rw [used], absent, full, first, ?_⟩
    rw [used]
    show ((index.advance key).drop evicted tick).members = _
    rw [members_drop (paired.advance key) there, members_advance paired, kept, first,
      List.filter_append, List.filter_cons_of_neg (by simp), others,
      List.filter_cons_of_pos (by simpa using Ne.symm different)]
    rfl

/-- A use moves its key to the end, and at most takes one other key away. -/
theorem Ordered.members_touch_eq (ordered : index.Ordered) (key : Nat) :
    ∃ rest, rest.Sublist index.members ∧ key ∉ rest ∧
      (index.touch key).2.members = rest ++ [key] := by
  rcases ordered.members_touch key with ⟨-, members⟩ | ⟨evicted, rest, -, absent, -, first,
      members⟩
  · refine ⟨_, List.filter_sublist, fun member => ?_, members⟩
    exact of_decide_eq_true (List.mem_filter.1 member).2 rfl
  · rw [first] at absent ⊢
    exact ⟨rest, List.sublist_cons_self _ _, fun member => absent (List.mem_cons_of_mem _ member),
      members⟩

theorem Ordered.touch (ordered : index.Ordered) (key : Nat) : (index.touch key).2.Ordered := by
  refine ⟨ordered.toSound.touch key, ?_⟩
  rcases touch_cases ordered.toSound key with ⟨used, -⟩ | ⟨evicted, tick, used, -⟩
  · rw [used]
    exact ordered.ascending_advance key
  · rw [used]
    exact ascending_drop (ordered.ascending_advance key) evicted tick

/-- A use of a key that is there, or for which there is room, pushes nobody out. -/
theorem Ordered.touch_room (ordered : index.Ordered)
    (room : index.contains key = true ∨ index.size ≠ index.capacity) :
    (index.touch key).1 = none ∧
      (index.touch key).2.members = (index.members.filter fun other => other ≠ key) ++ [key] := by
  rcases ordered.members_touch key with kept | ⟨evicted, rest, -, absent, full, -⟩
  · exact kept
  · rw [mem_members ordered.toPaired] at absent
    rcases room with present | few
    · exact absurd present absent
    · exact absurd full few

/-- A use of a new key in a full index pushes out the head of the list. If nobody went, there would
be one key too many. -/
theorem Ordered.touch_full (ordered : index.Ordered) (new : index.contains key = false)
    (full : index.size = index.capacity) :
    ∃ evicted rest, (index.touch key).1 = some evicted ∧ index.members = evicted :: rest ∧
      (index.touch key).2.members = rest ++ [key] := by
  have touched := ordered.touch key
  have absent : key ∉ index.members := by
    rw [mem_members ordered.toPaired, new]
    exact Bool.false_ne_true
  rcases ordered.members_touch key with ⟨-, members⟩ | ⟨evicted, rest, pushed, -, -, first, members⟩
  · have many := touched.size_le
    rw [← touched.length_members, members, filter_ne_of_notMem absent, List.length_append,
      ordered.length_members, full, capacity_touch] at many
    exact absurd many (Nat.not_succ_le_self _)
  · exact ⟨evicted, rest, pushed, first, members⟩

/-! ## Many uses -/

/-- The keys that are pushed out by uses of some keys, one after the other. -/
def pushedOut (index : Recency) : List Nat → List Nat
  | [] => []
  | key :: rest => (index.touch key).1.toList ++ (index.touch key).2.pushedOut rest

/-- New keys push the keys of the list out from its front, and then each other. -/
theorem Ordered.pushedOut_eq (ordered : index.Ordered) {fresh : List Nat} (distinct : fresh.Nodup)
    (new : ∀ key ∈ fresh, key ∉ index.members) :
    index.pushedOut fresh =
      (index.members ++ fresh).take (index.size + fresh.length - index.capacity) := by
  induction fresh generalizing index with
  | nil =>
      have small := ordered.size_le
      rw [List.length_nil, Nat.add_zero, Nat.sub_eq_zero_of_le small]
      rfl
  | cons key rest ih =>
      obtain ⟨once, others⟩ := List.nodup_cons.1 distinct
      have absent := new key List.mem_cons_self
      have kept := filter_ne_of_notMem absent
      have touched := ordered.touch key
      have size := touched.length_members
      have still := touched.size_le
      have before := ordered.length_members
      have later : ∀ other ∈ rest, other ∉ (index.touch key).2.members := by
        intro other member there
        obtain ⟨older, fewer, -, members⟩ := ordered.members_touch_eq key
        rw [members, List.mem_append, List.mem_singleton] at there
        rcases there with old | rfl
        · exact new other (List.mem_cons_of_mem _ member) (fewer.subset old)
        · exact once member
      rw [pushedOut, ih touched others later]
      rw [capacity_touch] at still ⊢
      rcases ordered.members_touch key with
        ⟨nothing, members⟩ | ⟨evicted, tail, pushed, -, full, first, members⟩
      · rw [kept] at members
        rw [members, List.length_append, List.length_singleton] at size
        rw [nothing, members, ← size, before, Option.toList_none, List.nil_append,
          List.append_assoc, List.singleton_append, List.length_cons,
          Nat.add_assoc, Nat.add_comm 1]
      · rw [first, List.length_cons] at before
        rw [members, List.length_append, List.length_singleton] at size
        have left : (index.touch key).2.size + rest.length - index.capacity = rest.length := by
          omega
        have all : index.size + (key :: rest).length - index.capacity = rest.length + 1 := by
          rw [List.length_cons]
          omega
        rw [pushed, members, first, left, all, List.append_assoc, List.singleton_append,
          List.cons_append, List.take_succ_cons]
        rfl

/-- As many new keys as there is room for push all keys out, the one used longest ago first. -/
theorem Ordered.pushedOut_of_capacity (ordered : index.Ordered) {fresh : List Nat}
    (distinct : fresh.Nodup) (new : ∀ key ∈ fresh, index.contains key = false)
    (many : fresh.length = index.capacity) : index.pushedOut fresh = index.members := by
  have absent : ∀ key ∈ fresh, key ∉ index.members := by
    intro key member there
    rw [mem_members ordered.toPaired, new key member] at there
    cases there
  rw [ordered.pushedOut_eq distinct absent, many, Nat.add_sub_cancel, ← ordered.length_members,
    List.take_left]

end Recency

end TableCache
