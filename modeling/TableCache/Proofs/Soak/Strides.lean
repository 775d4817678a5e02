import Mathlib.Data.List.Count
import Mathlib.Data.List.Perm.Subperm
import Mathlib.Data.Nat.ModEq
import Mathlib.Data.Nat.Prime.Basic
import TableCache.Proofs.Numbered
import TableCache.Soak.Consumer

/-!
# Reading a directory in strides

A consumer moves on by seven places round a directory. Whether it comes to every place in as many
look-ups as there are places depends on the number of places alone. If seven does not divide it, a
stride is as good as a step. If it does, the consumer stays on the places that leave its remainder,
and comes to each of them seven times.

Main statements:

1. `reads_eq`: the places that are read;
2. `perm_reads`: every key is read once if seven does not divide their number;
3. `count_reads`: one key in seven is read seven times if it does.
-/

namespace TableCache.Soak.Consumer

universe u

/-! ## Going round -/

/-- Strides that have no divisor in common with the way round come to every place. -/
theorem perm_range_of_coprime {step length : Nat} (coprime : step.Coprime length) (start : Nat) :
    ((List.range length).map fun count => (start + step * count) % length).Perm
      (List.range length) := by
  have distinct :
      ((List.range length).map fun count => (start + step * count) % length).Nodup := by
    refine List.Nodup.map_on (fun first before second after same => ?_) List.nodup_range
    have same : start + step * first ≡ start + step * second [MOD length] := same
    have strides := Nat.ModEq.add_left_cancel' start same
    have counts := Nat.ModEq.cancel_left_of_coprime coprime.symm strides
    exact counts.eq_of_lt_of_lt (List.mem_range.1 before) (List.mem_range.1 after)
  refine (distinct.subperm fun place member => ?_).perm_of_length_le ?_
  · obtain ⟨count, there, rfl⟩ := List.mem_map.1 member
    exact List.mem_range.2 (Nat.mod_lt _ (Nat.zero_lt_of_lt (List.mem_range.1 there)))
  · rw [List.length_map]

/-- What comes again after every period comes in some periods as often as in one, times their
number. -/
theorem count_of_periodic {α : Type u} [DecidableEq α] {place : Nat → α} {period : Nat}
    (periodic : ∀ count, place (count + period) = place count) (times : Nat) (sought : α) :
    ((List.range (times * period)).map place).count sought =
      times * ((List.range period).map place).count sought := by
  have later : ∀ times count, place (times * period + count) = place count := by
    intro times count
    induction times with
    | zero => rw [Nat.zero_mul, Nat.zero_add]
    | succ times ih => rw [Nat.succ_mul, Nat.add_right_comm, periodic, ih]
  induction times with
  | zero => rw [Nat.zero_mul, Nat.zero_mul]; rfl
  | succ times ih =>
      have last : (List.map (fun count => times * period + count) (List.range period)).map place =
          (List.range period).map place := by
        rw [List.map_map]
        exact List.map_congr_left fun count _ => later times count
      rw [Nat.succ_mul, List.range_add, List.map_append, List.count_append, ih, last, Nat.succ_mul]

/-! ## The places that are read -/

variable {directory : List Nat} {cursor position key : Nat}

/-- The places that some look-ups come to on their way round. -/
def places (length cursor count : Nat) : List Nat :=
  (List.range count).map fun step => (cursor + stride * step) % length

/-- What is read, as long as the cursor does not wrap around. -/
theorem reads_eq {count : Nat} (unwrapped : cursor + stride * (count - 1) < Word.limit) :
    reads directory count cursor =
      (places directory.length cursor count).filterMap fun place => directory[place]? := by
  induction count generalizing cursor with
  | zero => rfl
  | succ count ih =>
      have others : reads directory count (advance cursor) =
          (places directory.length (cursor + stride) count).filterMap
            fun place => directory[place]? := by
        cases count with
        | zero => rfl
        | succ count =>
            rw [Nat.add_sub_cancel] at unwrapped
            have room : cursor + stride < Word.limit := by
              rw [Nat.mul_succ] at unwrapped
              omega
            rw [advance, Word.wrapAdd, Nat.mod_eq_of_lt room]
            refine ih ?_
            rw [Nat.mul_succ] at unwrapped
            rw [Nat.add_sub_cancel]
            omega
      have split : places directory.length cursor (count + 1) =
          cursor % directory.length :: places directory.length (cursor + stride) count := by
        rw [places, List.range_succ_eq_map, List.map_cons, List.map_map]
        refine congrArg₂ List.cons (by rw [Nat.mul_zero, Nat.add_zero]) ?_
        refine List.map_congr_left fun step _ => ?_
        rw [Function.comp_apply, Nat.mul_succ, Nat.add_assoc, Nat.add_comm stride]
      rw [reads, others, split, List.filterMap_cons, pick]
      cases directory[cursor % directory.length]? <;> rfl

/-- Every key is read once if seven does not divide their number. -/
theorem perm_reads (indivisible : ¬stride ∣ directory.length)
    (unwrapped : cursor + stride * (directory.length - 1) < Word.limit) :
    (reads directory directory.length cursor).Perm directory := by
  have prime : Nat.Prime stride := Nat.prime_seven
  have round := perm_range_of_coprime (prime.coprime_iff_not_dvd.2 indivisible) cursor
  have all := Numbered.filterMap_range_getElem? directory some
  rw [List.filterMap_some] at all
  rw [reads_eq unwrapped]
  refine (round.filterMap _).trans (List.Perm.of_eq ?_)
  refine Eq.trans (List.filterMap_congr fun place _ => ?_) all
  exact (Option.bind_fun_some _).symm

/-- Among different keys a key is read as often as its place is come to. -/
theorem count_filterMap (distinct : directory.Nodup) (there : directory[position]? = some key)
    (visits : List Nat) :
    (visits.filterMap fun place => directory[place]?).count key = visits.count position := by
  have inside : position < directory.length := (List.getElem?_eq_some_iff.1 there).1
  induction visits with
  | nil => rfl
  | cons place rest ih =>
      rw [List.filterMap_cons, List.count_cons]
      cases found : directory[place]? with
      | none =>
          have different : place ≠ position := by
            rintro rfl
            rw [there] at found
            cases found
          simp only
          rw [ih, if_neg (by simpa using different), Nat.add_zero]
      | some other =>
          have same : other = key ↔ place = position := by
            rw [← Option.some.injEq, ← found, ← there, eq_comm, List.getElem?_inj inside distinct,
              eq_comm]
          simp only
          rw [List.count_cons, ih]
          simp only [beq_iff_eq, same]

/-- On one turn round a directory that seven divides, the cursor comes to the places with its own
remainder, once each: a stride moves the quotient by one and keeps the remainder. -/
theorem count_places (cursor : Nat) {lanes : Nat} (inside : position < stride * lanes) :
    (places (stride * lanes) cursor lanes).count position =
      if position % stride = cursor % stride then 1 else 0 := by
  have place : ∀ count, (cursor + stride * count) % (stride * lanes) =
      cursor % stride + stride * ((cursor / stride + 1 * count) % lanes) := by
    intro count
    rw [Nat.mod_mul, Nat.add_mul_mod_self_left, Nat.add_mul_div_left _ _ (by decide), Nat.one_mul]
  have lane := (perm_range_of_coprime (Nat.coprime_one_left lanes) (cursor / stride)).map
    fun quotient => cursor % stride + stride * quotient
  rw [List.map_map] at lane
  have visits : (places (stride * lanes) cursor lanes).Perm
      ((List.range lanes).map fun quotient => cursor % stride + stride * quotient) :=
    (List.Perm.of_eq (List.map_congr_left fun count _ => place count)).trans lane
  have different : ((List.range lanes).map
      fun quotient => cursor % stride + stride * quotient).Nodup := by
    refine List.Nodup.map (fun first second same => ?_) List.nodup_range
    exact Nat.eq_of_mul_eq_mul_left (by decide : 0 < stride) (Nat.add_left_cancel same)
  rw [visits.count_eq, different.count]
  refine if_congr ?_ rfl rfl
  rw [List.mem_map]
  constructor
  · rintro ⟨quotient, -, rfl⟩
    rw [Nat.add_mul_mod_self_left, Nat.mod_mod]
  · intro same
    refine ⟨position / stride, List.mem_range.2 (Nat.div_lt_of_lt_mul inside), ?_⟩
    rw [← same]
    exact Nat.mod_add_div position stride

/-- One key in seven is read seven times, and the others are not read, if seven divides their
number: the cursor keeps its remainder. -/
theorem count_reads (distinct : directory.Nodup) (divides : stride ∣ directory.length)
    (unwrapped : cursor + stride * (directory.length - 1) < Word.limit)
    (there : directory[position]? = some key) :
    (reads directory directory.length cursor).count key =
      if position % stride = cursor % stride then stride else 0 := by
  obtain ⟨lanes, length⟩ := divides
  have inside : position < stride * lanes := length ▸ (List.getElem?_eq_some_iff.1 there).1
  have periodic : ∀ count, (cursor + stride * (count + lanes)) % (stride * lanes) =
      (cursor + stride * count) % (stride * lanes) := by
    intro count
    rw [Nat.mul_add, ← Nat.add_assoc, Nat.add_mod_right]
  have once := count_places cursor inside
  rw [places] at once
  rw [reads_eq unwrapped, count_filterMap distinct there, places, length,
    count_of_periodic periodic, once]
  split
  next => exact Nat.mul_one stride
  next => exact Nat.mul_zero stride

end TableCache.Soak.Consumer
