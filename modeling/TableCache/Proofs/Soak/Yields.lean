import TableCache.Soak.Consumer

/-!
# When a consumer yields

A consumer does not count its look-ups. It yields whenever its cursor comes to a multiple of
sixty-four, and the cursor moves on by seven. Nine times seven is one less than sixty-four, so nine
times the cursor falls by one with every look-up, up to multiples of sixty-four: what is left of it
are the look-ups up to the next yield. The number of words is a multiple of sixty-four too, so a
cursor that wraps around loses none of them and gains none.

Main definitions:

1. `lookupsLeft`: how many look-ups are left up to the next yield;
2. `Lap`, `laps`: what a consumer does with the directories that it finds.

Main statements:

1. `yieldsAt_advance_iff`, `lookupsLeft_advance`: what one look-up does;
2. `getElem?_laps`: what a consumer does in each lap, and when it yields;
3. `turn_eq`: a turn takes the look-ups that are left.
-/

namespace TableCache.Soak.Consumer

variable {directory : List Nat} {cursor keyId : Nat}

/-! ## Look-ups up to a yield -/

/-- How many look-ups are left up to the next yield. -/
def lookupsLeft (cursor : Nat) : Nat := (9 * cursor + 63) % 64 + 1

theorem lookupsLeft_pos (cursor : Nat) : 0 < lookupsLeft cursor := Nat.succ_pos _

theorem lookupsLeft_le (cursor : Nat) : lookupsLeft cursor ≤ 64 :=
  Nat.succ_le_of_lt (Nat.mod_lt _ (by decide))

/-- Wrapping around does not matter to yields. -/
theorem advance_mod (cursor : Nat) : advance cursor % 64 = (cursor + stride) % 64 :=
  Nat.mod_mod_of_dvd _ (by decide : 64 ∣ Word.limit)

/-- A consumer that has just yielded has a whole turn before it. -/
theorem lookupsLeft_of_yieldsAt (yields : yieldsAt cursor = true) : lookupsLeft cursor = 64 := by
  have multiple : cursor % 64 = 0 := of_decide_eq_true yields
  rw [lookupsLeft]
  omega

/-- A consumer yields after the last look-up that was left. -/
theorem yieldsAt_advance_iff : yieldsAt (advance cursor) = true ↔ lookupsLeft cursor = 1 := by
  rw [yieldsAt, decide_eq_true_iff, advance_mod, lookupsLeft, stride]
  omega

/-- Every other look-up leaves one less. -/
theorem lookupsLeft_advance (keeps : yieldsAt (advance cursor) = false) :
    lookupsLeft cursor = lookupsLeft (advance cursor) + 1 := by
  have moved := advance_mod cursor
  have further : advance cursor % 64 ≠ 0 := of_decide_eq_false keeps
  rw [lookupsLeft, lookupsLeft]
  rw [stride] at moved
  omega

/-! ## Laps of the loop -/

/-- What a consumer does in one lap of its loop: it sleeps, because nothing is published, or it
looks a key up, and yields after that or goes on. -/
inductive Lap where
  | sleep
  | lookup (keyId : Nat) (yields : Bool)
  deriving DecidableEq, Repr

namespace Lap

/-- The key that is looked up. -/
def keyId? : Lap → Option Nat
  | .sleep => none
  | .lookup keyId _ => some keyId

/-- Whether the consumer goes on to the next lap without a pause. -/
def goesOn : Lap → Bool
  | .sleep => false
  | .lookup _ yields => !yields

end Lap

/-- A lap with the directory that the consumer finds. -/
def lap (directory : List Nat) (cursor : Nat) : Lap :=
  match pick directory cursor with
  | none => .sleep
  | some keyId => .lookup keyId (yieldsAt (advance cursor))

/-- The cursor after a lap. -/
def follow (directory : List Nat) (cursor : Nat) : Nat :=
  match pick directory cursor with
  | none => cursor
  | some _ => advance cursor

/-- The laps of a consumer that is not cancelled, with the directories that it finds one after the
other. -/
def laps : List (List Nat) → Nat → List Lap
  | [], _ => []
  | directory :: rest, cursor => lap directory cursor :: laps rest (follow directory cursor)

/-- The cursor after some laps. -/
def followAll : List (List Nat) → Nat → Nat
  | [], cursor => cursor
  | directory :: rest, cursor => followAll rest (follow directory cursor)

/-- Where something is published there is a key to be looked up. -/
theorem exists_pick (published : directory ≠ []) (cursor : Nat) :
    ∃ keyId, pick directory cursor = some keyId := by
  have room : cursor % directory.length < directory.length :=
    Nat.mod_lt _ (List.length_pos_iff.2 published)
  exact ⟨directory[cursor % directory.length], List.getElem?_eq_getElem room⟩

theorem lap_of_pick (picked : pick directory cursor = some keyId) :
    lap directory cursor = .lookup keyId (yieldsAt (advance cursor)) := by
  rw [lap, picked]

theorem follow_of_pick (picked : pick directory cursor = some keyId) :
    follow directory cursor = advance cursor := by
  rw [follow, picked]

/-- A lap after which a consumer goes on leaves one look-up less. -/
theorem lookupsLeft_follow (goesOn : (lap directory cursor).goesOn = true) :
    lookupsLeft cursor = lookupsLeft (follow directory cursor) + 1 := by
  cases picked : pick directory cursor with
  | none =>
      rw [lap, picked] at goesOn
      cases goesOn
  | some keyId =>
      rw [lap_of_pick picked] at goesOn
      rw [follow_of_pick picked]
      have keeps : (!yieldsAt (advance cursor)) = true := goesOn
      rw [Bool.not_eq_true'] at keeps
      exact lookupsLeft_advance keeps

/-- A consumer that always finds something published looks a key up in every lap. It yields after
the look-ups that were left, and then after every sixty-four. A look-up that yields begins a new
turn, so one turn less is counted from there. -/
theorem getElem?_laps {directories : List (List Nat)} (published : [] ∉ directories)
    {cursor number : Nat} (inside : number < directories.length) :
    ∃ keyId yields, (laps directories cursor)[number]? = some (.lookup keyId yields) ∧
      (yields = true ↔ ∃ turns, number + 1 = lookupsLeft cursor + 64 * turns) := by
  induction directories generalizing cursor number with
  | nil => exact absurd inside (Nat.not_lt_zero number)
  | cons directory rest ih =>
      rw [List.mem_cons, not_or] at published
      obtain ⟨keyId, picked⟩ := exists_pick (Ne.symm published.1) cursor
      have positive := lookupsLeft_pos cursor
      rw [laps, lap_of_pick picked, follow_of_pick picked]
      cases number with
      | zero =>
          refine ⟨keyId, yieldsAt (advance cursor), rfl, ?_⟩
          rw [yieldsAt_advance_iff]
          constructor
          · intro last
            exact ⟨0, by omega⟩
          · rintro ⟨turns, first⟩
            omega
      | succ number =>
          obtain ⟨other, later, there, counted⟩ :=
            @ih published.2 (advance cursor) number (Nat.lt_of_succ_lt_succ inside)
          refine ⟨other, later, there, counted.trans ?_⟩
          cases yields : yieldsAt (advance cursor) with
          | true =>
              have last := yieldsAt_advance_iff.1 yields
              have whole := lookupsLeft_of_yieldsAt yields
              constructor
              · rintro ⟨turns, number⟩
                exact ⟨turns + 1, by omega⟩
              · rintro ⟨turns, number⟩
                exact ⟨turns - 1, by omega⟩
          | false =>
              have less := lookupsLeft_advance yields
              constructor
              · rintro ⟨turns, number⟩
                exact ⟨turns, by omega⟩
              · rintro ⟨turns, number⟩
                exact ⟨turns, by omega⟩

/-! ## Turns -/

/-- On the way to the next yield a consumer does not yield. -/
theorem yieldsAt_after_iff {count : Nat} (positive : 0 < count)
    (early : count ≤ lookupsLeft cursor) :
    yieldsAt (after count cursor) = true ↔ count = lookupsLeft cursor := by
  induction count generalizing cursor with
  | zero => exact absurd positive (Nat.lt_irrefl 0)
  | succ count ih =>
      rw [after]
      cases count with
      | zero => rw [after, yieldsAt_advance_iff, eq_comm]
      | succ count =>
          have keeps : yieldsAt (advance cursor) = false := by
            rw [Bool.eq_false_iff, ne_eq, yieldsAt_advance_iff]
            omega
          have less := lookupsLeft_advance keeps
          rw [ih (Nat.succ_pos count) (by omega), less, Nat.succ_inj]

/-- A turn takes the look-ups that are left. -/
theorem turn_eq (cursor : Nat) : turn cursor = lookupsLeft cursor := by
  have positive := lookupsLeft_pos cursor
  have found : (List.range' 1 64).find? (fun count => yieldsAt (after count cursor)) =
      some (lookupsLeft cursor) := by
    refine List.find?_range'_eq_some.2 ⟨?_, ?_, fun count from_one before => ?_⟩
    · exact (yieldsAt_after_iff positive (Nat.le_refl _)).2 rfl
    · exact List.mem_range'_1.2 ⟨positive, Nat.lt_add_one_of_le (lookupsLeft_le cursor)⟩
    · rw [Bool.not_eq_true', Bool.eq_false_iff, ne_eq,
        yieldsAt_after_iff from_one (Nat.le_of_lt before)]
      exact Nat.ne_of_lt before
  rw [turn, found, Option.getD_some]

end TableCache.Soak.Consumer
