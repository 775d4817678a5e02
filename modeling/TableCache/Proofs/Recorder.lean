import Mathlib.Algebra.GroupWithZero.Nat
import TableCache.Statistics.Recorder

/-!
# What a recorder has been told

The counters of a recorder are behind by the clearances that still wait. `Recorder.totals` is what
the counters come to once those are counted as well. As long as the totals are words, every
operation of a recorder succeeds and changes the totals by what it records and by nothing else;
draining does not change them at all.

Main statements:

1. `totals_post`: a clearance counts from the time it is posted;
2. `drain_eq`, `snapshot_eq`: draining brings the counters to the totals;
3. `recordPut_eq`, `recordAccess_ok`: a put and a look-up.
-/

namespace TableCache

/-! ## Tallies -/

namespace Statistics

@[ext]
theorem ext {first second : Statistics} (same : first.toList = second.toList) : first = second := by
  rw [← Option.some.injEq, ← ofList?_toList first, ← ofList?_toList second, same]

/-- Two tallies taken together. -/
def plus (first second : Statistics) : Statistics where
  tablesCached := first.tablesCached + second.tablesCached
  tablesReclaimed := first.tablesReclaimed + second.tablesReclaimed
  recentReclaimed := first.recentReclaimed + second.recentReclaimed
  rowsReclaimed := first.rowsReclaimed + second.rowsReclaimed
  accesses := first.accesses + second.accesses
  hardHits := first.hardHits + second.hardHits
  softHits := first.softHits + second.softHits
  weakHits := first.weakHits + second.weakHits
  misses := first.misses + second.misses

/-- One put. -/
def onePut : Statistics := { zero with tablesCached := 1 }

/-- One look-up of a class. -/
def oneAccess (access : Access) : Statistics :=
  { zero with
    accesses := 1
    hardHits := if access = .hardHit then 1 else 0
    softHits := if access = .softHit then 1 else 0
    weakHits := if access = .weakHit then 1 else 0
    misses := if access = .miss then 1 else 0 }

/-- Some clearances. -/
def ofClearances (clearances : List Clearance) : Statistics :=
  { zero with
    tablesReclaimed := clearances.length
    recentReclaimed := clearances.countP Clearance.recentlyUsed
    rowsReclaimed := (clearances.map Clearance.rows).sum }

/-- Every count is a word. -/
def Fits (statistics : Statistics) : Prop := ∀ count ∈ statistics.toList, count < Word.limit

/-- Every look-up is in one class. -/
def Balanced (statistics : Statistics) : Prop :=
  statistics.accesses =
    statistics.hardHits + statistics.softHits + statistics.weakHits + statistics.misses

theorem fits_iff {statistics : Statistics} :
    statistics.Fits ↔
      statistics.tablesCached < Word.limit ∧ statistics.tablesReclaimed < Word.limit ∧
      statistics.recentReclaimed < Word.limit ∧ statistics.rowsReclaimed < Word.limit ∧
      statistics.accesses < Word.limit ∧ statistics.hardHits < Word.limit ∧
      statistics.softHits < Word.limit ∧ statistics.weakHits < Word.limit ∧
      statistics.misses < Word.limit := by
  simp [Fits, toList]

instance (statistics : Statistics) : Decidable statistics.Fits :=
  inferInstanceAs (Decidable (∀ count ∈ statistics.toList, count < Word.limit))

/-- A tally fits if it fits together with another. -/
theorem Fits.of_plus {first second : Statistics} (fits : (first.plus second).Fits) :
    first.Fits := by
  rw [fits_iff] at fits ⊢
  simp only [plus] at fits
  omega

@[simp]
theorem plus_zero (statistics : Statistics) : statistics.plus zero = statistics := rfl

@[simp]
theorem zero_plus (statistics : Statistics) : zero.plus statistics = statistics := by
  apply ext
  simp [plus, zero, toList]

theorem plus_assoc (first second third : Statistics) :
    (first.plus second).plus third = first.plus (second.plus third) := by
  apply ext
  simp [plus, toList, Nat.add_assoc]

theorem plus_right_comm (first second third : Statistics) :
    (first.plus second).plus third = (first.plus third).plus second := by
  apply ext
  simp [plus, toList, Nat.add_right_comm]

theorem ofClearances_append (first second : List Clearance) :
    ofClearances (first ++ second) = (ofClearances first).plus (ofClearances second) := by
  apply ext
  simp [ofClearances, plus, toList, zero]

theorem Balanced.plus {first second : Statistics} (one : first.Balanced) (other : second.Balanced) :
    (first.plus second).Balanced := by
  unfold Balanced at *
  simp only [Statistics.plus]
  omega

theorem balanced_oneAccess (access : Access) : (oneAccess access).Balanced := by
  cases access <;> rfl

theorem isConsistent?_of_balanced {statistics : Statistics} (fits : statistics.Fits)
    (balanced : statistics.Balanced) : statistics.isConsistent? = some true := by
  rw [fits_iff] at fits
  unfold Balanced at balanced
  have two : Word.add? statistics.hardHits statistics.softHits =
      some (statistics.hardHits + statistics.softHits) :=
    Word.add?_eq_some_iff.2 ⟨rfl, by omega⟩
  have three : Word.add? (statistics.hardHits + statistics.softHits) statistics.weakHits =
      some (statistics.hardHits + statistics.softHits + statistics.weakHits) :=
    Word.add?_eq_some_iff.2 ⟨rfl, by omega⟩
  have four : Word.add? (statistics.hardHits + statistics.softHits + statistics.weakHits)
      statistics.misses = some statistics.accesses :=
    Word.add?_eq_some_iff.2 ⟨balanced.symm, by omega⟩
  simp [isConsistent?, hits?, two, three, four]

end Statistics

/-! ## Totals -/

namespace Recorder

/-- What the counters come to once every waiting clearance is counted. -/
def totals (recorder : Recorder) : Statistics :=
  recorder.counters.plus (.ofClearances recorder.pending)

theorem totals_post (recorder : Recorder) (clearances : List Clearance) :
    (recorder.post clearances).totals = recorder.totals.plus (.ofClearances clearances) := by
  simp only [totals, post, Statistics.ofClearances_append, Statistics.plus_assoc]

theorem countRows_eq {counters : Statistics} {clearance : Clearance}
    (rows : counters.rowsReclaimed + clearance.rows < Word.limit)
    (recent : counters.recentReclaimed + (if clearance.recentlyUsed then 1 else 0) < Word.limit) :
    countRows counters clearance =
      (.ok (),
        { counters with
          recentReclaimed := counters.recentReclaimed + if clearance.recentlyUsed then 1 else 0
          rowsReclaimed := counters.rowsReclaimed + clearance.rows }) := by
  have moreRows := Word.add?_eq_some_iff.2 ⟨rfl, rows⟩
  unfold countRows
  rw [moreRows]
  cases used : clearance.recentlyUsed with
  | false => simp
  | true =>
      rw [used] at recent
      have moreRecent := Word.add?_eq_some_iff.2 ⟨rfl, recent⟩
      simp only [if_true] at moreRecent ⊢
      rw [moreRecent]

theorem countAll_eq {clearances : List Clearance} {counters : Statistics}
    (rows : counters.rowsReclaimed + (clearances.map Clearance.rows).sum < Word.limit)
    (recent : counters.recentReclaimed + clearances.countP Clearance.recentlyUsed < Word.limit) :
    countAll clearances counters =
      (.ok clearances.length,
        { counters with
          recentReclaimed := counters.recentReclaimed + clearances.countP Clearance.recentlyUsed
          rowsReclaimed := counters.rowsReclaimed + (clearances.map Clearance.rows).sum },
        []) := by
  induction clearances generalizing counters with
  | nil => rfl
  | cons clearance rest ih =>
      rw [List.map_cons, List.sum_cons] at rows
      rw [List.countP_cons] at recent
      have oneRows : counters.rowsReclaimed + clearance.rows < Word.limit := by omega
      have oneRecent : counters.recentReclaimed + (if clearance.recentlyUsed then 1 else 0) <
          Word.limit := by omega
      rw [countAll, countRows_eq oneRows oneRecent]
      simp only
      rw [ih (by simp only; omega) (by simp only; omega)]
      simp only [List.map_cons, List.sum_cons, List.countP_cons, List.length_cons, Except.map,
        Nat.add_assoc, Nat.add_comm, Nat.add_left_comm]

/-- Draining brings the counters to the totals. -/
theorem drain_eq {recorder : Recorder} (fits : recorder.totals.Fits) :
    recorder.drain =
      .ok { recorder with counters := recorder.totals, pending := [] }
        recorder.pending.length := by
  rw [Statistics.fits_iff] at fits
  simp only [totals, Statistics.plus, Statistics.ofClearances] at fits
  have rows : recorder.counters.rowsReclaimed + (recorder.pending.map Clearance.rows).sum <
      Word.limit := by omega
  have recent : recorder.counters.recentReclaimed +
      recorder.pending.countP Clearance.recentlyUsed < Word.limit := by omega
  have tables : Word.add? recorder.counters.tablesReclaimed recorder.pending.length =
      some (recorder.counters.tablesReclaimed + recorder.pending.length) :=
    Word.add?_eq_some_iff.2 ⟨rfl, by omega⟩
  unfold drain
  rw [countAll_eq rows recent]
  simp only [tables]
  rfl

theorem snapshot_eq {recorder : Recorder} (fits : recorder.totals.Fits) :
    recorder.snapshot =
      .ok { recorder with counters := recorder.totals, pending := [] } recorder.totals := by
  rw [snapshot, drain_eq fits, Reply.andThen_ok]

theorem recordPut_eq {recorder : Recorder} (fits : (recorder.totals.plus .onePut).Fits) :
    recorder.recordPut = .ok { recorder with counters := recorder.counters.plus .onePut } () := by
  rw [Statistics.fits_iff] at fits
  simp only [totals, Statistics.plus, Statistics.ofClearances, Statistics.onePut] at fits
  have more : Word.add? recorder.counters.tablesCached 1 =
      some (recorder.counters.tablesCached + 1) :=
    Word.add?_eq_some_iff.2 ⟨rfl, by omega⟩
  unfold recordPut
  rw [more]
  rfl

theorem countAccess_eq {counters : Statistics} {access : Access}
    (fits : (counters.plus (.oneAccess access)).Fits) :
    countAccess counters access =
      (.ok (counters.plus (.oneAccess access)), counters.plus (.oneAccess access)) := by
  rw [Statistics.fits_iff] at fits
  simp only [Statistics.plus, Statistics.oneAccess] at fits
  have more : Word.add? counters.accesses 1 = some (counters.accesses + 1) :=
    Word.add?_eq_some_iff.2 ⟨rfl, by omega⟩
  have another : Word.add? (counters.count access) 1 = some (counters.count access + 1) := by
    refine Word.add?_eq_some_iff.2 ⟨rfl, ?_⟩
    cases access <;> simp [Statistics.count] at fits ⊢ <;> omega
  have same : ({ counters with accesses := counters.accesses + 1 } : Statistics).count access =
      counters.count access := by
    cases access <;> rfl
  unfold countAccess
  simp only [more, same, another]
  cases access <;> rfl

/-- Reporting leaves the counters alone, and balanced counters can always be reported. -/
theorem emit?_ok {recorder : Recorder} (fits : recorder.counters.Fits)
    (balanced : recorder.counters.Balanced) (now : Nat) :
    (∃ emitted, (recorder.emit? now).result = .ok emitted) ∧
      (recorder.emit? now).state.counters = recorder.counters ∧
      (recorder.emit? now).state.pending = recorder.pending := by
  unfold emit?
  split
  next => exact ⟨⟨none, rfl⟩, rfl, rfl⟩
  next =>
    simp only [Statistics.isConsistent?_of_balanced fits balanced]
    exact ⟨⟨_, rfl⟩, rfl, rfl⟩

/-- A look-up counts for its class and for nothing else. -/
theorem recordAccess_ok {recorder : Recorder} {access : Access}
    (fits : (recorder.totals.plus (.oneAccess access)).Fits) (balanced : recorder.totals.Balanced)
    (now : Nat) :
    (∃ emitted, (recorder.recordAccess access now).result = .ok emitted) ∧
      (recorder.recordAccess access now).state.totals =
        recorder.totals.plus (.oneAccess access) := by
  let counted : Recorder := { recorder with counters := recorder.counters.plus (.oneAccess access) }
  have totals : counted.totals = recorder.totals.plus (.oneAccess access) :=
    Statistics.plus_right_comm _ _ _
  have early := fits
  rw [Recorder.totals, Statistics.plus_right_comm] at early
  let drained : Recorder := { counted with counters := counted.totals, pending := [] }
  have words : drained.counters.Fits := by
    show counted.totals.Fits
    rw [totals]
    exact fits
  have even : drained.counters.Balanced := by
    show counted.totals.Balanced
    rw [totals]
    exact balanced.plus (Statistics.balanced_oneAccess access)
  have drain : counted.drain = .ok drained counted.pending.length := drain_eq words
  unfold recordAccess
  simp only [countAccess_eq early.of_plus]
  rw [drain, Reply.andThen_ok]
  obtain ⟨reported, counters, pending⟩ := emit?_ok words even now
  refine ⟨reported, ?_⟩
  rw [Recorder.totals, counters, pending]
  exact totals

end Recorder

end TableCache
