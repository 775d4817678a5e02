import TableCache.Exposition.Exporter
import TableCache.Proofs.Growth

/-!
# The exporter shows what the engine counted

An exposed counter grows at every observation by what the cache counted since the last one. Over
many observations that adds up to the increases from one to the next, in words. If the counters that
are observed never go back, the increases add up to the last observation, so it makes no difference
how many were made before it. The counters of an engine never go back.

Main definitions:

1. `Exporter.Series`: the counters that are exposed, and `Exporter.exposed`, their values;
2. `Exporter.observeAll`: some observations, one after the other;
3. `Exporter.increase`: what some values increase by in all, decreases left out.

Main statements:

1. `exposed_observe`, `exposed_observeAll`: one observation, and any number of them;
2. `increase_of_ordered`: values that never go back;
3. `exporter_mirrors_the_engine`: what is exposed after the snapshots of an engine.
-/

namespace TableCache

universe u

/-! ## Maps that show the same -/

namespace Assoc

variable {κ : Type u} {α : Type u} [DecidableEq κ]

theorem pairs_eq_map_keys (map : Assoc κ α) :
    map.pairs.map (fun pair => (pair.1, some pair.2)) =
      map.keys.map fun key => (key, map.find? key) := by
  rw [keys, List.map_map]
  refine List.map_congr_left fun pair member => ?_
  rw [Function.comp_apply, mem_pairs_iff.1 member]

/-- Maps with the same keys in one order show the same only if they are the same. -/
theorem eq_of_keys {first second : Assoc κ α} (keys : first.keys = second.keys)
    (same : ∀ key, first.find? key = second.find? key) : first = second := by
  have shown := first.pairs_eq_map_keys
  rw [keys, funext same, ← second.pairs_eq_map_keys] at shown
  refine ext (List.map_injective_iff.2 (fun one other equal => ?_) shown)
  obtain ⟨key, value⟩ := Prod.mk.inj equal
  exact Prod.ext key (Option.some.inj value)

end Assoc

namespace Exporter

/-! ## Series -/

/-- The counters that are exposed. -/
inductive Series where
  | tablesCached
  | tablesReclaimed
  | rowsReclaimed
  | accesses (access : Access)
  deriving DecidableEq, Repr

/-- What a series is in the counters of a cache. -/
def Series.of (statistics : Statistics) : Series → Nat
  | .tablesCached => statistics.tablesCached
  | .tablesReclaimed => statistics.tablesReclaimed
  | .rowsReclaimed => statistics.rowsReclaimed
  | .accesses access => statistics.count access

/-- The exposed value of a series. -/
def exposed (exporter : Exporter) : Series → Nat
  | .tablesCached => exporter.tablesCached
  | .tablesReclaimed => exporter.tablesReclaimed
  | .rowsReclaimed => exporter.rowsReclaimed
  | .accesses access => exporter.accessCount access

theorem Series.of_le {first second : Statistics} (le : first.Le second) (series : Series) :
    series.of first ≤ series.of second := by
  have all := Statistics.le_iff.1 le
  rcases series with _ | _ | _ | (_ | _ | _ | _) <;> simp only [of, Statistics.count] <;> omega

theorem Series.of_lt {statistics : Statistics} (fits : statistics.Fits) (series : Series) :
    series.of statistics < Word.limit := by
  have all := Statistics.fits_iff.1 fits
  rcases series with _ | _ | _ | (_ | _ | _ | _) <;> simp only [of, Statistics.count] <;> omega

/-! ## One observation -/

variable {exporter : Exporter} {counters : Statistics} {occupancy : Occupancy}

theorem find?_advanceAccess (counters last : Statistics) (accesses : Assoc Access Nat)
    (access other : Access) :
    (advanceAccess counters last accesses access).find? other =
      if other = access then
        some (Word.wrapAdd ((accesses.find? access).getD 0)
          (counters.count access - last.count access))
      else accesses.find? other :=
  Assoc.find?_insert accesses access other _

theorem find?_observe (exporter : Exporter) (counters : Statistics) (occupancy : Occupancy)
    (access : Access) :
    (exporter.observe counters occupancy).accesses.find? access =
      some (Word.wrapAdd (exporter.accessCount access)
        (counters.count access - exporter.last.count access)) := by
  cases access <;> simp [observe, Access.all, find?_advanceAccess, accessCount]

/-- An observation adds to a series what it increased by since the last one. -/
theorem exposed_observe (exporter : Exporter) (counters : Statistics) (occupancy : Occupancy)
    (series : Series) :
    (exporter.observe counters occupancy).exposed series =
      Word.wrapAdd (exporter.exposed series) (series.of counters - series.of exporter.last) := by
  cases series with
  | accesses access => rw [exposed, accessCount, find?_observe]; rfl
  | _ => rfl

theorem keys_advanceAccess (counters last : Statistics) (accesses : Assoc Access Nat)
    (access : Access) :
    (advanceAccess counters last accesses access).keys =
      if access ∈ accesses.keys then accesses.keys else accesses.keys ++ [access] := by
  split
  next known => exact Assoc.keys_insert_of_contains (Assoc.contains_iff_mem_keys.2 known)
  next unknown =>
    refine Assoc.keys_insert_of_not_contains (Bool.eq_false_iff.2 fun known => unknown ?_)
    exact Assoc.contains_iff_mem_keys.1 known

/-- The look-ups of all classes are exposed from the first observation on, in a fixed order. -/
theorem keys_observe (known : exporter.accesses.keys = [] ∨ exporter.accesses.keys = Access.all)
    (counters : Statistics) (occupancy : Occupancy) :
    (exporter.observe counters occupancy).accesses.keys = Access.all := by
  rcases known with none | all <;> simp [observe, Access.all, keys_advanceAccess, *]

/-! ## Many observations -/

/-- Some observations, one after the other. -/
def observeAll (exporter : Exporter) (observed : List (Statistics × Occupancy)) : Exporter :=
  observed.foldl (fun exporter seen => exporter.observe seen.1 seen.2) exporter

/-- What values increase by in all, starting from a last one. Where they decrease nothing is
added. -/
def increase : Nat → List Nat → Nat
  | _, [] => 0
  | last, next :: rest => (next - last) + increase next rest

/-- Values that never go back increase to the last one. -/
theorem increase_of_ordered {last final : Nat} {values : List Nat}
    (ordered : (last :: values ++ [final]).Pairwise (· ≤ ·)) :
    last + increase last (values ++ [final]) = final := by
  induction values generalizing last with
  | nil =>
      have le : last ≤ final := by simpa using ordered
      simp [increase]
      omega
  | cons next rest ih =>
      obtain ⟨first, later⟩ := List.pairwise_cons.1 ordered
      have le : last ≤ next := first next (by simp)
      have rest := ih later
      simp only [List.cons_append, increase]
      omega

/-- What is exposed after some observations is what the counters increased by, in words. -/
theorem exposed_observeAll (observed : List (Statistics × Occupancy)) (exporter : Exporter)
    (series : Series) :
    (exporter.observeAll observed).exposed series % Word.limit =
      (exporter.exposed series +
        increase (series.of exporter.last) (observed.map fun seen => series.of seen.1)) %
          Word.limit := by
  induction observed generalizing exporter with
  | nil => rfl
  | cons seen rest ih =>
      have later := ih (exporter.observe seen.1 seen.2)
      rw [exposed_observe, Word.wrapAdd, Nat.mod_add_mod] at later
      rw [observeAll, List.foldl_cons]
      refine later.trans ?_
      simp only [List.map_cons, increase, Nat.add_assoc]
      rfl

theorem observeAll_concat (exporter : Exporter) (observed : List (Statistics × Occupancy))
    (counters : Statistics) (occupancy : Occupancy) :
    exporter.observeAll (observed ++ [(counters, occupancy)]) =
      (exporter.observeAll observed).observe counters occupancy := by
  rw [observeAll, List.foldl_append]
  rfl

theorem keys_observeAll (observed : List (Statistics × Occupancy)) :
    (fresh.observeAll observed).accesses.keys = [] ∨
      (fresh.observeAll observed).accesses.keys = Access.all := by
  induction observed using List.reverseRecOn with
  | nil => exact .inl rfl
  | append_singleton observed seen ih =>
      rw [observeAll_concat]
      exact .inr (keys_observe ih _ _)

theorem exposed_lt (observed : List (Statistics × Occupancy)) (series : Series) :
    (fresh.observeAll observed).exposed series < Word.limit := by
  induction observed using List.reverseRecOn with
  | nil => rcases series with _ | _ | _ | (_ | _ | _ | _) <;> decide
  | append_singleton observed seen _ =>
      rw [observeAll_concat, exposed_observe]
      exact Word.wrapAdd_lt _ _

theorem exposed_fresh (observed : List (Statistics × Occupancy)) (series : Series) :
    (fresh.observeAll observed).exposed series =
      increase 0 (observed.map fun seen => series.of seen.1) % Word.limit := by
  have start : fresh.exposed series = 0 ∧ series.of fresh.last = 0 := by
    rcases series with _ | _ | _ | (_ | _ | _ | _) <;> exact ⟨rfl, rfl⟩
  have sum := exposed_observeAll observed fresh series
  rwa [start.1, start.2, Nat.zero_add, Nat.mod_eq_of_lt (exposed_lt observed series)] at sum

/-- After counters that never went back a series is what it was at the last observation. -/
theorem exposed_of_ordered {observed : List (Statistics × Occupancy)}
    (ordered : (observed.map Prod.fst ++ [counters]).Pairwise Statistics.Le)
    (fits : counters.Fits) (occupancy : Occupancy) (series : Series) :
    (fresh.observeAll (observed ++ [(counters, occupancy)])).exposed series =
      series.of counters := by
  have values : (0 :: observed.map (fun seen => series.of seen.1) ++
      [series.of counters]).Pairwise (· ≤ ·) := by
    have mapped := ordered.map series.of fun _ _ le => series.of_le le
    rw [List.map_append, List.map_map] at mapped
    exact List.pairwise_cons.2 ⟨fun _ _ => Nat.zero_le _, mapped⟩
  have sum := increase_of_ordered values
  rw [Nat.zero_add] at sum
  rw [exposed_fresh, List.map_append, List.map_singleton, sum]
  exact Nat.mod_eq_of_lt (series.of_lt fits)

/-- No earlier observation makes a difference after counters that never went back. -/
theorem observeAll_of_ordered {observed : List (Statistics × Occupancy)}
    (ordered : (observed.map Prod.fst ++ [counters]).Pairwise Statistics.Le)
    (fits : counters.Fits) (occupancy : Occupancy) :
    fresh.observeAll (observed ++ [(counters, occupancy)]) =
      fresh.observe counters occupancy := by
  have single : (([] : List (Statistics × Occupancy)).map Prod.fst ++ [counters]).Pairwise
      Statistics.Le := List.pairwise_singleton _ _
  have one : ∀ series, (fresh.observe counters occupancy).exposed series = series.of counters :=
    exposed_of_ordered single fits occupancy
  have all := exposed_of_ordered ordered fits occupancy
  rw [observeAll_concat] at all ⊢
  have same : ∀ series, ((fresh.observeAll observed).observe counters occupancy).exposed series =
      (fresh.observe counters occupancy).exposed series := fun series =>
    (all series).trans (one series).symm
  have accesses : ((fresh.observeAll observed).observe counters occupancy).accesses =
      (fresh.observe counters occupancy).accesses := by
    refine Assoc.eq_of_keys ?_ fun access => ?_
    · rw [keys_observe (keys_observeAll observed), keys_observe (.inl rfl)]
    · have counted := same (.accesses access)
      simp only [exposed, accessCount, find?_observe, Option.getD_some] at counted
      rw [find?_observe, find?_observe]
      exact congrArg some counted
  have cached : _ = _ := same .tablesCached
  have reclaimed : _ = _ := same .tablesReclaimed
  have rows : _ = _ := same .rowsReclaimed
  unfold observe at accesses ⊢
  simp only [Exporter.mk.injEq, and_true]
  exact ⟨cached, reclaimed, rows, accesses⟩

theorem balanced_of_isConsistent? (consistent : counters.isConsistent? = some true) :
    counters.Balanced := by
  simp only [Statistics.isConsistent?, Statistics.hits?, bind, Option.bind_eq_some_iff,
    Word.add?_eq_some_iff, pure, Option.some.injEq, beq_iff_eq] at consistent
  obtain ⟨hits, ⟨found, ⟨rfl, -⟩, rfl, -⟩, classified, ⟨rfl, -⟩, balanced⟩ := consistent
  exact balanced

theorem toSigned_of_lt {word : Nat} (small : word < 2 ^ 63) : Word.toSigned word = word :=
  if_pos small

/-- The exporter mirrors an engine. The snapshots of an engine never go back. After observations of
counters that never go back every series is what it was at the last one, the look-ups of all classes
add up to the look-ups if the counters are consistent, the gauges show the last occupancy, and it is
as if no observation had been made before; in particular if the counters are snapshots of one
engine, some of them left out. After observations of any counters a series is what it increased by
in all, in words. -/
theorem exporter_mirrors_the_engine (Row : Type u) :
    (∀ (number : Nat) (acts : List (Act Row)),
      (System.snapshots number acts).Pairwise Statistics.Le ∧
        ∀ counters ∈ System.snapshots number acts, counters.Fits) ∧
    (∀ (observed : List (Statistics × Occupancy)) (counters : Statistics) (occupancy : Occupancy),
      (observed.map Prod.fst ++ [counters]).Pairwise Statistics.Le → counters.Fits →
      let exporter := fresh.observeAll (observed ++ [(counters, occupancy)])
      (∀ series, exporter.exposed series = series.of counters) ∧
        (counters.isConsistent? = some true →
          (Access.all.map exporter.accessCount).sum = counters.accesses) ∧
        ((∀ count ∈ occupancy.toList, count < 2 ^ 63) →
          exporter.entries = occupancy.entries ∧ exporter.strongEntries = occupancy.strong ∧
            exporter.recentEntries = occupancy.recent) ∧
        exporter = fresh.observe counters occupancy) ∧
    (∀ (number : Nat) (acts : List (Act Row)) (observed : List (Statistics × Occupancy))
        (counters : Statistics) (occupancy : Occupancy),
      (observed.map Prod.fst ++ [counters]).Sublist (System.snapshots number acts) →
      ∀ series, (fresh.observeAll (observed ++ [(counters, occupancy)])).exposed series =
        series.of counters) ∧
    ∀ (observed : List (Statistics × Occupancy)) (series : Series),
      (fresh.observeAll observed).exposed series =
        increase 0 (observed.map fun seen => series.of seen.1) % Word.limit := by
  refine ⟨System.snapshots_grow, ?_, ?_, exposed_fresh⟩
  · intro observed counters occupancy ordered fits exporter
    have exposed := exposed_of_ordered ordered fits occupancy
    refine ⟨exposed, fun consistent => ?_, fun small => ?_,
      observeAll_of_ordered ordered fits occupancy⟩
    · have classes : ∀ access, exporter.accessCount access = counters.count access :=
        fun access => exposed (.accesses access)
      have balanced := balanced_of_isConsistent? consistent
      simp only [Access.all, List.map_cons, List.map_nil, List.sum_cons, List.sum_nil, classes,
        Statistics.count]
      rw [balanced]
      omega
    · have gauges : exporter = (fresh.observeAll observed).observe counters occupancy :=
        observeAll_concat fresh observed counters occupancy
      simp only [Occupancy.toList, List.forall_mem_cons] at small
      rw [gauges]
      exact ⟨toSigned_of_lt small.1, toSigned_of_lt small.2.1, toSigned_of_lt small.2.2.1⟩
  · intro number acts observed counters occupancy taken series
    obtain ⟨ordered, fit⟩ := System.snapshots_grow number acts
    exact exposed_of_ordered (ordered.sublist taken)
      (fit counters (taken.subset (by simp))) occupancy series

/-- An engine that is asked for its statistics three times, before and after a pass. -/
def watched : List (Act Nat) :=
  [.createKey "a", .build ⟨1, 300⟩, .ask 0 (.put 1 [7, 8]), .ask 0 .statistics, .ask 0 (.get 1 5),
    .ask 0 (.clear 1 true), .dropHold ⟨0, 0⟩, .dropHold ⟨0, 0⟩, .reclaim 0 .full,
    .ask 0 .statistics, .ask 0 (.get 1 6), .ask 0 .statistics]

/-- Whether or not the snapshot in the middle is observed, the last one is exposed. -/
theorem exporter_mirrors_the_engine_watched :
    System.snapshots 0 watched =
        [⟨1, 0, 0, 0, 0, 0, 0, 0, 0⟩, ⟨1, 1, 1, 2, 1, 1, 0, 0, 0⟩, ⟨1, 1, 1, 2, 2, 1, 0, 0, 1⟩] ∧
      (fresh.observeAll [(⟨1, 0, 0, 0, 0, 0, 0, 0, 0⟩, ⟨1, 1, 1, 0⟩),
        (⟨1, 1, 1, 2, 2, 1, 0, 0, 1⟩, ⟨0, 0, 0, 0⟩)]).exposed .rowsReclaimed = 2 ∧
      fresh.observeAll [(⟨1, 0, 0, 0, 0, 0, 0, 0, 0⟩, ⟨1, 1, 1, 0⟩),
          (⟨1, 1, 1, 2, 1, 1, 0, 0, 0⟩, ⟨0, 0, 0, 0⟩),
          (⟨1, 1, 1, 2, 2, 1, 0, 0, 1⟩, ⟨0, 0, 0, 0⟩)] =
        fresh.observe ⟨1, 1, 1, 2, 2, 1, 0, 0, 1⟩ ⟨0, 0, 0, 0⟩ := by
  have answered : System.snapshots 0 watched =
      [⟨1, 0, 0, 0, 0, 0, 0, 0, 0⟩, ⟨1, 1, 1, 2, 1, 1, 0, 0, 0⟩,
        ⟨1, 1, 1, 2, 2, 1, 0, 0, 1⟩] := by decide
  obtain ⟨-, ordered, taken, -⟩ := exporter_mirrors_the_engine Nat
  refine ⟨answered, ?_, ?_⟩
  · exact taken 0 watched [(⟨1, 0, 0, 0, 0, 0, 0, 0, 0⟩, ⟨1, 1, 1, 0⟩)] _ ⟨0, 0, 0, 0⟩
      (by rw [answered]; decide) .rowsReclaimed
  · exact (ordered [(⟨1, 0, 0, 0, 0, 0, 0, 0, 0⟩, ⟨1, 1, 1, 0⟩),
      (⟨1, 1, 1, 2, 1, 1, 0, 0, 0⟩, ⟨0, 0, 0, 0⟩)] _ ⟨0, 0, 0, 0⟩ (by decide) (by decide)).2.2.2

end Exporter

end TableCache
