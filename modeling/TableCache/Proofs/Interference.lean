import TableCache.Proofs.System.Seen

/-!
# Engines do not interfere

The engines of a system draw ticks from one clock and watch the same keys. Still no engine can tell
what is done with another one: if all acts on the other engine are left out of a run, every act on
the engine is answered as before, with the same events, and the same tables with the same rows are
handed out. The two runs are compared by what is seen of both without the other engine. The clock of
the run with all acts is ahead, so its ticks have other names in the run without them.

Main statements:

1. `Alike.step`, `Alike.step_of_isOn`: an act that both runs take, and one that is left out;
2. `engines_do_not_interfere`: whatever else is done in the system.
-/

namespace TableCache

universe u

variable {Row : Type u}

/-- An act and what comes of it: its result, what was logged, and the rows of the table that was
handed out, if any. -/
structure Told (Row : Type u) where
  act : Act Row
  result : Except Fault Response
  events : List Event
  rows : List (List Row)
  deriving DecidableEq

/-- Whether an act is on what all engines share: on keys, or on the list of engines. -/
def Act.isShared : Act Row → Bool
  | .createKey _ | .shareKey _ | .dropKey _ | .build _ => true
  | _ => false

namespace System

/-- What comes of an act if it is on an engine, or on what all engines share. -/
def told (number : Nat) (system : System Row) (act : Act Row) : List (Told Row) :=
  if act.isOn number || act.isShared then
    let reply := system.step act
    [⟨act, reply.result, reply.events,
      (Hosted.given reply.result).map fun table => reply.state.rowsOf ⟨number, table⟩⟩]
  else []

/-- What came of all acts of a run that are on an engine or on what all engines share. -/
def toldBy (number : Nat) (acts : List (Act Row)) : List (Told Row) :=
  gather (told number) empty acts

/-- The acts of a run that are not on an engine. -/
def sparing (hidden : Nat) (acts : List (Act Row)) : List (Act Row) :=
  acts.filter fun act => !act.isOn hidden

/-- Two systems that look alike without one engine, if the ticks of the second get other names. -/
structure Alike (hidden : Nat) (tick : Nat → Nat) (full reduced : System Row) : Prop where
  renames : Renames tick reduced.host.clock
  same : full.seen (fun tick => tick) hidden = reduced.seen tick hidden

variable {number hidden : Nat} {tick : Nat → Nat} {full reduced : System Row} {act : Act Row}

namespace Alike

theorem rowsOf_eq (alike : Alike hidden tick full reduced) {hold : Hold}
    (different : hold.engine ≠ hidden) : full.rowsOf hold = reduced.rowsOf hold := by
  rw [← rowsOf_seen different full, alike.same, rowsOf_seen different]

theorem mem_holds_iff (alike : Alike hidden tick full reduced) {hold : Hold}
    (different : hold.engine ≠ hidden) : hold ∈ full.holds ↔ hold ∈ reduced.holds := by
  rw [← mem_holds_seen different full, alike.same, mem_holds_seen different]

/-- An act on anything else has the same outcome in both systems, and leaves them alike. -/
theorem step (alike : Alike hidden tick full reduced) (first : full.Wired) (second : reduced.Wired)
    (sound : reduced.Sound) (kept : act.isOn hidden = false) :
    (full.step act).result = (reduced.step act).result ∧
      (full.step act).events = (reduced.step act).events ∧
      Alike hidden tick (full.step act).state (reduced.step act).state := by
  have one := step_seen (.refl full.host.clock) first kept
  have two := step_seen alike.renames second kept
  rw [alike.same, two] at one
  obtain ⟨count, later⟩ := Nat.exists_eq_add_of_le (clock_step sound act)
  refine ⟨(congrArg Reply.result one).symm, (congrArg Reply.events one).symm, ?_,
    (congrArg Reply.state one).symm⟩
  rw [later]
  exact alike.renames.later count

/-- An act on the engine that is left out leaves a system alike, with ticks that are put off. -/
theorem step_of_isOn (alike : Alike hidden tick full reduced) (sound : full.Sound)
    (wired : full.Wired) (timed : full.Timed) (positive : 0 < full.host.clock)
    (on : act.isOn hidden = true) : ∃ next, Alike hidden next (full.step act).state reduced := by
  obtain ⟨count, later⟩ := Nat.exists_eq_add_of_le (clock_step sound act)
  have clock : full.host.clock = tick reduced.host.clock :=
    congrArg (fun system => system.host.clock) alike.same
  have renamed : Renames (putOff full.host.clock count) (tick reduced.host.clock) := by
    rw [← clock]
    exact .putOff positive count
  refine ⟨putOff full.host.clock count ∘ tick, renamed.comp alike.renames, ?_⟩
  calc (full.step act).state.seen (fun tick => tick) hidden
      = (full.seen (fun tick => tick) hidden).atTime (full.host.clock + count) := by
        rw [seen_step_of_isOn sound wired on, later]
    _ = full.seen (putOff full.host.clock count) hidden :=
        (seen_putOff timed sound count hidden).symm
    _ = (full.seen (fun tick => tick) hidden).seen (putOff full.host.clock count) hidden :=
        (seen_seen (fun tick => tick) (putOff full.host.clock count) hidden full).symm
    _ = reduced.seen (putOff full.host.clock count ∘ tick) hidden := by
        rw [alike.same, seen_seen]

/-- What comes of an act on another engine is the same. -/
theorem told_eq (alike : Alike hidden tick full reduced) (first : full.Wired)
    (second : reduced.Wired) (sound : reduced.Sound) (kept : act.isOn hidden = false)
    (different : number ≠ hidden) : reduced.told number act = full.told number act := by
  obtain ⟨result, events, next⟩ := alike.step first second sound kept
  have rows : ∀ table, (full.step act).state.rowsOf ⟨number, table⟩ =
      (reduced.step act).state.rowsOf ⟨number, table⟩ :=
    fun table => next.rowsOf_eq different
  unfold told
  simp only [result, events, rows]

end Alike

theorem told_of_isOn (different : number ≠ hidden) (system : System Row)
    (on : act.isOn hidden = true) : system.told number act = [] := by
  refine if_neg fun other => different ?_
  cases act <;> simp_all [Act.isOn, Act.isShared]

theorem sparing_concat (hidden : Nat) (acts : List (Act Row)) (act : Act Row) :
    sparing hidden (acts ++ [act]) =
      sparing hidden acts ++ if act.isOn hidden then [] else [act] := by
  rw [sparing, List.filter_append]
  cases on : act.isOn hidden <;> simp [sparing, on]

theorem toldBy_concat (number : Nat) (acts : List (Act Row)) (act : Act Row) :
    toldBy number (acts ++ [act]) = toldBy number acts ++ (after acts).told number act :=
  gather_concat _ empty acts act

/-- A run and the same run without the acts on one engine lead to systems that are alike. -/
theorem alike_after (hidden : Nat) (acts : List (Act Row)) :
    (∃ tick, Alike hidden tick (after acts) (after (sparing hidden acts))) ∧
      ∀ number, number ≠ hidden → toldBy number (sparing hidden acts) = toldBy number acts := by
  induction acts using List.reverseRecOn with
  | nil => exact ⟨⟨fun tick => tick, .refl _, rfl⟩, fun _ _ => rfl⟩
  | append_singleton acts act ih =>
      obtain ⟨⟨tick, alike⟩, same⟩ := ih
      rw [sparing_concat, after_concat]
      cases on : act.isOn hidden with
      | true =>
          rw [if_pos rfl, List.append_nil]
          refine ⟨alike.step_of_isOn (sound_after acts) (wired_after acts) (timed_after acts)
            (clock_pos acts) on, fun number different => ?_⟩
          rw [toldBy_concat, told_of_isOn different _ on, List.append_nil, same number different]
      | false =>
          have first := wired_after acts
          have second := wired_after (sparing hidden acts)
          have sound := sound_after (sparing hidden acts)
          rw [if_neg (by simp), after_concat]
          refine ⟨⟨tick, (alike.step first second sound on).2.2⟩, fun number different => ?_⟩
          rw [toldBy_concat, toldBy_concat, same number different,
            alike.told_eq first second sound on different]

/-- Engines do not interfere: if all acts on another engine are left out of a run, then the same
comes of every act on an engine, and of every act on keys, and the same tables of the engine are
held, with the same rows. -/
theorem engines_do_not_interfere {number hidden : Nat} (different : number ≠ hidden)
    (acts : List (Act Row)) :
    toldBy number (sparing hidden acts) = toldBy number acts ∧
      ∀ hold : Hold, hold.engine = number →
        (hold ∈ (after (sparing hidden acts)).holds ↔ hold ∈ (after acts).holds) ∧
          (after (sparing hidden acts)).rowsOf hold = (after acts).rowsOf hold := by
  obtain ⟨⟨tick, alike⟩, told⟩ := alike_after hidden acts
  refine ⟨told number different, fun hold here => ?_⟩
  rw [← here] at different
  exact ⟨(alike.mem_holds_iff different).symm, (alike.rowsOf_eq different).symm⟩

/-- Two engines that cache tables under the same keys, in turns. The second one is visited by a pass
and closed before the pass over the first one, and then a key that both watched ends. -/
def sharing : List (Act Nat) :=
  [.createKey "a", .createKey "b", .build ⟨2, 300⟩, .build ⟨2, 300⟩, .ask 0 (.put 1 [7]),
    .ask 1 (.put 1 [5]), .ask 0 (.put 2 [8]), .ask 1 (.put 2 [6]), .ask 0 (.get 1 0),
    .ask 1 (.get 2 0), .dropHold ⟨0, 0⟩, .dropHold ⟨0, 0⟩, .dropHold ⟨0, 1⟩, .dropHold ⟨1, 0⟩,
    .ask 0 (.clear 1 true), .ask 0 (.clear 2 true), .ask 1 (.clear 1 true), .reclaim 1 .full,
    .close 1, .reclaim 0 (.bounded 1), .ask 0 (.tier 1), .ask 0 (.tier 2), .dropKey 2,
    .ask 0 .purge]

/-- With or without the second engine the pass clears the table that was used less recently. -/
theorem engines_do_not_interfere_sharing :
    (after (sparing 1 sharing)).host.clock < (after sharing).host.clock ∧
      toldBy 0 (sparing 1 sharing) = toldBy 0 sharing ∧
      ((toldBy 0 sharing).map Told.result).drop 12 =
        [.ok (.report ⟨0, 1⟩), .ok (.tier .recent), .ok (.tier .absent), .ok .done,
          .ok (.number 1)] := by
  obtain ⟨told, -⟩ := engines_do_not_interfere (by decide : 0 ≠ 1) sharing
  exact ⟨by decide, told, by decide⟩

end System

end TableCache
