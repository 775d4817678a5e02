import TableCache.Memory.Basic

/-!
# Reclaim passes

A pass clears cells until its pressure is met. Cells without a recent handle go first, in the order
in which they were registered; then cells with one, the one whose last use is longest ago first.

Main definitions:

1. `Memory.weakCandidates`, `Memory.recentCandidates`: what a pass may clear, in order;
2. `Memory.clearEach`: clears cells in order within a budget;
3. `Memory.reclaim`: a pass.
-/

namespace TableCache

universe u

/-- What a pass leaves behind: the memory, a report, one clearance for every cleared cell, and
events. -/
structure Pass (Row : Type u) where
  memory : Memory Row
  report : Report
  clearances : List Clearance
  events : List Event

namespace Memory

variable {Row : Type u}

/-- Puts a cell before the first one whose last use is not earlier. -/
def insertByUse (memory : Memory Row) (cell : Nat) : List Nat → List Nat
  | [] => [cell]
  | head :: tail =>
      if memory.lastUsed cell ≤ memory.lastUsed head then cell :: head :: tail
      else head :: memory.insertByUse cell tail

/-- Cells by last use, earliest first; cells used at one tick stay in order. -/
def sortByUse (memory : Memory Row) : List Nat → List Nat
  | [] => []
  | head :: tail => memory.insertByUse head (memory.sortByUse tail)

/-- The registered cells that could be cleared now. -/
def candidates (memory : Memory Row) : List Nat := memory.live.1.filter memory.isReclaimable

/-- Candidates without a recent handle, in order of registration. -/
def weakCandidates (memory : Memory Row) : List Nat :=
  memory.candidates.filter fun cell => !memory.isRecentlyHeld cell

/-- Candidates with a recent handle, by last use. -/
def recentCandidates (memory : Memory Row) : List Nat :=
  memory.sortByUse (memory.candidates.filter memory.isRecentlyHeld)

/-- Clears cells in order, as many as the budget allows, passing over those that cannot be cleared.
The memory, what is left of the budget, and the clearances come back. -/
def clearEach : List Nat → Option Nat → Memory Row → Memory Row × Option Nat × List Clearance
  | [], budget, memory => (memory, budget, [])
  | cell :: rest, budget, memory =>
      if budget = some 0 then (memory, budget, [])
      else
        match memory.tryClear cell with
        | none => clearEach rest budget memory
        | some (clearance, memory) =>
            let later := clearEach rest (budget.map (· - 1)) memory
            (later.1, later.2.1, clearance :: later.2.2)

/-- A pass under a pressure. -/
def reclaim (memory : Memory Row) (pressure : Pressure) : Pass Row :=
  let weak := clearEach memory.weakCandidates pressure.budget memory.live.2
  let recent :=
    if pressure = .weakOnly then (weak.1, weak.2.1, [])
    else clearEach memory.recentCandidates weak.2.1 weak.1
  let report : Report := ⟨weak.2.2.length, recent.2.2.length⟩
  { memory := recent.1
    report := report
    clearances := weak.2.2 ++ recent.2.2
    events :=
      weak.2.2.map (fun clearance => .reclaimedWeak clearance.keyId)
        ++ recent.2.2.map (fun clearance => .reclaimedRecent clearance.keyId)
        ++ (if 0 < report.weakCleared + report.recentCleared then [.passFinished pressure report]
            else []) }

end Memory

end TableCache
