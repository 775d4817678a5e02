import TableCache.Word

/-!
# How much is to be freed, and how much was

A memory manager states a pressure; a reclaim pass answers with a report.
-/

namespace TableCache

/-- What a memory manager wants freed: every table that is not in recent use, at most some number of
tables, or every table that can be. -/
inductive Pressure where
  | weakOnly
  | bounded (count : Nat)
  | full
  deriving DecidableEq, Repr, Inhabited

/-- A pressure as it appears in logs. -/
def Pressure.text : Pressure → String
  | .weakOnly => "WeakOnly"
  | .bounded count => "Bounded(" ++ toString count ++ ")"
  | .full => "Full"

/-- How many more tables a pass may clear; `none` is without bound. -/
def Pressure.budget : Pressure → Option Nat
  | .bounded count => some count
  | .weakOnly | .full => none

/-- How many tables a pass cleared that were not in recent use, and how many that were. -/
structure Report where
  weakCleared : Nat
  recentCleared : Nat
  deriving DecidableEq, Repr

namespace Report

/-- Nothing cleared. -/
def zero : Report := ⟨0, 0⟩

instance : Inhabited Report := ⟨zero⟩

/-- All tables cleared, if that is still a word. -/
def total? (report : Report) : Option Nat := Word.add? report.weakCleared report.recentCleared

/-- Two passes taken together, if both sums are still words. -/
def merge? (first second : Report) : Option Report := do
  let weakCleared ← Word.add? first.weakCleared second.weakCleared
  let recentCleared ← Word.add? first.recentCleared second.recentCleared
  return ⟨weakCleared, recentCleared⟩

/-- Merges reports one by one. With the result come the total of each and the total of all up to
it. -/
def mergeAll? : List Report → Report → Option (Report × List (Nat × Nat))
  | [], merged => some (merged, [])
  | report :: rest, merged => do
      let merged ← merged.merge? report
      let totals := (← report.total?, ← merged.total?)
      let (final, others) ← mergeAll? rest merged
      return (final, totals :: others)

end Report

end TableCache
