import TableCache.Word

/-!
# Consumers

A consumer reads published tables. Its cursor says which one comes next, counted round; it moves on
by seven after every look-up, and wraps around at the greatest word. When the cursor is a multiple
of sixty-four the consumer yields to the other tasks.
-/

namespace TableCache.Soak.Consumer

/-- How far the cursor moves after a look-up. -/
def stride : Nat := 7

/-- The cursor after a look-up. -/
def advance (cursor : Nat) : Nat := Word.wrapAdd cursor stride

/-- Whether a consumer yields when its cursor has just come here. -/
def yieldsAt (cursor : Nat) : Bool := cursor % 64 = 0

/-- The published key that is read next. -/
def pick (directory : List Nat) (cursor : Nat) : Option Nat :=
  directory[cursor % directory.length]?

/-- The cursor after some look-ups. -/
def after : Nat → Nat → Nat
  | 0, cursor => cursor
  | count + 1, cursor => after count (advance cursor)

/-- The keys read by some look-ups from a directory that does not change. -/
def reads (directory : List Nat) : Nat → Nat → List Nat
  | 0, _ => []
  | count + 1, cursor => (pick directory cursor).toList ++ reads directory count (advance cursor)

/-- The number of look-ups up to the next yield, which is never more than sixty-four. -/
def turn (cursor : Nat) : Nat :=
  ((List.range' 1 64).find? fun count => yieldsAt (after count cursor)).getD 64

end TableCache.Soak.Consumer
