/-!
# Octets of characters

Places in a text are counted in the octets of its UTF-8 encoding. A place may be inside of a
character, where nothing can be cut.

Main definitions:

1. `octets`: how many octets characters have;
2. `cut?`: what stands between two places, unless one of them is inside of a character.
-/

namespace TableCache.Text

/-- How many octets characters have. -/
def octets : List Char → Nat
  | [] => 0
  | char :: rest => char.utf8Size + octets rest

/-- What comes after some octets. -/
def dropOctets? : Nat → List Char → Option (List Char)
  | 0, chars => some chars
  | _ + 1, [] => none
  | count + 1, char :: rest =>
      if char.utf8Size ≤ count + 1 then dropOctets? (count + 1 - char.utf8Size) rest else none

/-- The characters that some octets are. -/
def takeOctets? : Nat → List Char → Option (List Char)
  | 0, _ => some []
  | _ + 1, [] => none
  | count + 1, char :: rest =>
      if char.utf8Size ≤ count + 1 then
        (takeOctets? (count + 1 - char.utf8Size) rest).map (char :: ·)
      else none

/-- What stands from one place to another. -/
def cut? (chars : List Char) (start stop : Nat) : Option (List Char) :=
  (dropOctets? start chars).bind (takeOctets? (stop - start))

example : cut? "aéb".toList 1 3 = some ['é'] ∧ cut? "aéb".toList 1 2 = none := by decide

end TableCache.Text
