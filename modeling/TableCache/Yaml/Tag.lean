import TableCache.Yaml.Scalar

/-!
# Tags

A tag says of what kind a value is. It is written out between angle brackets, or as a handle and a
suffix, where the handle stands for the first part of the tag.

Main definitions:

1. `Tag`, `Tag.read`: a tag as written, and its reader;
2. `Handles`, `Handles.declare?`: what the handles of a document stand for;
3. `Tag.resolve?`: the tag that is meant.
-/

namespace TableCache.Yaml

/-- A tag as written. No handle means that the suffix is all of the tag. -/
structure Tag where
  handle : String
  suffix : String
  deriving DecidableEq, Repr

/-! ## Reading -/

/-- The number of an octet that is written as a percent sign and two digits of base sixteen. -/
def octet? (text : List Glyph) : Option Nat :=
  match text with
  | ⟨'%', _, _, _⟩ :: first :: second :: _ => Text.number? 16 [first.char, second.char]
  | _ => none

/-- How many octets a character has, by its first octet, and what that octet says of its number. -/
def leadingOctet? (octet : Nat) : Option (Nat × Nat) :=
  if octet < 0x80 then some (1, octet)
  else if octet < 0xC0 then none
  else if octet < 0xE0 then some (2, octet - 0xC0)
  else if octet < 0xF0 then some (3, octet - 0xE0)
  else if octet < 0xF8 then some (4, octet - 0xF0)
  else none

/-- A character that is written as octets at the front, and how many they are. A number that needs
fewer octets stands for no character that can be written. -/
def escapedChar? (text : List Glyph) : Option (Char × Nat) := do
  let (count, leading) ← leadingOctet? (← octet? text)
  let code ← (List.range (count - 1)).foldlM (fun code index => do
    let octet ← octet? (text.drop (3 * (index + 1)))
    if 0x80 ≤ octet ∧ octet < 0xC0 then return code * 0x40 + (octet - 0x80) else none) leading
  return (if count = 1 ∨ 0x80 ≤ code then (charOf? code).getD '\ufffd' else '\ufffd', count)

/-- The characters of a tag; those that bound collections only where the whole tag is written
out. -/
def isTagChar (whole : Bool) (char : Char) : Bool :=
  isName char || ";/?:@&=+$.!~*'()".toList.contains char || (whole && ",[]".toList.contains char)

/-- The characters of a tag at the front. -/
def readTagChars (whole : Bool) : List Glyph → Option (List Char × List Glyph)
  | [] => some ([], [])
  | glyph :: rest =>
      if glyph.char = '%' then do
        let (char, count) ← escapedChar? (glyph :: rest)
        let (chars, rest) ← readTagChars whole (rest.drop (3 * count - 1))
        return (char :: chars, rest)
      else if isTagChar whole glyph.char then
        (readTagChars whole rest).map fun (chars, rest) => (glyph.char :: chars, rest)
      else some ([], glyph :: rest)
  termination_by text => text.length

/-- What characters say as a part of a tag: a zero ends it. -/
def partOfTag (chars : List Char) : String := String.ofList (chars.takeWhile (· ≠ '\x00'))

/-- At least one character of a tag. -/
def readSuffix (whole : Bool) (text : List Glyph) : Option (String × List Glyph) := do
  let (chars, rest) ← readTagChars whole text
  if chars.isEmpty then none else return (partOfTag chars, rest)

/-- The front of a tag up to where a handle may end: an exclamation mark, a name, and another mark
if there is one. -/
def readHandle (text : List Glyph) : List Char × List Glyph :=
  let (name, rest) := spanOf isName text.tail
  if charAt rest 0 = '!' then ('!' :: name ++ ['!'], rest.tail) else ('!' :: name, rest)

/-- A tag at the front, which is an exclamation mark. Alone, the mark is the tag. -/
def Tag.read (text : List Glyph) : Option (Tag × List Glyph) :=
  if charAt text 1 = '<' then do
    let (suffix, rest) ← readSuffix true (text.drop 2)
    if charAt rest 0 = '>' then return (⟨"", suffix⟩, rest.tail) else none
  else
    let (handle, rest) := readHandle text
    if 1 < handle.length ∧ handle.getLast? = some '!' then
      (readSuffix false rest).map fun (suffix, rest) => (⟨String.ofList handle, suffix⟩, rest)
    else
      (readTagChars false rest).map fun (chars, rest) =>
        let suffix := partOfTag (handle.tail ++ chars)
        (if suffix.isEmpty then ⟨"", "!"⟩ else ⟨"!", suffix⟩, rest)

/-! ## Meaning -/

/-- What handles stand for. -/
abbrev Handles := List (String × String)

namespace Handles

/-- The handles that need not be declared. -/
def standard : Handles := [("!", "!"), ("!!", "tag:yaml.org,2002:")]

/-- Adds a handle, which must not have been declared before. -/
def declare? (handles : Handles) (handle start : String) : Option Handles :=
  if (handles.lookup handle).isSome then none else some (handles ++ [(handle, start)])

end Handles

/-- The tag that is meant, where some handles are declared. -/
def Tag.resolve? (tag : Tag) (declared : Handles) : Option String :=
  if tag.handle.isEmpty then some tag.suffix
  else ((declared ++ Handles.standard).lookup tag.handle).map (· ++ tag.suffix)

example : ((Glyph.ofText? "!!int 1").bind Tag.read).bind (fun tag => tag.1.resolve? []) =
    some "tag:yaml.org,2002:int" := by decide +kernel

end TableCache.Yaml
