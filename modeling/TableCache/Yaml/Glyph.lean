/-!
# Characters with their places

Indentation carries meaning in the YAML notation, so a text is read as a list of characters that
know their line and their column. Every way of ending a line is one glyph, and after the last
character stands a glyph for the end of the text, which no text can hold.

Main definitions:

1. `Glyph`: a character with its place;
2. `Glyph.ofText?`: the glyphs of a text, if all of its characters are allowed;
3. `charAt`, `columnAt`: what stands at the front of the glyphs that are still to be read.
-/

namespace TableCache.Yaml

/-- A character and its place; everything is counted from zero. -/
structure Glyph where
  char : Char
  line : Nat
  /-- The number of characters before it on its line. -/
  column : Nat
  /-- The number of octets that these characters have in the UTF-8 encoding. -/
  offset : Nat
  deriving DecidableEq, Repr

/-- Stands for the end of a text. -/
def ending : Char := '\x00'

/-- The mark that some writers put at the start of a text. -/
def orderMark : Char := '\ufeff'

/-! ## Classes of characters -/

/-- The characters that a text may hold. -/
def isAllowed (char : Char) : Bool :=
  let code := char.toNat
  code == 0x09 || code == 0x0A || code == 0x0D || (0x20 ≤ code && code ≤ 0x7E) || code == 0x85 ||
    (0xA0 ≤ code && code ≤ 0xD7FF) || (0xE000 ≤ code && code ≤ 0xFFFD) || 0x10000 ≤ code

/-- A space or a tab. -/
def isBlank (char : Char) : Bool := char == ' ' || char == '\t'

/-- The end of a line: a line feed, or a separator of lines or of paragraphs. -/
def isBreak (char : Char) : Bool := char == '\n' || char == '\u2028' || char == '\u2029'

/-- The end of a line or of the text. -/
def endsLine (char : Char) : Bool := isBreak char || char == ending

/-- What no word goes across. -/
def endsWord (char : Char) : Bool := isBlank char || endsLine char

/-- The characters of names. -/
def isName (char : Char) : Bool := char.isAlphanum || char == '_' || char == '-'

/-- The characters that bound collections on a line. -/
def isFlowMark (char : Char) : Bool :=
  char == ',' || char == '[' || char == ']' || char == '\x7b' || char == '\x7d'

/-! ## Laying out -/

/-- The glyphs of characters from a place on. A carriage return, alone or with a line feed behind
it, and the control character for a next line are line feeds. -/
def Glyph.ofChars? (line column offset : Nat) : List Char → Option (List Glyph)
  | [] => some [⟨ending, line, column, offset⟩]
  | '\r' :: '\n' :: rest => (ofChars? (line + 1) 0 0 rest).map (⟨'\n', line, column, offset⟩ :: ·)
  | char :: rest =>
      if !isAllowed char then none
      else if char = '\r' ∨ char = '\x85' then
        (ofChars? (line + 1) 0 0 rest).map (⟨'\n', line, column, offset⟩ :: ·)
      else if isBreak char then
        (ofChars? (line + 1) 0 0 rest).map (⟨char, line, column, offset⟩ :: ·)
      else
        (ofChars? line (column + 1) (offset + char.utf8Size) rest).map
          (⟨char, line, column, offset⟩ :: ·)

/-- The glyphs of a text. -/
def Glyph.ofText? (text : String) : Option (List Glyph) := ofChars? 0 0 0 text.toList

/-! ## The front of what is still to be read -/

/-- The character at a distance from the front. -/
def charAt (text : List Glyph) (distance : Nat) : Char :=
  (text[distance]?).elim ending Glyph.char

/-- The column of the front. -/
def columnAt (text : List Glyph) : Nat := text.head?.elim 0 Glyph.column

/-- The characters at the front that belong to a class, and what comes after them. -/
def spanOf (belongs : Char → Bool) (text : List Glyph) : List Char × List Glyph :=
  ((text.takeWhile (belongs ·.char)).map Glyph.char, text.dropWhile (belongs ·.char))

/-- Drops the characters at the front that belong to a class. -/
def skipOf (belongs : Char → Bool) (text : List Glyph) : List Glyph :=
  text.dropWhile (belongs ·.char)

/-- Drops what is left of a line if it holds nothing but blanks and a comment, with its end. -/
def skipLine? (text : List Glyph) : Option (List Glyph) :=
  let text := skipOf isBlank text
  let text := if charAt text 0 = '#' then skipOf (!endsLine ·) text else text
  if charAt text 0 = ending then some text
  else if isBreak (charAt text 0) then some text.tail
  else none

/-- At the front stands a line that separates documents: three times the mark at the start of a
line, and a blank or the end of the line. -/
def separates (mark : Char) (text : List Glyph) : Bool :=
  columnAt text == 0 && charAt text 0 == mark && charAt text 1 == mark && charAt text 2 == mark &&
    endsWord (charAt text 3)

/-- At the front stands a line that starts or ends a document. -/
def startsOrEnds (text : List Glyph) : Bool := separates '-' text || separates '.' text

example : (Glyph.ofText? "é\r\nb") =
    some [⟨'é', 0, 0, 0⟩, ⟨'\n', 0, 1, 2⟩, ⟨'b', 1, 0, 0⟩, ⟨ending, 1, 1, 1⟩] := by cbv

end TableCache.Yaml
