import TableCache.Text.Digits
import TableCache.Yaml.Glyph

/-!
# Scalars

A scalar is a text, written plainly, between quotes, or as a block of lines. The readers here take
one from the front of the glyphs; `none` means that the text is not in the notation.

Where a scalar goes over several lines, its line ends are folded: one alone becomes a space, and of
several the first is dropped.

Main definitions:

1. `Style`, `Scalar`: how a text is written, and a text with its style and its tag;
2. `Gap.fold`: what stands for the blanks and line ends between two words;
3. `readPlain`, `readSingle`, `readDouble`, `readBlock`: the readers.
-/

namespace TableCache.Yaml

/-- How a scalar is written. -/
inductive Style where
  | plain
  | singleQuoted
  | doubleQuoted
  | literal
  | folded
  deriving DecidableEq, Repr

/-- A text with the way it is written and the tag it is given. -/
structure Scalar where
  tag : Option String
  style : Style
  text : String
  deriving DecidableEq, Repr

/-- What stands where nothing is written. -/
def Scalar.absent (tag : Option String) : Scalar := ⟨tag, .plain, ""⟩

/-! ## Folding -/

/-- What has been read since the last word: blanks, then whether a line has ended, the end of the
first line if it counts, and the ends of the lines after it. Blanks and ends of lines are kept with
the last one first. -/
structure Gap where
  blanks : List Char
  broken : Bool
  first : Option Char
  others : List Char
  deriving DecidableEq, Repr

namespace Gap

/-- Between two characters of a word. -/
def closed : Gap := ⟨[], false, none, []⟩

/-- After the end of a line that does not count. -/
def joined : Gap := ⟨[], true, none, []⟩

/-- Blanks count only before the end of the first line. -/
def blank (gap : Gap) (char : Char) : Gap :=
  if gap.broken then gap else { gap with blanks := char :: gap.blanks }

/-- Goes on to the next line. -/
def lineEnd (gap : Gap) (char : Char) : Gap :=
  if gap.broken then { gap with others := char :: gap.others }
  else ⟨[], true, some char, []⟩

/-- What stands for a gap between two words. -/
def fold (gap : Gap) : List Char :=
  if gap.broken then
    if gap.first = some '\n' then if gap.others.isEmpty then [' '] else gap.others.reverse
    else gap.first.toList ++ gap.others.reverse
  else gap.blanks.reverse

end Gap

/-! ## Plain scalars -/

/-- A word cannot go on at the front: a colon stands before a blank, or a mark of a collection on a
line is met inside of one. -/
def endsPlain (inFlow : Bool) (text : List Glyph) : Bool :=
  (charAt text 0 == ':' && endsWord (charAt text 1)) || (inFlow && isFlowMark (charAt text 0))

/-- A plain scalar whose lines are indented to at least `indent` columns, after a gap or, where
there is no gap, inside of a word: its characters, whether its last line has ended, and the rest. -/
def readPlain (inFlow : Bool) (indent : Nat) (gap : Option Gap) :
    List Glyph → Option (List Char × Bool × List Glyph)
  | [] => some ([], (gap.getD .closed).broken, [])
  | glyph :: rest =>
      let present := gap.getD .closed
      let stop := some ([], present.broken, glyph :: rest)
      if isBlank glyph.char then
        if present.broken && glyph.column < indent && glyph.char == '\t' then none
        else readPlain inFlow indent (some (present.blank glyph.char)) rest
      else if isBreak glyph.char then
        readPlain inFlow indent (some (present.lineEnd glyph.char)) rest
      else if gap.isSome && (!inFlow && glyph.column < indent || startsOrEnds (glyph :: rest) ||
          glyph.char == '#') then stop
      else if glyph.char = ending then stop
      else if inFlow && glyph.char == ':' &&
          (charAt rest 0 == '?' || isFlowMark (charAt rest 0)) then none
      else if endsPlain inFlow (glyph :: rest) then stop
      else
        (readPlain inFlow indent none rest).map fun (chars, ended) =>
          (present.fold ++ glyph.char :: chars, ended)

/-! ## Quoted scalars -/

/-- A scalar in single quotes, after the opening one. A quote inside is written twice. -/
def readSingle (gap : Gap) : List Glyph → Option (List Char × List Glyph)
  | [] => none
  | glyph :: rest =>
      if isBlank glyph.char then readSingle (gap.blank glyph.char) rest
      else if isBreak glyph.char then readSingle (gap.lineEnd glyph.char) rest
      else if startsOrEnds (glyph :: rest) || glyph.char == ending then none
      else if glyph.char = '\'' then
        match rest with
        | ⟨'\'', _, _, _⟩ :: rest =>
            (readSingle .closed rest).map fun (chars, rest) => (gap.fold ++ '\'' :: chars, rest)
        | _ => some (gap.fold, rest)
      else
        (readSingle .closed rest).map fun (chars, rest) => (gap.fold ++ glyph.char :: chars, rest)

/-- What a letter after a backslash stands for. -/
def escaped? : Char → Option Char
  | '0' => some '\x00'
  | 'a' => some '\x07'
  | 'b' => some '\x08'
  | 't' => some '\t'
  | '\t' => some '\t'
  | 'n' => some '\n'
  | 'v' => some '\x0b'
  | 'f' => some '\x0c'
  | 'r' => some '\r'
  | 'e' => some '\x1b'
  | ' ' => some ' '
  | '"' => some '"'
  | '/' => some '/'
  | '\\' => some '\\'
  | 'N' => some '\u0085'
  | '_' => some '\u00a0'
  | 'L' => some '\u2028'
  | 'P' => some '\u2029'
  | _ => none

/-- How many digits of base sixteen follow a letter after a backslash. -/
def escapedDigits? : Char → Option Nat
  | 'x' => some 2
  | 'u' => some 4
  | 'U' => some 8
  | _ => none

/-- The character with a number, if there is one. -/
def charOf? (code : Nat) : Option Char :=
  if code.isValidChar then some (Char.ofNat code) else none

/-- The character that the digits at the front stand for. -/
def charOfDigits? (count : Nat) (text : List Glyph) : Option Char :=
  let digits := (text.take count).map Glyph.char
  if digits.length < count then none else (Text.number? 16 digits).bind charOf?

/-- A scalar in double quotes, after the opening one. A backslash before the end of a line joins two
lines. -/
def readDouble (gap : Gap) : List Glyph → Option (List Char × List Glyph)
  | [] => none
  | glyph :: rest =>
      let after (char : Char) := fun (chars, rest) => (gap.fold ++ char :: chars, rest)
      if isBlank glyph.char then readDouble (gap.blank glyph.char) rest
      else if isBreak glyph.char then readDouble (gap.lineEnd glyph.char) rest
      else if startsOrEnds (glyph :: rest) || glyph.char == ending then none
      else if glyph.char = '"' then some (gap.fold, rest)
      else if glyph.char = '\\' then
        match rest with
        | [] => none
        | letter :: rest =>
            if isBreak letter.char then
              (readDouble .joined rest).map fun (chars, rest) => (gap.fold ++ chars, rest)
            else
              match escapedDigits? letter.char with
              | some count => do
                  let char ← charOfDigits? count rest
                  after char <$> readDouble .closed (rest.drop count)
              | none => do
                  let char ← escaped? letter.char
                  after char <$> readDouble .closed rest
      else after glyph.char <$> readDouble .closed rest
  termination_by text => text.length
  decreasing_by all_goals simp_wf <;> omega

/-! ## Block scalars -/

/-- What is done with the line ends after the last line of a block. -/
inductive Chomping where
  /-- None is kept. -/
  | strip
  /-- That of the last line is kept. -/
  | clip
  /-- All are kept. -/
  | keep
  deriving DecidableEq, Repr

/-- What stands behind the mark of a block: chomping and indentation, in any order. -/
def readHeader (text : List Glyph) : Option (Chomping × Option Nat × List Glyph) :=
  let chomping? : Char → Option Chomping
    | '+' => some .keep
    | '-' => some .strip
    | _ => none
  let digit? (text : List Glyph) : Option (Option Nat × List Glyph) :=
    if charAt text 0 = '0' then none
    else if (charAt text 0).isDigit then
      some (some ((charAt text 0).toNat - '0'.toNat), text.tail)
    else some (none, text)
  match chomping? (charAt text 0) with
  | some chomping => (digit? text.tail).map fun (width, text) => (chomping, width, text)
  | none => do
      let (width, text) ← digit? text
      match width, chomping? (charAt text 0) with
      | some _, some chomping => return (chomping, width, text.tail)
      | _, _ => return (.clip, width, text)

/-- The greatest column that the blank lines at the front and the blanks before the first word
reach. None of these blanks may be a tab. -/
def margin? : List Glyph → Option Nat
  | [] => some 0
  | glyph :: rest =>
      if glyph.char = ' ' then margin? rest
      else if glyph.char = '\t' then none
      else if isBreak glyph.char then (margin? rest).map (max glyph.column)
      else some glyph.column

/-- Where the reading of a block stands: inside of a line, or before one. Both keep whether the last
line started with a blank; before a line the line ends that were read since it are kept, the last
one first. -/
inductive BlockPlace where
  | inside (afterBlank : Bool)
  | before (afterBlank : Bool) (first : Option Char) (others : List Char)
  deriving DecidableEq, Repr

/-- What stands for the line ends between two lines of a block. In a folded block an end alone
becomes a space, and of several the first is dropped, except beside a line that starts with a
blank. -/
def foldLines (style : Style) (afterBlank beforeBlank : Bool) (first : Option Char)
    (others : List Char) : List Char :=
  if style = .folded ∧ first = some '\n' ∧ !afterBlank ∧ !beforeBlank then
    if others.isEmpty then [' '] else others
  else first.toList ++ others

/-- What is kept of the line ends after the last line. -/
def chomp (chomping : Chomping) (first : Option Char) (others : List Char) : List Char :=
  match chomping with
  | .strip => []
  | .clip => first.toList
  | .keep => first.toList ++ others

/-- The lines of a block that is indented to a column. -/
def readLines (style : Style) (chomping : Chomping) (indent : Nat) (place : BlockPlace) :
    List Glyph → Option (List Char × List Glyph)
  | [] => some ([], [])
  | glyph :: rest =>
      match place with
      | .inside afterBlank =>
          if isBreak glyph.char then
            readLines style chomping indent (.before afterBlank (some glyph.char) []) rest
          else if glyph.char = ending then some ([], glyph :: rest)
          else
            (readLines style chomping indent place rest).map fun (chars, rest) =>
              (glyph.char :: chars, rest)
      | .before afterBlank first others =>
          if glyph.column < indent && glyph.char == ' ' then
            readLines style chomping indent place rest
          else if glyph.column < indent && glyph.char == '\t' then none
          else if isBreak glyph.char then
            readLines style chomping indent (.before afterBlank first (glyph.char :: others)) rest
          else if glyph.column ≠ indent ∨ glyph.char = ending then
            some (chomp chomping first others.reverse, glyph :: rest)
          else
            let beforeBlank := isBlank glyph.char
            (readLines style chomping indent (.inside beforeBlank) rest).map fun (chars, rest) =>
              (foldLines style afterBlank beforeBlank first others.reverse ++ glyph.char :: chars,
                rest)

/-- A block scalar, after its mark, inside of a collection at a column if there is one. Its lines
are indented further than the collection: by as much as its header says, or by as much as its first
line that is not blank and the blank lines before it. -/
def readBlock (style : Style) (outer : Option Nat) (text : List Glyph) :
    Option (List Char × List Glyph) := do
  let (chomping, width, text) ← readHeader text
  let text ← skipLine? text
  let indent ←
    match width with
    | some width => some (outer.getD 0 + width)
    | none => (margin? text).map (max (outer.elim 1 (· + 1)))
  readLines style chomping indent (.before false none []) text

/-! ## Examples -/

example : (Glyph.ofText? "a b\n\n c # d").map (readPlain false 1 none) =
    some (some ("a b\nc".toList, false,
      [⟨'#', 2, 3, 3⟩, ⟨' ', 2, 4, 4⟩, ⟨'d', 2, 5, 5⟩, ⟨ending, 2, 6, 6⟩])) := by
  cbv

example : ((Glyph.ofText? "a\\x41\\\n  b\"").bind (readDouble .closed)).map Prod.fst =
    some "aAb".toList := by cbv

example : ((Glyph.ofText? "-\n a\n b\n").bind (readBlock .folded none)).map Prod.fst =
    some "a b".toList := by cbv

end TableCache.Yaml
