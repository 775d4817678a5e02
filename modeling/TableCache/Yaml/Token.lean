import TableCache.Yaml.Tag

/-!
# Tokens and their layout

A text is a sequence of tokens: marks, names, scalars, and marks that are not written but follow
from indentation. A block collection starts where something is indented further than what is around
it, and ends before the first thing that is not. That something is a key is known only at the colon
behind it, so the place of the last thing that may be one is kept, and the tokens for a key go
there.

Main definitions:

1. `Token`: the tokens;
2. `Candidate`, `Layout`: what may turn out to be a key, and what is known before the next token;
3. `Layout.read`: takes a token from the front of the glyphs;
4. `Token.ofText?`: the tokens of a text.
-/

namespace TableCache.Yaml

/-- A part of a text. -/
inductive Token where
  /-- The version of the notation. -/
  | version (major minor : Nat)
  /-- What a handle stands for. -/
  | declaration (handle start : String)
  | documentStart
  | documentEnd
  /-- Starts a collection with one item or one key a line, up to its `blockEnd`. -/
  | blockSequence
  | blockMapping
  | blockEnd
  | flowSequence
  | flowSequenceEnd
  | flowMapping
  | flowMappingEnd
  /-- Separates what is in a collection on a line. -/
  | flowEntry
  /-- Stands before an item of a block. -/
  | blockEntry
  | key
  | value
  | alias (name : String)
  | anchor (name : String)
  | tag (tag : Tag)
  | scalar (style : Style) (text : String)
  | textEnd
  deriving DecidableEq, Repr

/-- What may turn out to be a key. -/
structure Candidate where
  /-- Nothing else can stand there. -/
  required : Bool
  /-- The number of tokens before it. -/
  place : Nat
  /-- What it starts with. -/
  start : Glyph
  deriving DecidableEq, Repr

/-- What is known before the next token. -/
structure Layout where
  /-- The tokens so far. -/
  tokens : Array Token
  /-- The columns of the block collections around, the innermost first. -/
  columns : List Nat
  /-- The last thing that may turn out to be a key. -/
  candidate : Option Candidate
  /-- The same for what is outside of each collection on a line around, the innermost first. -/
  outer : List (Option Candidate)
  mayStartKey : Bool
  deriving DecidableEq, Repr

namespace Layout

/-- Before the first token. -/
def start : Layout := ⟨#[], [], none, [], true⟩

/-- Inside of a collection on a line, where indentation has no meaning. -/
def inFlow (layout : Layout) : Bool := !layout.outer.isEmpty

/-- Adds a token. -/
def emit (layout : Layout) (token : Token) : Layout :=
  { layout with tokens := layout.tokens.push token }

/-- Says whether a key may start. -/
def allowKey (layout : Layout) (allowed : Bool) : Layout := { layout with mayStartKey := allowed }

/-! ## Indentation -/

/-- Starts a block collection at a column, if that is further in than the one around, with the token
for its start at a place among the tokens. -/
def openBlock (layout : Layout) (token : Token) (column place : Nat) : Layout :=
  if !layout.inFlow && layout.columns.head?.all (· < column) then
    { layout with
      tokens := layout.tokens.insertIdxIfInBounds place token
      columns := column :: layout.columns }
  else layout

/-- Starts a block collection with its first token. -/
def openBlockHere (layout : Layout) (token : Token) (column : Nat) : Layout :=
  layout.openBlock token column layout.tokens.size

/-- Ends the block collections of which something is true. -/
def closeBlocks (layout : Layout) (ends : Nat → Bool) : Layout :=
  if layout.inFlow then layout
  else
    { layout with
      tokens :=
        layout.tokens ++ Array.replicate (layout.columns.takeWhile ends).length Token.blockEnd
      columns := layout.columns.dropWhile ends }

/-- Ends all block collections. -/
def closeAll (layout : Layout) : Layout := layout.closeBlocks fun _ => true

/-! ## Keys -/

/-- No key starts at the last place that was kept. There must not have to be one. -/
def forget (layout : Layout) : Option Layout :=
  if layout.candidate.any Candidate.required then none else some { layout with candidate := none }

/-- Keeps the place of the next token if a key may start there. Where a block collection has its
column, nothing else can. -/
def keep (layout : Layout) (glyph : Glyph) : Option Layout :=
  if layout.mayStartKey then do
    let required := !layout.inFlow && layout.columns.head? == some glyph.column
    let layout ← layout.forget
    return { layout with
      candidate := some ⟨required, layout.tokens.size, glyph⟩ }
  else some layout

/-- A key is on one line and has at most 1024 octets. -/
def Candidate.isStale (candidate : Candidate) (glyph : Glyph) : Bool :=
  candidate.start.line < glyph.line || candidate.start.offset + 1024 < glyph.offset

/-- Gives up what has become too long for a key. -/
def dropStale (layout : Layout) (glyph : Glyph) : Option Layout :=
  let stale (candidate : Option Candidate) := candidate.any (Candidate.isStale · glyph)
  let fresh (candidate : Option Candidate) := if stale candidate then none else candidate
  if (layout.candidate :: layout.outer).any fun candidate =>
      stale candidate && candidate.any Candidate.required then none
  else
    some { layout with candidate := fresh layout.candidate, outer := layout.outer.map fresh }

/-! ## Marks -/

/-- Starts a collection on a line. -/
def openFlow (layout : Layout) (token : Token) (glyph : Glyph) : Option Layout := do
  let layout ← layout.keep glyph
  let outer := layout.candidate :: layout.outer
  return { layout.emit token with candidate := none, outer := outer, mayStartKey := true }

/-- Ends a collection on a line. -/
def closeFlow (layout : Layout) (token : Token) : Option Layout := do
  let layout ← layout.forget
  let candidate := layout.outer.headD none
  let outer := layout.outer.tail
  return { layout.emit token with candidate := candidate, outer := outer, mayStartKey := false }

/-- The mark before an item of a block or before a key; outside of collections on a line it stands
only where a key may start. -/
def enter (layout : Layout) (token opening : Token) (glyph : Glyph) : Option Layout :=
  if !layout.inFlow && !layout.mayStartKey then none
  else do
    let layout ← (layout.openBlockHere opening glyph.column).forget
    return layout.emit token

/-- The mark before a value. What may be a key is one; otherwise nothing stands for the key. -/
def enterValue (layout : Layout) (glyph : Glyph) : Option Layout :=
  match layout.candidate with
  | some candidate =>
      let layout :=
        { layout with
          tokens := layout.tokens.insertIdxIfInBounds candidate.place .key, candidate := none }
      let layout := layout.openBlock .blockMapping candidate.start.column candidate.place
      some ((layout.allowKey false).emit .value)
  | none =>
      if !layout.inFlow && !layout.mayStartKey then none
      else
        let layout := layout.openBlockHere .blockMapping glyph.column
        some ((layout.allowKey !layout.inFlow).emit .value)

/-- A line that starts or ends a document. -/
def separate (layout : Layout) (token : Token) : Option Layout := do
  let layout ← layout.closeAll.forget
  return (layout.allowKey false).emit token

end Layout

/-! ## Directives -/

/-- A number of at most nine digits. -/
def readVersionNumber (text : List Glyph) : Option (Nat × List Glyph) :=
  let (digits, rest) := spanOf Char.isDigit text
  if digits.isEmpty ∨ 9 < digits.length then none
  else
    some (digits.foldl (fun value digit => value * 10 + (digit.toNat - '0'.toNat)) 0, rest)

/-- A version or the meaning of a handle, after the percent sign, with the rest of its line. -/
def readDirective (text : List Glyph) : Option (Token × List Glyph) := do
  let (name, text) := spanOf isName text
  if !endsWord (charAt text 0) then none
  let text := skipOf isBlank text
  let (token, text) ←
    if name = "YAML".toList then do
      let (major, text) ← readVersionNumber text
      if charAt text 0 ≠ '.' then none
      let (minor, text) ← readVersionNumber text.tail
      some (Token.version major minor, text)
    else if name = "TAG".toList then do
      if charAt text 0 ≠ '!' then none
      let (handle, text) := readHandle text
      if handle.getLast? ≠ some '!' then none
      if !isBlank (charAt text 0) then none
      let (start, text) ← readSuffix true (skipOf isBlank text)
      if !endsWord (charAt text 0) then none
      some (Token.declaration (String.ofList handle) start, text)
    else none
  return (token, ← skipLine? text)

/-! ## Taking a token -/

/-- The name of an anchor, after its mark. -/
def readName (text : List Glyph) : Option (String × List Glyph) :=
  let (name, rest) := spanOf isName text
  let next := charAt rest 0
  if !name.isEmpty && (endsWord next || "?:,]\x7d%@\x60".toList.contains next) then
    some (String.ofList name, rest)
  else none

/-- A plain scalar starts at the front. -/
def startsPlain (inFlow : Bool) (text : List Glyph) : Bool :=
  let first := charAt text 0
  let second := charAt text 1
  !(endsWord first || "-?:,[]\x7b\x7d#&*!|>'\"%@\x60".toList.contains first) ||
    (first == '-' && !isBlank second) ||
    (!inFlow && (first == '?' || first == ':') && !endsWord second)

/-- Drops blanks, comments and line ends before the next token, and says whether a key may start
there. Outside of collections on a line, a key may start on a new line, and no tab stands where one
may. -/
def skipToToken (inFlow mayStartKey inComment : Bool) : List Glyph → Bool × List Glyph
  | [] => (mayStartKey, [])
  | glyph :: rest =>
      if isBreak glyph.char then skipToToken inFlow (mayStartKey || !inFlow) false rest
      else if inComment && glyph.char ≠ ending then skipToToken inFlow mayStartKey true rest
      else if glyph.char = '#' then skipToToken inFlow mayStartKey true rest
      else if glyph.char = ' ' || (glyph.char == '\t' && (inFlow || !mayStartKey)) ||
          (glyph.char == orderMark && glyph.column == 0) then
        skipToToken inFlow mayStartKey false rest
      else (mayStartKey, glyph :: rest)

namespace Layout

/-- Adds a scalar that may turn out to be a key. -/
def scalar (layout : Layout) (glyph : Glyph) (style : Style) (chars : List Char) :
    Option Layout := do
  let layout ← layout.keep glyph
  return (layout.allowKey false).emit (.scalar style (String.ofList chars))

/-- Takes the token at the front, at which nothing blank stands. -/
def read (layout : Layout) (glyph : Glyph) (rest : List Glyph) :
    Option (Layout × List Glyph) := do
  let text := glyph :: rest
  let char := glyph.char
  let spaced := endsWord (charAt rest 0)
  if glyph.column = 0 ∧ char = '%' then
    let (token, rest) ← readDirective rest
    return (← layout.separate token, rest)
  else if separates '-' text then return (← layout.separate .documentStart, text.drop 3)
  else if separates '.' text then return (← layout.separate .documentEnd, text.drop 3)
  else if char = '[' then return (← layout.openFlow .flowSequence glyph, rest)
  else if char = '\x7b' then return (← layout.openFlow .flowMapping glyph, rest)
  else if char = ']' then return (← layout.closeFlow .flowSequenceEnd, rest)
  else if char = '\x7d' then return (← layout.closeFlow .flowMappingEnd, rest)
  else if char = ',' then
    return (((← layout.forget).allowKey true).emit .flowEntry, rest)
  else if char = '-' ∧ spaced then
    if layout.inFlow then return (((← layout.forget).allowKey true).emit .blockEntry, rest)
    else return ((← layout.enter .blockEntry .blockSequence glyph).allowKey true, rest)
  else if char = '?' ∧ (layout.inFlow ∨ spaced) then
    return ((← layout.enter .key .blockMapping glyph).allowKey !layout.inFlow, rest)
  else if char = ':' ∧ (layout.inFlow ∨ spaced) then return (← layout.enterValue glyph, rest)
  else if char = '*' ∨ char = '&' then
    let layout ← layout.keep glyph
    let (name, rest) ← readName rest
    return ((layout.allowKey false).emit (if char = '*' then .alias name else .anchor name), rest)
  else if char = '!' then
    let layout ← layout.keep glyph
    let (tag, rest) ← Tag.read text
    if !endsWord (charAt rest 0) ∧ !(layout.inFlow ∧ charAt rest 0 = ',') then none
    return ((layout.allowKey false).emit (.tag tag), rest)
  else if (char = '|' ∨ char = '>') ∧ !layout.inFlow then
    let layout ← layout.forget
    let style := if char = '|' then Style.literal else Style.folded
    let (chars, rest) ← readBlock style layout.columns.head? rest
    return ((layout.allowKey true).emit (.scalar style (String.ofList chars)), rest)
  else if char = '\'' then
    let (chars, rest) ← readSingle .closed rest
    return (← layout.scalar glyph .singleQuoted chars, rest)
  else if char = '"' then
    let (chars, rest) ← readDouble .closed rest
    return (← layout.scalar glyph .doubleQuoted chars, rest)
  else if startsPlain layout.inFlow text then
    let (chars, ended, rest) ←
      readPlain layout.inFlow (layout.columns.head?.elim 0 (· + 1)) none text
    let layout ← layout.scalar glyph .plain chars
    return (layout.allowKey ended, rest)
  else none

/-- The layout after all tokens. Every token takes a glyph, so the number of glyphs bounds the
steps. -/
def readAll : Nat → Layout → List Glyph → Option Layout
  | 0, _, _ => none
  | steps + 1, layout, text =>
      match skipToToken layout.inFlow layout.mayStartKey false text with
      | (_, []) => none
      | (mayStartKey, glyph :: rest) => do
          let layout ← (layout.allowKey mayStartKey).dropStale glyph
          let layout := layout.closeBlocks (glyph.column < ·)
          if glyph.char = ending then layout.separate .textEnd
          else
            let (layout, rest) ← layout.read glyph rest
            readAll steps layout rest

end Layout

/-- The tokens of a text, of which the last is its end. -/
def Token.ofText? (text : String) : Option (List Token) := do
  let glyphs ← Glyph.ofText? text
  let layout ← Layout.start.readAll glyphs.length glyphs
  return layout.tokens.toList

end TableCache.Yaml
