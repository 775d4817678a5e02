import TableCache.Yaml.Token

/-!
# Documents

The tokens of a text make up at most one document here: a tree of scalars, sequences and mappings,
in which an alias stands for a node that was given an anchor before.

Main definitions:

1. `Node`: the tree;
2. `Anchors`: what aliases stand for;
3. `Document`, `Document.ofText?`: a tree with its anchors, and the document of a text.
-/

namespace TableCache.Yaml

/-- A node of a document; an alias has the number of its anchor. -/
inductive Node where
  | scalar (scalar : Scalar)
  | sequence (items : List Node)
  | mapping (members : List (Node × Node))
  | alias (number : Nat)
  deriving Repr, Inhabited

/-! ## Anchors -/

/-- The numbers of names, and what the numbers stand for, the last one first: a scalar, or a
collection, which is not looked into. -/
structure Anchors where
  numbers : List (String × Nat)
  marked : List (Nat × Option Scalar)
  deriving DecidableEq, Repr

namespace Anchors

/-- Before the first anchor. -/
def start : Anchors := ⟨[], []⟩

/-- Gives a name to a node. Its number is that of the names before it, so a name that is given again
takes a number that the next new name takes too. -/
def mark (anchors : Anchors) (name : String) (content : Option Scalar) : Anchors :=
  let number := anchors.numbers.length
  ⟨(name, number) :: anchors.numbers.filter fun known => known.1 ≠ name,
    (number, content) :: anchors.marked⟩

/-- The number of a name. -/
def number? (anchors : Anchors) (name : String) : Option Nat := anchors.numbers.lookup name

/-- The scalar that a number stands for, if it stands for one. -/
def scalar? (anchors : Anchors) (number : Nat) : Option Scalar :=
  (anchors.marked.lookup number).join

end Anchors

/-! ## Reading nodes -/

/-- What has not been read yet, and the anchors so far. -/
structure Rest where
  tokens : List Token
  anchors : Anchors

/-- Readers, which can fail. -/
abbrev Reader := StateT Rest Option

namespace Reader

/-- The next token. -/
def next : Reader Token := return (← get).tokens.headD .textEnd

/-- Goes past the next token. -/
def skip : Reader Unit := modify fun rest => { rest with tokens := rest.tokens.tail }

/-- Goes past the next token if it is the given one, and says whether it was. -/
def skipIf (token : Token) : Reader Bool := do
  if (← next) = token then
    skip
    return true
  else return false

/-- The next token has to be the given one. -/
def expect (token : Token) : Reader Unit := do
  unless ← skipIf token do failure

/-- The next token is one of the given ones. -/
def isAt (tokens : List Token) : Reader Bool := return tokens.contains (← next)

/-- Gives a name to a node, if it has one. -/
def mark (name : Option String) (content : Option Scalar) : Reader Unit :=
  match name with
  | some name => modify fun rest => { rest with anchors := rest.anchors.mark name content }
  | none => return ()

end Reader

open Reader

/-- Where a node stands: on a line, in a block, or in a block as a key or a value, where the items
of a sequence need not be indented. -/
inductive Place where
  | flow
  | block
  | member
  deriving DecidableEq, Repr

/-- The name of a node, if one is next. -/
def readAnchor : Reader (Option String) := do
  match ← next with
  | .anchor name =>
      skip
      return some name
  | _ => return none

/-- The tag of a node, if one is next. -/
def readTag (handles : Handles) : Reader (Option String) := do
  match ← next with
  | .tag tag =>
      skip
      return some (← tag.resolve? handles)
  | _ => return none

/-- The name and the tag of a node, in any order. -/
def readProperties (handles : Handles) : Reader (Option String × Option String) := do
  match ← readAnchor with
  | some name => return (some name, ← readTag handles)
  | none =>
      match ← readTag handles with
      | some tag => return (← readAnchor, some tag)
      | none => return (none, none)

/-- What stands where no node is written. -/
def nothing : Node := .scalar (.absent none)

mutual
/-- A node. Every step goes past a token or into a collection, so twice the number of tokens bounds
the steps. -/
def readNode (handles : Handles) : Nat → Place → Reader Node
  | 0, _ => failure
  | steps + 1, place => do
      match ← next with
      | .alias name =>
          skip
          return .alias (← (← get).anchors.number? name)
      | _ =>
          let (name, tag) ← readProperties handles
          match ← next with
          | .scalar style text =>
              skip
              mark name (some ⟨tag, style, text⟩)
              return .scalar ⟨tag, style, text⟩
          | .flowSequence =>
              skip
              mark name none
              return .sequence (← readFlowItems handles steps true)
          | .flowMapping =>
              skip
              mark name none
              return .mapping (← readFlowMembers handles steps true)
          | token =>
              if token = .blockEntry ∧ place = .member then
                mark name none
                return .sequence (← readItems handles steps)
              else if token = .blockSequence ∧ place ≠ .flow then
                skip
                mark name none
                let items ← readItems handles steps
                expect .blockEnd
                return .sequence items
              else if token = .blockMapping ∧ place ≠ .flow then
                skip
                mark name none
                return .mapping (← readMembers handles steps)
              else if name.isSome ∨ tag.isSome then
                mark name (some (.absent tag))
                return .scalar (.absent tag)
              else failure

/-- The items of a block, each after its mark. -/
def readItems (handles : Handles) : Nat → Reader (List Node)
  | 0 => failure
  | steps + 1 => do
      if ← skipIf .blockEntry then
        let item ←
          if ← isAt [.blockEntry, .key, .value, .blockEnd] then pure nothing
          else readNode handles steps .block
        return item :: (← readItems handles steps)
      else return []

/-- The keys and values of a block, up to its end. -/
def readMembers (handles : Handles) : Nat → Reader (List (Node × Node))
  | 0 => failure
  | steps + 1 => do
      if ← skipIf .blockEnd then return []
      else
        expect .key
        let key ← readMember handles steps
        let value ← if ← skipIf .value then readMember handles steps else pure nothing
        return (key, value) :: (← readMembers handles steps)

/-- A key or a value of a block. -/
def readMember (handles : Handles) : Nat → Reader Node
  | 0 => failure
  | steps + 1 => do
      if ← isAt [.key, .value, .blockEnd] then return nothing
      else readNode handles steps .member

/-- The items of a sequence on a line, up to its end. A key with its value is an item too. -/
def readFlowItems (handles : Handles) : Nat → Bool → Reader (List Node)
  | 0, _ => failure
  | steps + 1, first => do
      if ← skipIf .flowSequenceEnd then return []
      else
        unless first do expect .flowEntry
        if ← skipIf .flowSequenceEnd then return []
        else
          let item ←
            if ← skipIf .key then readPair handles steps else readNode handles steps .flow
          return item :: (← readFlowItems handles steps false)

/-- A key with its value as an item, after its mark. If no key is written, the token that shows so
counts as read. -/
def readPair (handles : Handles) : Nat → Reader Node
  | 0 => failure
  | steps + 1 => do
      let key ←
        if ← isAt [.value, .flowEntry, .flowSequenceEnd] then do
          skip
          pure nothing
        else readNode handles steps .flow
      let value ← readFlowValue handles steps .flowSequenceEnd
      return .mapping [(key, value)]

/-- The value behind a key on a line, if there is one. -/
def readFlowValue (handles : Handles) : Nat → Token → Reader Node
  | 0, _ => failure
  | steps + 1, closing => do
      if ← skipIf .value then
        if ← isAt [.flowEntry, closing] then return nothing
        else readNode handles steps .flow
      else return nothing

/-- The keys and values of a mapping on a line, up to its end. -/
def readFlowMembers (handles : Handles) : Nat → Bool → Reader (List (Node × Node))
  | 0, _ => failure
  | steps + 1, first => do
      if ← skipIf .flowMappingEnd then return []
      else
        unless first do expect .flowEntry
        if ← skipIf .flowMappingEnd then return []
        else
          let member ←
            if ← skipIf .key then do
              let key ←
                if ← isAt [.value, .flowEntry, .flowMappingEnd] then pure nothing
                else readNode handles steps .flow
              pure (key, ← readFlowValue handles steps .flowMappingEnd)
            else pure (← readNode handles steps .flow, nothing)
          return member :: (← readFlowMembers handles steps false)
end

/-! ## Documents -/

/-- A tree, and what the aliases in it stand for. -/
structure Document where
  root : Node
  anchors : Anchors

/-- The handles that are declared at the front. A version is declared at most once, and it is 1.1 or
1.2. -/
def readDirectives : Nat → Bool → Handles → Reader Handles
  | 0, _, _ => failure
  | steps + 1, versioned, handles => do
      match ← next with
      | .version major minor =>
          if versioned ∨ major ≠ 1 ∨ (minor ≠ 1 ∧ minor ≠ 2) then failure
          skip
          readDirectives steps true handles
      | .declaration handle start =>
          let handles ← handles.declare? handle start
          skip
          readDirectives steps versioned handles
      | _ => return handles

/-- Goes past the ends of documents. -/
def skipEnds : Nat → Reader Unit
  | 0 => return ()
  | steps + 1 => do if ← skipIf .documentEnd then skipEnds steps

/-- What is in a document after the line that starts it. -/
def readContent (handles : Handles) (steps : Nat) : Reader Node := do
  match ← next with
  | .version _ _ | .declaration _ _ | .documentStart | .documentEnd | .textEnd => return nothing
  | _ => readNode handles steps .block

/-- The tree of the only document, if there is one. Directives need a line that starts the document,
and without that line the document has to have a node. -/
def readDocument (steps : Nat) : Reader (Option Node) := do
  match ← next with
  | .textEnd => return none
  | .version _ _ | .declaration _ _ | .documentStart =>
      let handles ← readDirectives steps false []
      expect .documentStart
      let root ← readContent handles steps
      skipEnds steps
      expect .textEnd
      return some root
  | _ =>
      let root ← readNode [] steps .block
      skipEnds steps
      expect .textEnd
      return some root

/-- The document of a text: the outer `none` refuses the text, the inner one says that there is no
document in it. -/
def Document.ofText? (text : String) : Option (Option Document) := do
  let tokens ← Token.ofText? text
  let (root, rest) ← (readDocument (2 * tokens.length + 1)).run ⟨tokens, .start⟩
  return root.map (⟨·, rest.anchors⟩)

end TableCache.Yaml
