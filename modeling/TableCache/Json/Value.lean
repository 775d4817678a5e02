import TableCache.Text.Digits

/-!
# Records in the JSON notation

A value keeps its numbers and its strings as they are written, digits and escapes included, so that
it can be written again without a change. What a string stands for is asked for separately.

Main definitions:

1. `Json`: values as written;
2. `Json.ofText`: a text as a string;
3. `Json.text?`: the text that a string stands for;
4. `Json.word?`: the word that a number stands for;
5. `Json.render`, `Json.lines`: a value on one line, and on indented lines.
-/

namespace TableCache

/-- A value as written: digits for a number, and what stands between the quotes for a string. -/
inductive Json where
  | null
  | bool (value : Bool)
  | number (digits : String)
  | string (written : String)
  | array (elements : List Json)
  | object (members : List (String × Json))
  deriving Repr, Inhabited

namespace Json

/-! ## Strings -/

/-- The number that four digits of base sixteen stand for. -/
def hexQuad? (first second third fourth : Char) : Option Nat :=
  Text.number? 16 [first, second, third, fourth]

/-- What a letter after a backslash stands for. -/
def escaped? : Char → Option Char
  | '"' => some '"'
  | '\\' => some '\\'
  | '/' => some '/'
  | 'b' => some '\x08'
  | 'f' => some '\x0c'
  | 'n' => some '\n'
  | 'r' => some '\r'
  | 't' => some '\t'
  | _ => none

/-- The character of two halves of a pair: a high one and a low one. -/
def pair? (high low : Nat) : Option Char :=
  if 0xD800 ≤ high ∧ high < 0xDC00 ∧ 0xDC00 ≤ low ∧ low < 0xE000 then
    some (Char.ofNat (0x10000 + (high - 0xD800) * 0x400 + (low - 0xDC00)))
  else none

/-- What written characters stand for. Half of a pair alone stands for nothing. -/
def unescape : List Char → Option (List Char)
  | [] => some []
  | '\\' :: 'u' :: a :: b :: c :: d :: '\\' :: 'u' :: e :: f :: g :: h :: rest => do
      let first ← hexQuad? a b c d
      let second ← hexQuad? e f g h
      match pair? first second with
      | some char => return char :: (← unescape rest)
      | none =>
          if 0xD800 ≤ first ∧ first < 0xE000 then none
          else return Char.ofNat first :: (← unescape ('\\' :: 'u' :: e :: f :: g :: h :: rest))
  | '\\' :: 'u' :: a :: b :: c :: d :: rest => do
      let first ← hexQuad? a b c d
      if 0xD800 ≤ first ∧ first < 0xE000 then none
      else return Char.ofNat first :: (← unescape rest)
  | '\\' :: letter :: rest => do
      let char ← escaped? letter
      return char :: (← unescape rest)
  | char :: rest => do
      return char :: (← unescape rest)
  termination_by written => written.length

/-- A character as it is written: quotes, backslashes and control characters are escaped. -/
def escape (char : Char) : List Char :=
  if char = '"' then ['\\', '"']
  else if char = '\\' then ['\\', '\\']
  else if char.toNat < 0x20 then
    let digits := Nat.toDigits 16 char.toNat
    ['\\', 'u'] ++ List.replicate (4 - digits.length) '0' ++ digits
  else [char]

/-- A text as a string. -/
def ofText (text : String) : Json := .string (String.ofList (text.toList.flatMap escape))

/-- What written characters of a member name or a string stand for. -/
def decode (written : String) : Option String := (unescape written.toList).map String.ofList

/-- The text that a string stands for. -/
def text? : Json → Option String
  | .string written => decode written
  | _ => none

/-! ## Numbers -/

/-- A natural number. -/
def ofNat (value : Nat) : Json := .number (toString value)

/-- The word that a number stands for: digits alone, without sign, fraction or exponent. -/
def word? : Json → Option Nat
  | .number digits => (Text.number? 10 digits.toList).filter fun value => value < Word.limit
  | _ => none

/-! ## Members -/

/-- The value of a member, by the text that its name stands for. -/
def member? (value : Json) (name : String) : Option Json :=
  match value with
  | .object members => (members.find? fun member => decode member.1 == some name).map Prod.snd
  | _ => none

/-! ## Writing -/

mutual
/-- A text with a value after it, on one line without blanks. -/
def renderAfter (text : String) : Json → String
  | .null => text ++ "null"
  | .bool value => text ++ if value then "true" else "false"
  | .number digits => text ++ digits
  | .string written => text ++ "\"" ++ written ++ "\""
  | .array [] => text ++ "[]"
  | .array (first :: rest) => renderElements (renderAfter (text ++ "[") first) rest ++ "]"
  | .object [] => text ++ "\x7b\x7d"
  | .object ((name, value) :: rest) =>
      renderMembers (renderAfter (text ++ "\x7b\"" ++ name ++ "\":") value) rest ++ "\x7d"

/-- A text with elements after it, each after a comma. -/
def renderElements (text : String) : List Json → String
  | [] => text
  | first :: rest => renderElements (renderAfter (text ++ ",") first) rest

/-- A text with members after it, each after a comma. -/
def renderMembers (text : String) : List (String × Json) → String
  | [] => text
  | (name, value) :: rest =>
      renderMembers (renderAfter (text ++ ",\"" ++ name ++ "\":") value) rest
end

/-- A value on one line without blanks. -/
def render (value : Json) : String := renderAfter "" value

/-- A new line with an indentation. -/
def newLine (depth : Nat) : String := "\n" ++ String.join (List.replicate depth "  ")

mutual
/-- A value on several lines, two blanks further in at every level. -/
def lines (depth : Nat) : Json → String
  | .null => "null"
  | .bool value => if value then "true" else "false"
  | .number digits => digits
  | .string written => "\"" ++ written ++ "\""
  | .array [] => "[]"
  | .array (first :: rest) =>
      "[" ++ newLine (depth + 1) ++ lines (depth + 1) first ++ lineElements (depth + 1) rest
        ++ newLine depth ++ "]"
  | .object [] => "\x7b\x7d"
  | .object ((name, value) :: rest) =>
      "\x7b" ++ newLine (depth + 1) ++ "\"" ++ name ++ "\": " ++ lines (depth + 1) value
        ++ lineMembers (depth + 1) rest ++ newLine depth ++ "\x7d"

/-- Elements, each after a comma on a line of its own. -/
def lineElements (depth : Nat) : List Json → String
  | [] => ""
  | first :: rest => "," ++ newLine depth ++ lines depth first ++ lineElements depth rest

/-- Members, each after a comma on a line of its own. -/
def lineMembers (depth : Nat) : List (String × Json) → String
  | [] => ""
  | (name, value) :: rest =>
      "," ++ newLine depth ++ "\"" ++ name ++ "\": " ++ lines depth value
        ++ lineMembers depth rest
end

end Json

end TableCache
