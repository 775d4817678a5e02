import TableCache.Json.Value

/-!
# Reading the JSON notation

A text is one value with blanks around it and nothing else. The readers here take characters from
the front of a text and give back what they read and the rest; `none` means that the text is not in
the notation.
-/

namespace TableCache.Json

/-- Drops blanks: space, tab, line feed and carriage return. -/
def skipBlanks : List Char → List Char
  | [] => []
  | char :: rest =>
      if char = ' ' ∨ char = '\t' ∨ char = '\n' ∨ char = '\r' then skipBlanks rest
      else char :: rest

/-- The characters of a string up to its closing quote, as written. Control characters have to be
escaped. -/
def readString : List Char → Option (List Char × List Char)
  | [] => none
  | '"' :: rest => some ([], rest)
  | '\\' :: 'u' :: a :: b :: c :: d :: rest =>
      if (hexQuad? a b c d).isSome then
        (readString rest).map fun (written, rest) =>
          ('\\' :: 'u' :: a :: b :: c :: d :: written, rest)
      else none
  | '\\' :: letter :: rest =>
      if (escaped? letter).isSome then
        (readString rest).map fun (written, rest) => ('\\' :: letter :: written, rest)
      else none
  | char :: rest =>
      if char.toNat < 0x20 ∨ char = '\\' then none
      else (readString rest).map fun (written, rest) => (char :: written, rest)

/-- At least one digit. -/
def readDigits (text : List Char) : Option (List Char × List Char) :=
  if (text.takeWhile Char.isDigit).isEmpty then none
  else some (text.takeWhile Char.isDigit, text.dropWhile Char.isDigit)

/-- The integer part of a number: no zero before another digit. -/
def readInteger (text : List Char) : Option (List Char × List Char) :=
  match readDigits text with
  | some ('0' :: _ :: _, _) => none
  | other => other

/-- A fraction, if one follows. -/
def readFraction : List Char → Option (List Char × List Char)
  | '.' :: rest => (readDigits rest).map fun (digits, rest) => ('.' :: digits, rest)
  | text => some ([], text)

/-- The sign of an exponent, if there is one. -/
def readSign : List Char → List Char × List Char
  | '+' :: rest => (['+'], rest)
  | '-' :: rest => (['-'], rest)
  | text => ([], text)

/-- An exponent, if one follows. -/
def readExponent : List Char → Option (List Char × List Char)
  | [] => some ([], [])
  | mark :: rest =>
      if mark = 'e' ∨ mark = 'E' then
        let (sign, rest) := readSign rest
        (readDigits rest).map fun (digits, rest) => (mark :: sign ++ digits, rest)
      else some ([], mark :: rest)

/-- A number without its sign, as written. -/
def readUnsigned (text : List Char) : Option (List Char × List Char) := do
  let (integer, text) ← readInteger text
  let (fraction, text) ← readFraction text
  let (exponent, text) ← readExponent text
  return (integer ++ fraction ++ exponent, text)

/-- A number, as written. -/
def readNumber : List Char → Option (List Char × List Char)
  | '-' :: rest => (readUnsigned rest).map fun (digits, rest) => ('-' :: digits, rest)
  | text => readUnsigned text

/-- Takes a word from the front of a text. -/
def readWord (word text : List Char) : Option (List Char) :=
  if word.isPrefixOf text then some (text.drop word.length) else none

mutual
/-- A value at the front of a text that starts without blanks. Every step takes a character, so
the length of the text bounds the steps. -/
def readValue : Nat → List Char → Option (Json × List Char)
  | 0, _ => none
  | _, [] => none
  | steps + 1, char :: rest =>
      if char = '"' then
        (readString rest).map fun (written, rest) => (.string (String.ofList written), rest)
      else if char = '[' then
        match skipBlanks rest with
        | ']' :: rest => some (.array [], rest)
        | text => do
            let (first, text) ← readValue steps text
            let (others, text) ← readElements steps (skipBlanks text)
            return (.array (first :: others), text)
      else if char = '\x7b' then
        match skipBlanks rest with
        | '\x7d' :: rest => some (.object [], rest)
        | text => do
            let (first, text) ← readMember steps text
            let (others, text) ← readMembers steps (skipBlanks text)
            return (.object (first :: others), text)
      else if char = 't' then
        (readWord ['r', 'u', 'e'] rest).map fun rest => (.bool true, rest)
      else if char = 'f' then
        (readWord ['a', 'l', 's', 'e'] rest).map fun rest => (.bool false, rest)
      else if char = 'n' then
        (readWord ['u', 'l', 'l'] rest).map fun rest => (.null, rest)
      else
        (readNumber (char :: rest)).map fun (digits, rest) =>
          (.number (String.ofList digits), rest)

/-- The elements after the first one, up to the closing bracket. -/
def readElements : Nat → List Char → Option (List Json × List Char)
  | 0, _ => none
  | _, ']' :: rest => some ([], rest)
  | steps + 1, ',' :: rest => do
      let (first, text) ← readValue steps (skipBlanks rest)
      let (others, text) ← readElements steps (skipBlanks text)
      return (first :: others, text)
  | _, _ => none

/-- A name, a colon and a value. -/
def readMember : Nat → List Char → Option ((String × Json) × List Char)
  | 0, _ => none
  | steps + 1, '"' :: rest => do
      let (name, text) ← readString rest
      match skipBlanks text with
      | ':' :: text =>
          let (value, text) ← readValue steps (skipBlanks text)
          return ((String.ofList name, value), text)
      | _ => none
  | _, _ => none

/-- The members after the first one, up to the closing brace. -/
def readMembers : Nat → List Char → Option (List (String × Json) × List Char)
  | 0, _ => none
  | _, '\x7d' :: rest => some ([], rest)
  | steps + 1, ',' :: rest => do
      let (first, text) ← readMember steps (skipBlanks rest)
      let (others, text) ← readMembers steps (skipBlanks text)
      return (first :: others, text)
  | _, _ => none
end

/-- The value of a text. -/
def parse (text : String) : Option Json := do
  let chars := skipBlanks text.toList
  let (value, rest) ← readValue (chars.length + 1) chars
  if (skipBlanks rest).isEmpty then return value else none

example : (parse " [1.50, \"a\\u0062\"] ").map render = some "[1.50,\"a\\u0062\"]" := by cbv

end TableCache.Json
