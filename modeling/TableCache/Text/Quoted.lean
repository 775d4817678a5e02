import TableCache.Text.Plain

/-!
# Quoted text

Labels and messages are described between double quotes. A quote and a backslash are preceded by a
backslash, four control characters have a letter of their own, and a character without a shape of
its own is written as its number in hexadecimal between braces.
-/

namespace TableCache.Text

/-- A character as it stands between quotes. -/
def escape (char : Char) : List Char :=
  if char = '"' then ['\\', '"']
  else if char = '\\' then ['\\', '\\']
  else if char = '\n' then ['\\', 'n']
  else if char = '\r' then ['\\', 'r']
  else if char = '\t' then ['\\', 't']
  else if char = '\x00' then ['\\', '0']
  else if isPlain char then [char]
  else ['\\', 'u', '\x7b'] ++ Nat.toDigits 16 char.toNat ++ ['\x7d']

/-- A text between double quotes. -/
def quoted (text : String) : String :=
  String.ofList (['"'] ++ text.toList.flatMap escape ++ ['"'])

example : quoted "a\"b\tc" = "\"a\\\"b\\tc\"" := by cbv

/-- A mark that only extends the letter before it is written as its number. -/
example : quoted "e\u0301" = "\"e\\u\x7b301\x7d\"" := by cbv

end TableCache.Text
