import TableCache.Text.Quoted

/-!
# Keys

A key names a table. Its number is its identity and is never used again; its label only helps a
reader of logs and messages.
-/

namespace TableCache

/-- The number and the label of a key. -/
structure Key where
  id : Nat
  label : String
  deriving DecidableEq, Repr, Inhabited

namespace Key

/-- A key as it appears in logs and messages: label, hash sign, number. -/
def text (key : Key) : String := key.label ++ "#" ++ toString key.id

/-- A key with its two parts named, the label between quotes. -/
def describe (key : Key) : String :=
  "CacheKey \x7b id: " ++ toString key.id ++ ", label: " ++ Text.quoted key.label ++ " \x7d"

end Key

end TableCache
