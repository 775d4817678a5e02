import TableCache.Config.Basic
import TableCache.Json.Reader

/-!
# Records of words

Configurations and counters are written as records whose members are words. A record is an object
with named members, or an array with the words in the order of the names. Members with other names
are passed over; a member given twice is refused.
-/

namespace TableCache

namespace Json

/-- The words of named members of an object, in the order of the names: the outer `none` refuses the
record, an inner one stands for a member that is missing. Every name has to stand for a text. -/
def objectWords? (names : List String) (members : List (String × Json)) :
    Option (List (Option Nat)) := do
  let named ← members.mapM fun (name, value) => (decode name).map fun name => (name, value)
  names.mapM fun name =>
    match named.filter fun member => member.1 == name with
    | [] => some none
    | [member] => member.2.word?.map some
    | _ => none

/-- The words of an array, which has no more elements than there are names. -/
def arrayWords? (names : List String) (elements : List Json) : Option (List (Option Nat)) := do
  let words ← elements.mapM word?
  if names.length < words.length then none
  else return words.map some ++ List.replicate (names.length - words.length) none

/-- The words of a record, in the order of the names. -/
def recordWords? (names : List String) : Json → Option (List (Option Nat))
  | .object members => objectWords? names members
  | .array elements => arrayWords? names elements
  | _ => none

/-- The counters of a record in which no counter is missing. -/
def statistics? (record : Json) : Option Statistics := do
  let words ← recordWords? Statistics.names record
  Statistics.ofList? (← words.mapM id)

/-- Counters as a record. -/
def ofStatistics (statistics : Statistics) : Json :=
  .object ((Statistics.names.zip statistics.toList).map fun (name, count) => (name, ofNat count))

/-- The class of a look-up, by its name alone or as the name of a member that is nothing. -/
def access? : Json → Option Access
  | .string written => (decode written).bind Access.ofName?
  | .object [(name, .null)] => (decode name).bind Access.ofName?
  | _ => none

end Json

namespace Config

/-- The configuration that a text in the JSON notation states; it is not validated. -/
def ofJson (text : String) : Except CacheError Config :=
  match (Json.parse text).bind (Json.recordWords? names) with
  | some words => .ok (ofWords words)
  | none => .error (.json "not a record of a configuration")

end Config

end TableCache
