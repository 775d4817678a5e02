import TableCache.Config.Basic
import TableCache.Yaml.Node

/-!
# Configurations in the YAML notation

A configuration is a mapping with the two members `recency_capacity` and `statistics_interval_secs`.
Both may be missing, other members are passed over, and a member given twice is refused. Nothing at
all is the standard configuration.

Main definitions:

1. `Yaml.number?`: the word that a plain scalar stands for;
2. `Config.ofYaml`, `Config.ofFile`: the configuration of a text and of a file.
-/

namespace TableCache

namespace Yaml

/-! ## Numbers -/

/-- The natural number that is written: in base ten without a needless zero in front, or in base
sixteen, eight or two after a zero and a letter, with a plus sign in front or without. -/
def natural? (chars : List Char) : Option Nat :=
  match Text.dropPlus chars with
  | '0' :: 'x' :: digits => Text.number? 16 digits
  | '0' :: 'o' :: digits => Text.number? 8 digits
  | '0' :: 'b' :: digits => Text.number? 2 digits
  | '0' :: _ :: _ => none
  | digits => Text.number? 10 digits

/-- A scalar may be read as a number: it is plain, or a block whose lines are kept and whose tag
says so. -/
def Scalar.isNumeric (scalar : Scalar) : Bool :=
  scalar.style == .plain ||
    (scalar.style == .literal && scalar.tag == some "tag:yaml.org,2002:int")

/-- The word that a scalar stands for. -/
def Scalar.word? (scalar : Scalar) : Option Nat :=
  if scalar.isNumeric then (natural? scalar.text.toList).filter (· < Word.limit) else none

/-! ## Members -/

/-- The scalar that a node is or stands for. -/
def Document.scalar? (document : Document) : Node → Option Scalar
  | .scalar scalar => some scalar
  | .alias number => document.anchors.scalar? number
  | _ => none

/-- The words of named members of a mapping, in the order of the names: the outer `none` refuses the
mapping, an inner one stands for a member that is missing. Every key has to be a scalar. -/
def Document.words? (document : Document) (names : List String) (members : List (Node × Node)) :
    Option (List (Option Nat)) := do
  let named ← members.mapM fun (key, value) =>
    (document.scalar? key).map fun scalar => (scalar.text, value)
  names.mapM fun name =>
    match named.filter fun member => member.1 == name with
    | [] => some none
    | [member] => (document.scalar? member.2).bind fun scalar => scalar.word?.map some
    | _ => none

end Yaml

namespace Config

/-- The configuration that a document states. A document with nothing in it states nothing. -/
def ofDocument? : Option Yaml.Document → Option Config
  | none => some standard
  | some document =>
      match document.root with
      | .scalar scalar =>
          if scalar.style = .plain ∧ scalar.text.isEmpty then some standard else none
      | .mapping members => (document.words? names members).map ofWords
      | _ => none

/-- The configuration that a text in the YAML notation states. All of the text is read before the
configuration is validated. -/
def ofYaml (text : String) : Except CacheError Config :=
  match (Yaml.Document.ofText? text).bind ofDocument? with
  | some config => config.validate.map fun _ => config
  | none => .error (.config "not a configuration")

/-- The configuration of a file, of which is known what it holds or why it could not be read. It has
to hold text. -/
def ofFile : Except FileError ByteArray → Except CacheError Config
  | .error cause => .error (.io cause "the configuration could not be read")
  | .ok content =>
      match String.fromUTF8? content with
      | some text => ofYaml text
      | none => .error (.io .invalidData "the configuration is not text")

end Config

end TableCache
