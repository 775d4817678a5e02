import TableCache.Binary64
import TableCache.Error

/-!
# The text exposition format

Metrics are exposed as text. A family of samples has a name, a help text and a kind; a sample has
labels and a value. Families stand in the order of their names, samples in the order of their
labels, and a family without samples is left out. Values are binary64 numbers and are written with
as few digits as read back, without an exponent.
-/

namespace TableCache.Exposition

/-- What a metric counts: a total that only grows, or a level. -/
inductive Kind where
  | counter
  | gauge
  deriving DecidableEq, Repr, Inhabited

/-- The word for a kind. -/
def Kind.text : Kind → String
  | .counter => "counter"
  | .gauge => "gauge"

/-- One measured value with its labels. -/
structure Sample where
  labels : List (String × String)
  value : Int
  deriving DecidableEq, Repr, Inhabited

/-- All samples of one name. -/
structure Family where
  name : String
  help : String
  kind : Kind
  samples : List Sample
  deriving DecidableEq, Repr, Inhabited

/-- An integer as the binary64 number nearest to it is written. -/
def number (value : Int) : String :=
  let digits := toString (Binary64.shortest value.natAbs)
  if value < 0 then "-" ++ digits else digits

/-- Labels between braces, or nothing without labels. -/
def labelText (labels : List (String × String)) : String :=
  if labels.isEmpty then ""
  else
    "\x7b" ++ ",".intercalate (labels.map fun label => label.1 ++ "=\"" ++ label.2 ++ "\"")
      ++ "\x7d"

/-- A sample on a line of its own. -/
def Sample.line (name : String) (sample : Sample) : String :=
  name ++ labelText sample.labels ++ " " ++ number sample.value ++ "\n"

/-- Two lines that introduce a family, and its samples in the order of their labels. -/
def Family.text (family : Family) : String :=
  let sorted := family.samples.mergeSort fun first second =>
    !decide (labelText second.labels < labelText first.labels)
  "# HELP " ++ family.name ++ " " ++ family.help ++ "\n"
    ++ "# TYPE " ++ family.name ++ " " ++ family.kind.text ++ "\n"
    ++ String.join (sorted.map (Sample.line family.name))

/-- All families that have samples, in the order of their names. -/
def page (families : List Family) : String :=
  let filled := families.filter fun family => !family.samples.isEmpty
  let sorted := filled.mergeSort fun first second => !decide (second.name < first.name)
  String.join (sorted.map Family.text)

/-- Adds names to those registered, unless one of them is registered already. -/
def register (registered names : List String) : Except CacheError (List String) :=
  if names.any registered.contains then
    .error (.metrics "Duplicate metrics collector registration attempted")
  else .ok (registered ++ names)

end TableCache.Exposition
