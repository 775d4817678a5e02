import TableCache.Event
import TableCache.Text.Alphanumeric
import TableCache.Text.Digits
import TableCache.Text.Octets
import TableCache.Text.White

/-!
# Log filters

A filter is a list of directives between commas. A directive says from which level on messages are
logged, for all messages or for some: those of the parts of a program whose name starts with its
target, those with some field, or those in some span. Of the directives that concern a message the
most particular one decides, and of several that are equally particular the last.

A directive may have white space around it. Its marks are looked for without the white space, but
its parts are cut out of the whole text, at the places that the marks have without it. So with white
space in front a directive does not say what it seems to say, and a part of it may even start or end
inside of a character. Then the filter cannot be used at all.

Main definitions:

1. `Directive`, `Directive.ofText`: a directive and its reader;
2. `LogFilter.ofText?`, `LogFilter.shows`: a filter, and whether it lets a message through.
-/

namespace TableCache.Command

/-- The name of a level, in any case, or its number; zero is for no level at all. -/
def threshold? (text : String) : Option (Option Level) :=
  match Text.word? text with
  | some 0 => some none
  | some 1 => some Level.error
  | some 2 => some Level.warn
  | some 3 => some Level.info
  | some 4 => some Level.debug
  | some 5 => some Level.trace
  | some _ => none
  | none => if text.toLower = "off" then some none else (Level.ofName? text.toLower).map some

/-- From which level on some messages are logged; without a level none is. -/
structure Directive where
  /-- How the names of the parts start that it is for; without it, it is for all. -/
  target : Option String
  /-- The span that its messages are in; without it, they may be outside of spans. -/
  span : Option String
  /-- The fields that its messages have. -/
  fields : List String
  least : Option Level
  deriving DecidableEq, Repr

/-- Why a text is no directive. -/
inductive Flaw where
  /-- It does not have the form of one. -/
  | malformed
  /-- A part of it starts or ends inside of a character. -/
  | split
  deriving DecidableEq, Repr

namespace Directive

/-- A target starts with a letter, a digit, or one of three marks. -/
def startsTarget (char : Char) : Bool :=
  char == '-' || char == ':' || char == '_' || Text.isAlphanumeric char

/-- What stands from one place of a text to another. -/
def part (whole : List Char) (start stop : Nat) : Except Flaw String :=
  match Text.cut? whole start stop with
  | some chars => .ok (String.ofList chars)
  | none => .error .split

/-- What is said behind the target and the brackets, which is at some place: a level behind an
equals sign, or nothing, which stands for the least level. -/
def readLevel (whole : List Char) (start : Nat) : List Char → Except Flaw (Option Level)
  | [] => .ok (some .trace)
  | '=' :: _ =>
      match Text.dropOctets? (start + 1) whole with
      | none => .error .split
      | some [] => .ok (some .trace)
      | some chars =>
          match threshold? (String.ofList chars) with
          | some least => .ok least
          | none => .error .malformed
  | _ => .error .malformed

/-- What brackets say, the place behind them, and what comes there. -/
structure Scope where
  span : Option String
  fields : List String
  stop : Nat
  rest : List Char
  deriving DecidableEq, Repr

/-- Reads brackets after the opening one: the name of a span, or the name of a field between braces,
or both. Between braces there has to be something. -/
def readScope (whole : List Char) (start : Nat) (chars : List Char) : Except Flaw Scope := do
  let span := chars.takeWhile fun char => char ≠ '\x7b' ∧ char ≠ ']'
  let stop := start + Text.octets span
  match chars.drop span.length with
  | [] => throw .malformed
  | ']' :: rest => return ⟨some (← part whole start stop), [], stop + 1, rest⟩
  | _ :: rest =>
      let span ← part whole start stop
      let field := rest.takeWhile (· ≠ '\x7d')
      let start := stop + 1
      let stop := start + Text.octets field
      match rest.drop field.length with
      | [] => throw .malformed
      | _ :: after =>
          let field ← part whole start stop
          match field.isEmpty, after with
          | false, ']' :: rest =>
              return ⟨if span.isEmpty then none else some span, [field], stop + 2, rest⟩
          | _, _ => throw .malformed

/-- A text as a directive. -/
def ofText (text : String) : Except Flaw Directive := do
  let whole := text.toList
  let seen := Text.trimWhite whole
  let target := seen.takeWhile fun char => char ≠ '=' ∧ char ≠ '['
  let stop := Text.octets target
  if !seen.head?.any (fun first => first == '[' || startsTarget first) then throw .malformed
  match seen.drop target.length with
  | [] =>
      match threshold? text with
      | some least => return ⟨none, none, [], least⟩
      | none => return ⟨some text, none, [], some .trace⟩
  | '[' :: rest =>
      let target ← part whole 0 stop
      let scope ← readScope whole (stop + 1) rest
      let least ← readLevel whole scope.stop scope.rest
      return ⟨if target.isEmpty then none else some target, scope.span, scope.fields, least⟩
  | rest =>
      let target ← part whole 0 stop
      let least ← readLevel whole stop rest
      return ⟨some target, none, [], least⟩

/-- A directive is for messages outside of spans, of a part of the program and with some fields. -/
def concerns (directive : Directive) (name : String) (fields : List String) : Bool :=
  directive.span.isNone && directive.target.all (fun target => target.isPrefixOf name) &&
    directive.fields.all fields.contains

/-- How particular a directive is: by the length of its target, and then by its fields. -/
def weight (directive : Directive) : Nat × Nat :=
  (directive.target.elim 0 fun target => target.utf8ByteSize + 1, directive.fields.length)

/-- The second of two directives is as particular as the first, or more. -/
def yields (first second : Directive) : Bool :=
  first.weight.1 < second.weight.1 ||
    (first.weight.1 == second.weight.1 && first.weight.2 ≤ second.weight.2)

end Directive

/-- Directives, of which later ones replace earlier ones. -/
abbrev LogFilter := List Directive

namespace LogFilter

/-- The directives of some texts. One that does not have the form of a directive is passed over. -/
def ofTexts? : List String → Option LogFilter
  | [] => some []
  | text :: rest =>
      match Directive.ofText text with
      | .ok directive => (ofTexts? rest).map (directive :: ·)
      | .error .malformed => ofTexts? rest
      | .error .split => none

/-- The filter that a text is, unless a part of a directive is split. -/
def ofText? (text : String) : Option LogFilter := ofTexts? (text.splitOn ",")

/-- The most particular of the directives that concern a message. -/
def deciding? (filter : LogFilter) (name : String) (fields : List String) : Option Directive :=
  (filter.filter fun directive => directive.concerns name fields).foldl (fun best directive =>
    if best.all (Directive.yields · directive) then some directive else best) none

/-- A message of a part of the program, with some fields and of a level, is logged. -/
def shows (filter : LogFilter) (name : String) (fields : List String) (level : Level) : Bool :=
  (filter.deciding? name fields).any fun directive =>
    directive.least.any fun least => least.shows level

end LogFilter

end TableCache.Command
