/-
  Lines of the journal.

  A line has a level, a sentence and a few named facts.  The five levels go from the gravest to the most
  talkative.  A level is read from its name, whatever the case of its ASCII letters, or from its number:
  1 for `error` up to 5 for `trace`.
-/
import CallMedia.Fault

namespace CallMedia

/-- How grave a line is. -/
inductive Level where
  | error
  | warn
  | info
  | debug
  | trace
deriving DecidableEq, Repr, Inhabited

namespace Level

/-- The name of a level. -/
def name : Level → String
  | error => "ERROR"
  | warn => "WARN"
  | info => "INFO"
  | debug => "DEBUG"
  | trace => "TRACE"

/-- The number of a level: the more talkative, the greater. -/
def number : Level → Nat
  | error => 1
  | warn => 2
  | info => 3
  | debug => 4
  | trace => 5

/-- Every level, the gravest first. -/
def all : List Level := [error, warn, info, debug, trace]

/-- The level with a number. -/
def ofNumber? (n : Nat) : Option Level := all.find? (fun l => l.number == n)

/-- The level with a name, in any case. -/
def ofName? (name : String) : Option Level :=
  let upper := name.toList.map Char.toUpper
  all.find? (fun l => l.name.toList == upper)

/-- An unsigned number: decimal digits behind an optional plus sign. -/
def numeral? (text : String) : Option Nat :=
  let digits := match text.toList with
    | '+' :: rest => rest
    | cs => cs
  if digits.isEmpty || !digits.all Char.isDigit then none
  else some (digits.foldl (fun n c => n * 10 + (c.toNat - '0'.toNat)) 0)

/-- The level that a text stands for. -/
def ofText? (text : String) : Option Level :=
  match numeral? text with
  | some n => ofNumber? n
  | none => ofName? text

/-- The level that a text stands for, or the reason why there is none. -/
def ofText (text : String) : Except Fault Level :=
  match ofText? text with
  | some l => .ok l
  | none => .error (.configuration s!"Invalid log level: {text}")

/-- A level is read back from its number. -/
theorem ofNumber?_number (l : Level) : ofNumber? l.number = some l := by cases l <;> rfl

end Level

/-- One line of the journal. -/
structure Line where
  level : Level
  sentence : String
  /-- Named facts, in order. -/
  facts : List (String × String) := []
deriving DecidableEq, Repr

/-- A line as it is written. -/
def Line.text (l : Line) : String :=
  l.facts.foldl (fun t (key, value) => s!"{t} {key}={value}") s!"{l.level.name} {l.sentence}"

end CallMedia
