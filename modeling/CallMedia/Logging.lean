/-
  Setting up the journal.

  The journal is set up once; whoever tries again is refused.  What it lets through is decided by
  directives, each a target and the most talkative level let through for it.  A directive concerns every
  source whose name begins with its target; if it names a field as well, only the lines that have such a
  field.  Of several the one with the longest target decides, and with equal targets one with a field.  A
  directive without target and field concerns all lines; the settings' level always takes its place.

  Directives are given as a list with commas.  What cannot be read as one is passed over, and so is one
  that concerns spans or the values of fields, as nothing here is written inside a span.
-/
import CallMedia.Settings

namespace CallMedia.Logging

/-! ## Directives -/

/-- The most talkative level let through for the lines concerned; `none` lets nothing through. -/
structure Directive where
  target : String
  field : Option String := none
  most : Option Level
deriving DecidableEq, Repr

/-- The threshold that a word or number stands for: a level as `Level.ofText?` reads it, or `off` in any
    case, or 0. -/
def threshold? (text : String) : Option (Option Level) :=
  if text.toList.map Char.toUpper = "OFF".toList ∨ Level.numeral? text = some 0 then some none
  else (Level.ofText? text).map some

/-- The threshold behind a target: everything is let through unless a level is given. -/
def givenThreshold? : List Char → Option (Option Level)
  | [] | ['='] => some (some .trace)
  | '=' :: level => threshold? (String.ofList level)
  | _ => none

/-- The field named between brackets and braces, and what stands behind them.  A name before the braces
    is that of a span, and an equals sign inside them asks for a value. -/
def field? : List Char → Option (String × List Char)
  | '[' :: '\x7b' :: rest =>
    let name := rest.takeWhile (· ≠ '\x7d')
    match rest.drop name.length with
    | '\x7d' :: ']' :: rest =>
      if name = [] ∨ '=' ∈ name then none else some (String.ofList name, rest)
    | _ => none
  | _ => none

/-- The directive that a text stands for. -/
def directive? (text : String) : Option Directive :=
  match threshold? text with
  | some most => some { target := "", most }
  | none =>
    let target := text.toList.takeWhile (fun c => c ≠ '=' ∧ c ≠ '[')
    match text.toList.drop target.length with
    | '[' :: rest =>
      (field? ('[' :: rest)).bind fun (field, rest) =>
        -- only here may blanks stand at the end
        let rest := if rest.all Text.isBlank then [] else rest
        (givenThreshold? rest).map fun most =>
          { target := String.ofList target, field := some field, most }
    | rest =>
      if target = [] then none
      else (givenThreshold? rest).map fun most => { target := String.ofList target, most }

/-- Whether two directives concern the same lines. -/
def Directive.sameScope (d e : Directive) : Bool := d.target = e.target && d.field = e.field

/-- Set a directive, in place of an earlier one for the same lines. -/
def set (ds : List Directive) (d : Directive) : List Directive :=
  ds.filter (fun e => !d.sameScope e) ++ [d]

/-- The directives in force: those of a list, and the settings' level for all lines. -/
def directives (list : String) (level : Level) : List Directive :=
  set ((list.splitOn ",").filterMap directive? |>.foldl set []) { target := "", most := some level }

/-- Whether a directive concerns the lines of a source that have the given fields. -/
def Directive.concerns (d : Directive) (source : String) (fields : List String) : Bool :=
  d.target.toList.isPrefixOf source.toList && d.field.all (fun f => fields.contains f)

/-- Whether a directive goes before another where both concern a line. -/
def Directive.precedes (d e : Directive) : Bool :=
  e.target.length < d.target.length ||
    (e.target.length = d.target.length && d.field.isSome && e.field.isNone)

/-- The directive that decides for the lines of a source that have the given fields. -/
def deciding (ds : List Directive) (source : String) (fields : List String) : Option Directive :=
  (ds.filter (·.concerns source fields)).foldl
    (fun best d =>
      match best with
      | none => some d
      | some b => if d.precedes b then some d else some b)
    none

/-- Whether lines of a source and level, with the given fields, are let through. -/
def lets (ds : List Directive) (source : String) (fields : List String) (level : Level) : Bool :=
  match (deciding ds source fields).bind Directive.most with
  | some most => level.number ≤ most.number
  | none => false

/-! ## The journal -/

/-- A character as the journal shows it: what could steer a terminal is written by its code. -/
def shown (c : Char) : List Char :=
  if c ∈ ['\x07', '\x08', '\x0c', '\x1b', '\x7f'] then
    ['\\', 'x', Nat.digitChar (c.toNat / 16), Nat.digitChar (c.toNat % 16)]
  else if 0x80 ≤ c.toNat ∧ c.toNat ≤ 0x9f then
    ['\\', 'u', '\x7b'] ++ Nat.toDigits 16 c.toNat ++ ['\x7d']
  else [c]

/-- The state of the journal: the directives in force, once it is set up. -/
abbrev Journal := Option (List Directive)

/-- The first sentence of the journal. -/
def opening (appName : String) : String :=
  String.ofList (s!"Starting {appName} (media server control v0.1.0)".toList.flatMap shown)

/-- The field that holds the sentence of a line, and the only one of the first line. -/
def sentenceField : String := "message"

/-- Set up the journal with settings and a list of directives.  The answer tells how it went and what
    was written; the lines of the journal itself have the given source. -/
def setUp (source list : String) (j : Journal) (s : LoggingSettings) :
    Except Fault Unit × List String × Journal :=
  match s.threshold with
  | .error e => (.error e, [], j)
  | .ok level =>
    match j with
    | some _ => (.error (.configuration (withDetail "logging already initialized")), [], j)
    | none =>
      let ds := directives list level
      let written := if lets ds source [sentenceField] .info then [opening s.appName] else []
      (.ok (), written, some ds)

end CallMedia.Logging
