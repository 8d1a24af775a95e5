/-
  Instants and their texts.

  An instant is a count of seconds since the start of 1970 (UTC, no leap seconds) and a count of
  nanoseconds after it.  A nanosecond count of a whole second or more lies in a leap second, which is
  written as second 60.

  Between two instants there are no leap seconds, unless one of the two lies in one: then that one is
  counted, provided that it lies between their times of day.  The days do not count for this; so a leap
  second at the end of a day adds nothing to the time that passes until the next morning.

  Dates are those of the Gregorian calendar extended both ways.  `Date.toDays` and `Date.ofDays` count
  from the first of March of year 0, so that a leap day is the last day of its year.
-/
import CallMedia.Text.Blank

namespace CallMedia

/-- A point in time. -/
structure Instant where
  seconds : Int
  nanos : Nat
deriving DecidableEq, Repr, Inhabited

/-- A day of the calendar. -/
structure Date where
  year : Int
  month : Nat
  day : Nat
deriving DecidableEq, Repr

namespace Date

/-- Whether a year has a leap day. -/
def isLeap (year : Int) : Bool := year % 4 = 0 && (year % 100 ≠ 0 || year % 400 = 0)

/-- The number of days in a month. -/
def daysInMonth (year : Int) (month : Nat) : Nat :=
  match month with
  | 2 => if isLeap year then 29 else 28
  | 4 | 6 | 9 | 11 => 30
  | _ => 31

/-- Whether month and day exist. -/
def isValid (d : Date) : Bool :=
  1 ≤ d.month && d.month ≤ 12 && 1 ≤ d.day && d.day ≤ daysInMonth d.year d.month

/-- Days from 1970-01-01 to a date. -/
def toDays (d : Date) : Int :=
  let year := if d.month ≤ 2 then d.year - 1 else d.year
  let era := year / 400
  let yearOfEra := year % 400
  let monthFromMarch : Int := ((d.month + 9) % 12 : Nat)
  let dayOfYear := (153 * monthFromMarch + 2) / 5 + d.day - 1
  let dayOfEra := yearOfEra * 365 + yearOfEra / 4 - yearOfEra / 100 + dayOfYear
  era * 146097 + dayOfEra - 719468

/-- The date a number of days after 1970-01-01. -/
def ofDays (days : Int) : Date :=
  let shifted := days + 719468
  let era := shifted / 146097
  let dayOfEra := (shifted % 146097).toNat
  let yearOfEra := (dayOfEra - dayOfEra / 1460 + dayOfEra / 36524 - dayOfEra / 146096) / 365
  let dayOfYear := dayOfEra - (365 * yearOfEra + yearOfEra / 4 - yearOfEra / 100)
  let monthFromMarch := (5 * dayOfYear + 2) / 153
  let day := dayOfYear - (153 * monthFromMarch + 2) / 5 + 1
  let month := if monthFromMarch < 10 then monthFromMarch + 3 else monthFromMarch - 9
  let year : Int := yearOfEra + era * 400
  ⟨if month ≤ 2 then year + 1 else year, month, day⟩

end Date

namespace Instant

/-- The time of day, in seconds since midnight. -/
def secondOfDay (i : Instant) : Int := i.seconds % 86400

/-- Whether an instant lies in a leap second. -/
def inLeapSecond (i : Instant) : Bool := 1000000000 ≤ i.nanos

/-- The leap seconds between two instants that their counts of seconds leave out: one to be added if the
    instant with the earlier time of day lies in it and is the start, or taken off if it is the end. -/
def leapSecondsBetween (started ended : Instant) : Int :=
  if started.secondOfDay < ended.secondOfDay then if started.inLeapSecond then 1 else 0
  else if ended.secondOfDay < started.secondOfDay then if ended.inLeapSecond then -1 else 0
  else 0

/-- Nanoseconds from one instant to another. -/
def nanosecondsBetween (started ended : Instant) : Int :=
  (ended.seconds - started.seconds + leapSecondsBetween started ended) * 1000000000 +
    ended.nanos - started.nanos

/-- Whole seconds from one instant to another, the fraction cut off toward zero. -/
def wholeSecondsBetween (started ended : Instant) : Int :=
  Int.tdiv (started.nanosecondsBetween ended) 1000000000

/-! ## Writing -/

/-- A number in at least `width` digits. -/
def padded (width n : Nat) : String :=
  let digits := Nat.toDigits 10 n
  String.ofList (List.replicate (width - digits.length) '0' ++ digits)

/-- The year: four digits from 0 to 9999, else a sign and at least four digits. -/
def yearText (year : Int) : String :=
  if 0 ≤ year ∧ year ≤ 9999 then padded 4 year.toNat
  else (if year < 0 then "-" else "+") ++ padded 4 year.natAbs

/-- The fraction of a second: none if zero, else the fewest of 3, 6 or 9 digits that are exact. -/
def fractionText (nanos : Nat) : String :=
  if nanos = 0 then ""
  else if nanos % 1000000 = 0 then "." ++ padded 3 (nanos / 1000000)
  else if nanos % 1000 = 0 then "." ++ padded 6 (nanos / 1000)
  else "." ++ padded 9 nanos

/-- The text of an instant in UTC. -/
def text (i : Instant) : String :=
  let date := Date.ofDays (i.seconds / 86400)
  let second := (i.seconds % 86400).toNat
  let leap := i.nanos / 1000000000
  s!"{yearText date.year}-{padded 2 date.month}-{padded 2 date.day}T" ++
  s!"{padded 2 (second / 3600)}:{padded 2 (second / 60 % 60)}:{padded 2 (second % 60 + leap)}" ++
  s!"{fractionText (i.nanos % 1000000000)}Z"

/-! ## Reading

A date, one of `T`, `t` or a space, a time, and an offset.  Blanks may stand before every number and
every mark.  Fields have one digit or two, a year one to four, or any count behind a sign. -/

/-- The text without leading blanks. -/
def trim (cs : List Char) : List Char := cs.dropWhile Text.isBlank

/-- A number of one to `width` decimal digits. -/
def readDigits (width : Nat) (cs : List Char) : Option (Nat × List Char) :=
  let ds := (cs.take width).takeWhile Char.isDigit
  if ds.isEmpty then none
  else some (ds.foldl (fun n c => n * 10 + (c.toNat - '0'.toNat)) 0, cs.drop ds.length)

/-- A year. -/
def readYear (cs : List Char) : Option (Int × List Char) :=
  match trim cs with
  | '-' :: rest => (readDigits rest.length rest).map (fun (n, tail) => (-(n : Int), tail))
  | '+' :: rest => (readDigits rest.length rest).map (fun (n, tail) => ((n : Int), tail))
  | rest => (readDigits 4 rest).map (fun (n, tail) => ((n : Int), tail))

/-- A mark behind optional blanks. -/
def readMark (mark : Char) (cs : List Char) : Option (List Char) :=
  match trim cs with
  | c :: rest => if c = mark then some rest else none
  | [] => none

/-- A mark, and the field of one or two digits behind it. -/
def readField (mark : Char) (cs : List Char) : Option (Nat × List Char) :=
  (readMark mark cs).bind (fun rest => readDigits 2 (trim rest))

/-- The fraction of a second in nanoseconds; digits past the ninth are dropped. -/
def readFraction : List Char → Option (Nat × List Char)
  | '.' :: rest =>
    (readDigits 9 rest).map fun (n, tail) =>
      (n * Nat.pow 10 (9 - (rest.length - tail.length)), tail.dropWhile Char.isDigit)
  | cs => some (0, cs)

/-- Two decimal digits. -/
def readPair : List Char → Option (Nat × Nat × List Char)
  | a :: b :: rest =>
    if a.isDigit && b.isDigit then some (a.toNat - '0'.toNat, b.toNat - '0'.toNat, rest) else none
  | _ => none

/-- Hours and minutes of an offset, in seconds. -/
def readHoursMinutes (cs : List Char) : Option (Nat × List Char) := do
  let (h1, h2, rest) ← readPair cs
  let (m1, m2, rest) ← readPair (rest.dropWhile (fun c => c = ':' || Text.isBlank c))
  if 6 ≤ m1 then none else some ((h1 * 10 + h2) * 3600 + (m1 * 10 + m2) * 60, rest)

/-- An offset from UTC in seconds. -/
def readOffset (cs : List Char) : Option (Int × List Char) :=
  match cs with
  | 'Z' :: rest => some (0, rest)
  | 'z' :: rest => some (0, rest)
  | '+' :: rest => (readHoursMinutes rest).map (fun (n, tail) => ((n : Int), tail))
  | '-' :: rest => (readHoursMinutes rest).map (fun (n, tail) => (-(n : Int), tail))
  | '−' :: rest => (readHoursMinutes rest).map (fun (n, tail) => (-(n : Int), tail))
  | _ =>
    if (cs.take 3).map Char.toUpper = ['U', 'T', 'C'] then some (0, cs.drop 3) else none

/-- The years that a date may have. -/
def yearInRange (year : Int) : Bool := -262143 ≤ year && year ≤ 262142

/-- The instant that a text with an offset denotes. -/
def ofText? (text : String) : Option Instant := do
  let (year, cs) ← readYear text.toList
  let (month, cs) ← readField '-' cs
  let (day, cs) ← readField '-' cs
  let cs ← match cs with
    | 'T' :: rest => some rest
    | 't' :: rest => some rest
    | ' ' :: rest => some rest
    | _ => none
  let (hour, cs) ← readDigits 2 (trim cs)
  let (minute, cs) ← readField ':' cs
  let (second, cs) ← readField ':' cs
  let (nanos, cs) ← readFraction cs
  let (offset, cs) ← readOffset (trim cs)
  let date : Date := ⟨year, month, day⟩
  -- second 60 lies behind the end of second 59
  let leap := second = 60
  let civil : Int := date.toDays * 86400 + hour * 3600 + minute * 60 + (if leap then 59 else second)
  let seconds := civil - offset
  if trim cs = [] && date.isValid && yearInRange year && hour < 24 && minute < 60 && second ≤ 60
      && offset.natAbs < 86400 && yearInRange (Date.ofDays (seconds / 86400)).year then
    some ⟨seconds, nanos + if leap then 1000000000 else 0⟩
  else none

end Instant

end CallMedia
