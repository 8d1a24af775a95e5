/-
  A place in a YAML text.

  The cursor knows what is left of the text and on which line and column it stands.  All line ends of
  the usual kinds are made plain line feeds beforehand (`normalLines`); the two Unicode separators end a
  line as well but keep their own character.

  A text that holds characters outside the printable set is no YAML at all (`Cursor.ofText?`).
-/

namespace CallMedia.Yaml

/-! ## Characters -/

/-- A line end. -/
def isBreak (c : Char) : Bool := c = '\n' || c = '\u2028' || c = '\u2029'

/-- A space or a tab. -/
def isSpaceTab (c : Char) : Bool := c = ' ' || c = '\t'

/-- A character of names: an ASCII letter or digit, a line or a hyphen. -/
def isNameChar (c : Char) : Bool := c.isAlphanum || c = '_' || c = '-'

/-- A character that separates the parts of a flow collection. -/
def isFlowMark (c : Char) : Bool := c = ',' || c = '[' || c = ']' || c = '\x7b' || c = '\x7d'

/-- The characters that a text may hold. -/
def isAllowed (c : Char) : Bool :=
  let n := c.toNat
  n = 0x09 || n = 0x0a || n = 0x0d || (0x20 ≤ n && n ≤ 0x7e) || n = 0x85 ||
  (0xa0 ≤ n && n ≤ 0xd7ff) || (0xe000 ≤ n && n ≤ 0xfffd) || 0x10000 ≤ n

/-- The value of a hexadecimal digit. -/
def hexValue? (c : Char) : Option Nat :=
  if '0' ≤ c ∧ c ≤ '9' then some (c.toNat - '0'.toNat)
  else if 'a' ≤ c ∧ c ≤ 'f' then some (c.toNat - 'a'.toNat + 10)
  else if 'A' ≤ c ∧ c ≤ 'F' then some (c.toNat - 'A'.toNat + 10)
  else none

/-- A text whose lines end in line feeds. -/
def normalLines : List Char → List Char
  | [] => []
  | '\r' :: '\n' :: rest => '\n' :: normalLines rest
  | c :: rest => (if c = '\r' ∨ c = '\u0085' then '\n' else c) :: normalLines rest

/-! ## Cursors -/

/-- A place in a text. -/
structure Cursor where
  rest : List Char
  /-- How many bytes lie behind. -/
  index : Nat := 0
  line : Nat := 0
  column : Nat := 0

namespace Cursor

/-- The start of a text, if the text may be read at all. -/
def ofText? (text : String) : Option Cursor :=
  let cs := text.toList
  if cs.all isAllowed then some { rest := normalLines cs } else none

/-- The character here. -/
def peek? (c : Cursor) : Option Char := c.rest.head?

/-- Whether the given character stands here. -/
def sees (c : Cursor) (x : Char) : Bool := c.rest.head? = some x

/-- Whether a space, a tab, a line end or the end of the text stands `n` places ahead. -/
def gapAt (c : Cursor) (n : Nat) : Bool :=
  match c.rest[n]? with
  | none => true
  | some x => isSpaceTab x || isBreak x

/-- One character on. -/
def next (c : Cursor) : Cursor :=
  match c.rest with
  | [] => c
  | x :: rest =>
    let index := c.index + x.utf8Size
    if isBreak x then { rest, index, line := c.line + 1, column := 0 }
    else { rest, index, line := c.line, column := c.column + 1 }

/-- The place `n` characters on. -/
def skip : (n : Nat) → Cursor → Cursor
  | 0, c => c
  | n + 1, c => skip n c.next

/-- The characters from here on that satisfy a test, and the place behind them. -/
def span (test : Char → Bool) (c : Cursor) : List Char × Cursor :=
  let taken := c.rest.takeWhile test
  (taken, skip taken.length c)

/-- The place behind the characters that satisfy a test. -/
def skipWhile (test : Char → Bool) (c : Cursor) : Cursor := (c.span test).2

/-- Whether the line starts here with three of the given character and a gap: the mark between
    documents. -/
def atDocumentMark (c : Cursor) (x : Char) : Bool :=
  c.column = 0 && c.rest.take 3 = [x, x, x] && c.gapAt 3

/-- The place behind blanks and a comment up to the end of the line, if nothing else is there. -/
def toLineEnd? (c : Cursor) : Option Cursor :=
  let c := c.skipWhile isSpaceTab
  let c := if c.sees '#' then c.skipWhile (fun x => !isBreak x) else c
  match c.peek? with
  | none => some c
  | some x => if isBreak x then some c.next else none

end Cursor

end CallMedia.Yaml
