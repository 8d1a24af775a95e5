/-
  The tokens of a YAML text.

  Indentation becomes tokens: a deeper column opens a block, a shallower one closes it.  A mapping key
  need not be marked: whatever stands on one line before a colon is one.  So each place where such a key
  could begin is remembered, one for each flow collection around it, and when the colon comes a `key`
  token is put in at the remembered place.  A remembered place is forgotten on the next line, or after
  1024 bytes; if a key had to stand there, the text is wrong.

  `Token.ofText?` is total: every step reads at least one character or ends.
-/
import CallMedia.Yaml.Scalar

namespace CallMedia.Yaml

/-- The tokens of a YAML text. -/
inductive Token where
  /-- The version that the text says it is written in. -/
  | version (major minor : Nat)
  /-- A handle for tags, and what it stands for. -/
  | tagHandle (handle meaning : String)
  | documentStart
  | documentEnd
  | blockSequence
  | blockMapping
  | blockEnd
  | flowSequence
  | flowSequenceEnd
  | flowMapping
  | flowMappingEnd
  | blockEntry
  | flowEntry
  | key
  | value
  | alias (name : String)
  | anchor (name : String)
  | tag (handle suffix : String)
  | scalar (style : Style) (text : String)
  /-- The end of the text. -/
  | finish
deriving DecidableEq, Repr

/-- A place where a mapping key could have begun. -/
structure KeyPlace where
  /-- How many tokens stand before it. -/
  position : Nat
  /-- Whether a key must stand there, as nothing else fits the indentation. -/
  required : Bool
  index : Nat
  line : Nat
  column : Nat

/-- What has been read of a text. -/
structure Reading where
  cursor : Cursor
  tokens : Array Token := #[]
  /-- The column of the innermost block, -1 outside all. -/
  indent : Int := -1
  /-- The columns of the blocks around it. -/
  outer : List Int := []
  /-- Remembered places, the innermost flow collection first; the last is for the blocks. -/
  places : List (Option KeyPlace) := [none]
  /-- Whether a key could begin here. -/
  keyAllowed : Bool := true

namespace Reading

/-- Whether the cursor is inside a flow collection. -/
def inFlow (r : Reading) : Bool := 1 < r.places.length

/-- Add a token. -/
def push (r : Reading) (t : Token) : Reading := { r with tokens := r.tokens.push t }

/-- Put a token in before the one at a position. -/
def insertAt (r : Reading) (position : Nat) (t : Token) : Reading :=
  { r with
    tokens := r.tokens.extract 0 position ++ #[t] ++ r.tokens.extract position r.tokens.size }

/-- The innermost remembered place. -/
def place (r : Reading) : Option KeyPlace := r.places.head?.join

/-- Replace the innermost remembered place. -/
def setPlace (r : Reading) (p : Option KeyPlace) : Reading :=
  { r with places := p :: r.places.tail }

/-- Open a block at a column, if it is deeper than the innermost; its token goes to a position. -/
def openBlock (r : Reading) (column : Nat) (position : Nat) (t : Token) : Reading :=
  if !r.inFlow && r.indent < column then
    { r with indent := column, outer := r.indent :: r.outer }.insertAt position t
  else r

/-- Close the blocks deeper than a column. -/
def closeFrom (column : Int) : List Int → Reading → Reading
  | [], r => r
  | shallower :: rest, r =>
    if column < r.indent then
      closeFrom column rest ({ r with indent := shallower, outer := rest }.push .blockEnd)
    else r

/-- Close the blocks deeper than a column; inside a flow collection columns do not count. -/
def closeBlocks (r : Reading) (column : Int) : Reading :=
  if r.inFlow then r else closeFrom column r.outer r

/-- Forget the innermost remembered place; wrong if a key had to stand there. -/
def forgetPlace (r : Reading) : Option Reading :=
  if r.place.any (·.required) then none else some (r.setPlace none)

/-- Remember this place if a key could begin here. -/
def rememberPlace (r : Reading) : Option Reading :=
  if r.keyAllowed then
    let c := r.cursor
    let required := !r.inFlow && r.indent = c.column
    r.forgetPlace.map (·.setPlace (some ⟨r.tokens.size, required, c.index, c.line, c.column⟩))
  else some r

/-- Forget the places that are no longer on this line, or too far back. -/
def dropStale (r : Reading) : Option Reading :=
  let c := r.cursor
  let stale (p : KeyPlace) : Bool := p.line < c.line || p.index + 1024 < c.index
  if r.places.any (fun p => p.any (fun p => stale p && p.required)) then none
  else some { r with places := r.places.map (fun p => p.filter (fun p => !stale p)) }

/-- Pass blanks, comments, line ends, and marks of the byte order at the start of a line.  A tab is a
    blank only where no key could begin. -/
def skipGap : (room : Nat) → Reading → Reading
  | 0, r => r
  | room + 1, r =>
    let c := if r.cursor.column = 0 && r.cursor.sees '\ufeff' then r.cursor.next else r.cursor
    let c := c.skipWhile (fun x => x = ' ' || (x = '\t' && (r.inFlow || !r.keyAllowed)))
    let c := if c.sees '#' then c.skipWhile (fun x => !isBreak x) else c
    let r := { r with cursor := c }
    match c.peek? with
    | some x =>
      if isBreak x then
        skipGap room { r with cursor := c.next, keyAllowed := r.keyAllowed || !r.inFlow }
      else r
    | none => r

/-! ## Tokens with a text -/

/-- An anchor's or an alias's name behind its mark. -/
def readName (c : Cursor) : Option (String × Cursor) :=
  let (name, c) := c.span isNameChar
  let ends := c.gapAt 0 ||
    c.peek?.any (fun x => x = '?' || x = ':' || x = ',' || x = ']' || x = '\x7d' || x = '%' || x = '@'
      || x = '\x60')
  if name = [] || !ends then none else some (String.ofList name, c)

/-- How many bytes of a character follow its first byte. -/
def followers? (first : Nat) : Option Nat :=
  if first < 0x80 then some 0
  else if first < 0xc0 then none
  else if first < 0xe0 then some 1
  else if first < 0xf0 then some 2
  else if first < 0xf8 then some 3
  else none

/-- The characters of a tag, each percent escape as the byte it stands for.  While `pending` bytes of a
    character are due, only escapes of such bytes may come. -/
def readTagText (flowMarks : Bool) : (room pending : Nat) → Cursor → Option (List Char × Cursor)
  | 0, pending, c => if pending = 0 then some ([], c) else none
  | room + 1, pending, c =>
    match c.rest with
    | '%' :: hi :: lo :: _ =>
      match hexValue? hi, hexValue? lo with
      | some h, some l =>
        let byte := h * 16 + l
        let due : Option Nat :=
          if pending = 0 then followers? byte
          else if byte / 64 = 2 then some (pending - 1) else none
        due.bind fun due => (readTagText flowMarks room due (Cursor.skip 3 c)).map
          (fun (t, c) => (Char.ofNat byte :: t, c))
      | _, _ => none
    | rest =>
      let readable (x : Char) : Bool :=
        isNameChar x || ";/?:@&=+$.!~*'()".toList.contains x ||
          (flowMarks && (x = ',' || x = '[' || x = ']'))
      if pending ≠ 0 || rest.head? = some '%' then none
      else
        match rest.head? with
        | none => some ([], c)
        | some x =>
          if readable x then
            (readTagText flowMarks room 0 c.next).map (fun (t, c) => (x :: t, c))
          else some ([], c)

/-- The text of a tag: it ends before a NUL. -/
def tagText (cs : List Char) : String := String.ofList (cs.takeWhile (· ≠ '\x00'))

/-- A tag: in full between angles, with a handle, or with the plain handle. -/
def readTag (flow : Bool) (c : Cursor) : Option (Token × Cursor) :=
  let read : Option (Token × Cursor) :=
    if c.rest.take 2 = ['!', '<'] then
      match readTagText true c.rest.length 0 (Cursor.skip 2 c) with
      | some (uri, c) =>
        if c.sees '>' && uri ≠ [] then some (.tag "" (tagText uri), c.next) else none
      | none => none
    else
      let (name, c') := c.next.span isNameChar
      if c'.sees '!' then
        (readTagText false c'.rest.length 0 c'.next).bind fun (suffix, c) =>
          if suffix = [] then none
          else some (.tag (String.ofList ('!' :: name ++ ['!'])) (tagText suffix), c)
      else
        (readTagText false c.rest.length 0 c.next).map fun (suffix, c) =>
          if tagText suffix = "" then (.tag "" "!", c) else (.tag "!" (tagText suffix), c)
  read.bind fun (t, c) => if c.gapAt 0 || (flow && c.sees ',') then some (t, c) else none

/-- A number of at most nine digits. -/
def readVersionNumber (c : Cursor) : Option (Nat × Cursor) :=
  let (digits, c) := c.span Char.isDigit
  if digits = [] || 9 < digits.length then none
  else some (digits.foldl (fun n d => n * 10 + (d.toNat - '0'.toNat)) 0, c)

/-- A handle of tags: two exclamation marks around a name, or one alone. -/
def readTagHandle (c : Cursor) : Option (String × Cursor) :=
  if c.sees '!' then
    let (name, c) := c.next.span isNameChar
    if c.sees '!' then some (String.ofList ('!' :: name ++ ['!']), c.next)
    else if name = [] then some ("!", c)
    else none
  else none

/-- A line that starts with a percent sign. -/
def readDirective (c : Cursor) : Option (Token × Cursor) := do
  let (name, c) := c.next.span isNameChar
  if !c.gapAt 0 then none
  else
    let c := c.skipWhile isSpaceTab
    let (t, c) ←
      if name = ['Y', 'A', 'M', 'L'] then do
        let (major, c) ← readVersionNumber c
        if c.sees '.' then
          let (minor, c) ← readVersionNumber c.next
          some (Token.version major minor, c)
        else none
      else if name = ['T', 'A', 'G'] then do
        let (handle, c) ← readTagHandle c
        if c.peek?.any isSpaceTab then
          let (uri, c) ← readTagText true c.rest.length 0 (c.skipWhile isSpaceTab)
          if uri ≠ [] && c.gapAt 0 then some (Token.tagHandle handle (tagText uri), c) else none
        else none
      else none
    let c ← c.toLineEnd?
    some (t, c)

/-! ## The next token -/

/-- A flow collection opens. -/
def openFlow (r : Reading) (t : Token) : Option Reading :=
  r.rememberPlace.map fun r =>
    { r with places := none :: r.places, keyAllowed := true, cursor := r.cursor.next }.push t

/-- A flow collection closes. -/
def closeFlow (r : Reading) (t : Token) : Option Reading :=
  r.forgetPlace.map fun r =>
    { r with
      places := if r.inFlow then r.places.tail else r.places
      keyAllowed := false, cursor := r.cursor.next }.push t

/-- The mark of an item in a block. -/
def blockEntry (r : Reading) : Option Reading :=
  if !r.inFlow && !r.keyAllowed then none
  else
    (r.openBlock r.cursor.column r.tokens.size .blockSequence).forgetPlace.map fun r =>
      { r with keyAllowed := true, cursor := r.cursor.next }.push .blockEntry

/-- The mark of a key. -/
def markedKey (r : Reading) : Option Reading :=
  if !r.inFlow && !r.keyAllowed then none
  else
    (r.openBlock r.cursor.column r.tokens.size .blockMapping).forgetPlace.map fun r =>
      { r with keyAllowed := !r.inFlow, cursor := r.cursor.next }.push .key

/-- A colon: the end of a remembered key, or the value of a marked or empty one. -/
def valueMark (r : Reading) : Option Reading :=
  match r.place with
  | some p =>
    -- what stood at the remembered place was a key after all
    let r := (r.insertAt p.position .key).openBlock p.column p.position .blockMapping
    let r := r.setPlace none
    some ({ r with keyAllowed := false, cursor := r.cursor.next }.push .value)
  | none =>
    if !r.inFlow && !r.keyAllowed then none
    else
      let r := r.openBlock r.cursor.column r.tokens.size .blockMapping
      some ({ r with keyAllowed := !r.inFlow, cursor := r.cursor.next }.push .value)

/-- A token with a text that may be a key. -/
def keyable (r : Reading) (read : Cursor → Option (Token × Cursor)) : Option Reading := do
  let r ← r.rememberPlace
  let (t, cursor) ← read r.cursor
  some ({ r with keyAllowed := false, cursor }.push t)

/-- A block of lines. -/
def block (r : Reading) (literal : Bool) : Option Reading := do
  let r ← r.forgetPlace
  let (text, cursor) ← readBlock literal r.indent r.cursor.next
  some ({ r with keyAllowed := true, cursor }.push
    (.scalar (if literal then .literal else .folded) text))

/-- A plain scalar; a key may follow it on a new line. -/
def plain (r : Reading) : Option Reading := do
  let r ← r.rememberPlace
  let (text, newLine, cursor) ← readPlain r.inFlow (r.indent + 1) r.cursor
  some ({ r with keyAllowed := newLine, cursor }.push (.scalar .plain text))

/-- A mark between documents. -/
def documentMark (r : Reading) (t : Token) : Option Reading :=
  (r.closeBlocks (-1)).forgetPlace.map fun r =>
    { r with keyAllowed := false, cursor := Cursor.skip 3 r.cursor }.push t

/-- A directive. -/
def directive (r : Reading) : Option Reading := do
  let r ← (r.closeBlocks (-1)).forgetPlace
  let (t, cursor) ← readDirective r.cursor
  some ({ r with keyAllowed := false, cursor }.push t)

/-- Whether a plain scalar may start here. -/
def startsPlain (r : Reading) (x : Char) : Bool :=
  -- a tab that was not passed over stands where only spaces may indent
  (!isSpaceTab x && !"-?:,[]\x7b\x7d#&*!|>'\"%@\x60".toList.contains x) ||
  (x = '-' && !(r.cursor.rest[1]?.any isSpaceTab)) ||
  (!r.inFlow && (x = '?' || x = ':') && !r.cursor.gapAt 1)

/-- Read the next token, or the end of the text. -/
def next (r : Reading) : Option Reading := do
  let r := skipGap (r.cursor.rest.length + 1) r
  let r ← r.dropStale
  let r := r.closeBlocks r.cursor.column
  let c := r.cursor
  match c.peek? with
  | none =>
    let r ← (r.closeBlocks (-1)).forgetPlace
    some ({ r with keyAllowed := false }.push .finish)
  | some x =>
    let marked := r.inFlow || c.gapAt 1
    if c.column = 0 && x = '%' then r.directive
    else if c.atDocumentMark '-' then r.documentMark .documentStart
    else if c.atDocumentMark '.' then r.documentMark .documentEnd
    else if x = '[' then r.openFlow .flowSequence
    else if x = '\x7b' then r.openFlow .flowMapping
    else if x = ']' then r.closeFlow .flowSequenceEnd
    else if x = '\x7d' then r.closeFlow .flowMappingEnd
    else if x = ',' then
      r.forgetPlace.map fun r => { r with keyAllowed := true, cursor := c.next }.push .flowEntry
    else if x = '-' && c.gapAt 1 then r.blockEntry
    else if x = '?' && marked then r.markedKey
    else if x = ':' && marked then r.valueMark
    else if x = '*' then r.keyable (fun c => (readName c.next).map (fun (n, c) => (.alias n, c)))
    else if x = '&' then r.keyable (fun c => (readName c.next).map (fun (n, c) => (.anchor n, c)))
    else if x = '!' then r.keyable (readTag r.inFlow)
    else if x = '|' && !r.inFlow then r.block true
    else if x = '>' && !r.inFlow then r.block false
    else if x = '\'' then
      r.keyable (fun c => (readQuoted false c).map (fun (t, c) => (.scalar .singleQuoted t, c)))
    else if x = '"' then
      r.keyable (fun c => (readQuoted true c).map (fun (t, c) => (.scalar .doubleQuoted t, c)))
    else if r.startsPlain x then r.plain
    else none

/-- Read tokens up to the end of the text. -/
def all : (rounds : Nat) → Reading → Option (List Token)
  | 0, _ => none
  | rounds + 1, r =>
    match r.next with
    | none => none
    | some r => if r.tokens.back? = some .finish then some r.tokens.toList else all rounds r

end Reading

/-- The tokens of a text, if it can be cut into tokens. -/
def Token.ofText? (text : String) : Option (List Token) :=
  (Cursor.ofText? text).bind (fun cursor => Reading.all (cursor.rest.length + 1) { cursor })

end CallMedia.Yaml
