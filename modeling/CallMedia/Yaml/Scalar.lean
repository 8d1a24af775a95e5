/-
  The five written forms of a YAML scalar.

  Plain and quoted scalars may run over several lines.  A single line end inside them becomes a space, a
  run of line ends loses its first, and blanks around them are dropped.  Double quotes add escapes, one
  of which hides a line end.  Literal and folded scalars are blocks of lines, indented deeper than what
  holds them; a literal block keeps its line ends, a folded one joins lines that start with text.  What
  happens to the line ends at the end of a block is said in its header.

  Every function returns the place behind the scalar, or nothing where the text is no scalar.
-/
import CallMedia.Yaml.Cursor

namespace CallMedia.Yaml

/-- The written form of a scalar. -/
inductive Style where
  | plain
  | singleQuoted
  | doubleQuoted
  | literal
  | folded
deriving DecidableEq, Repr

/-! ## White space between words -/

/-- White space between two words: blanks of one line, or line ends. -/
structure Gap where
  blanks : List Char := []
  firstBreak : List Char := []
  moreBreaks : List Char := []
  /-- Whether a line end has been passed. -/
  newLine : Bool := false

/-- What is left of a gap in the value of a scalar. -/
def Gap.joined (g : Gap) : List Char :=
  if g.newLine then
    if g.firstBreak = ['\n'] then (if g.moreBreaks = [] then [' '] else g.moreBreaks)
    else g.firstBreak ++ g.moreBreaks
  else g.blanks

/-- Take in white space.  `tabLimit` is the column that a tab at the start of a line must not precede. -/
def readGap (tabLimit : Int) : (room : Nat) → Gap → Cursor → Option (Gap × Cursor)
  | 0, g, c => some (g, c)
  | room + 1, g, c =>
    match c.peek? with
    | none => some (g, c)
    | some x =>
      if isSpaceTab x then
        if g.newLine then
          if x = '\t' ∧ (c.column : Int) < tabLimit then none
          else readGap tabLimit room g c.next
        else readGap tabLimit room { g with blanks := g.blanks ++ [x] } c.next
      else if isBreak x then
        if g.newLine then
          readGap tabLimit room { g with moreBreaks := g.moreBreaks ++ [x] } c.next
        else readGap tabLimit room { g with blanks := [], firstBreak := [x], newLine := true } c.next
      else some (g, c)

/-! ## Plain scalars -/

/-- The characters of a plain word.  It ends before white space, before a colon that a gap follows, and
    inside a flow collection before a flow mark; there a colon must not stand before a flow mark. -/
def readPlainWord (flow : Bool) : (room : Nat) → Cursor → Option (List Char × Cursor)
  | 0, c => some ([], c)
  | room + 1, c =>
    match c.rest with
    | [] => some ([], c)
    | x :: rest =>
      if isSpaceTab x || isBreak x then some ([], c)
      else if flow && x = ':' && rest.head?.any (fun y => isFlowMark y || y = '?') then none
      else if (x = ':' && c.gapAt 1) || (flow && isFlowMark x) then some ([], c)
      else (readPlainWord flow room c.next).map (fun (w, c) => (x :: w, c))

/-- A plain scalar from `c` on, behind the text `value` and the white space `gap`.  Besides the value
    and the place behind it, whether the scalar was followed by a line end. -/
def readPlainFrom (flow : Bool) (indent : Int) :
    (room : Nat) → (value : List Char) → Gap → Cursor → Option (List Char × Bool × Cursor)
  | 0, value, gap, c => some (value, gap.newLine, c)
  | room + 1, value, gap, c =>
    -- a `#` is met here only behind white space, where it starts a comment
    if c.atDocumentMark '-' || c.atDocumentMark '.' || c.sees '#' then some (value, gap.newLine, c)
    else
      match readPlainWord flow c.rest.length c with
      | none => none
      | some ([], c) => some (value, gap.newLine, c)
      | some (word, c) =>
        let value := value ++ gap.joined ++ word
        match readGap indent c.rest.length {} c with
        | none => none
        | some (gap, c') =>
          if c'.index = c.index then some (value, false, c)
          else if !flow && (c'.column : Int) < indent then some (value, gap.newLine, c')
          else readPlainFrom flow indent room value gap c'

/-- A plain scalar inside what is indented by `indent - 1`. -/
def readPlain (flow : Bool) (indent : Int) (c : Cursor) : Option (String × Bool × Cursor) :=
  (readPlainFrom flow indent (c.rest.length + 1) [] {} c).map
    (fun (value, newLine, c) => (String.ofList value, newLine, c))

/-! ## Quoted scalars -/

/-- The character that a short escape stands for. -/
def shortEscape? : Char → Option Char
  | '0' => some '\x00'
  | 'a' => some '\x07'
  | 'b' => some '\x08'
  | 't' | '\t' => some '\t'
  | 'n' => some '\n'
  | 'v' => some '\x0b'
  | 'f' => some '\x0c'
  | 'r' => some '\r'
  | 'e' => some '\x1b'
  | ' ' => some ' '
  | '"' => some '"'
  | '/' => some '/'
  | '\\' => some '\\'
  | 'N' => some '\u0085'
  | '_' => some '\u00a0'
  | 'L' => some '\u2028'
  | 'P' => some '\u2029'
  | _ => none

/-- How many digits an escape by code point has. -/
def escapeWidth? : Char → Option Nat
  | 'x' => some 2
  | 'u' => some 4
  | 'U' => some 8
  | _ => none

/-- The character that a code point in hexadecimal digits denotes. -/
def codePoint? (digits : List Char) : Option Char :=
  match digits.foldlM (fun n d => (hexValue? d).map (n * 16 + ·)) 0 with
  | none => none
  | some n => if n < 0xd800 ∨ (0xdfff < n ∧ n ≤ 0x10ffff) then some (Char.ofNat n) else none

/-- The character that an escape behind its backslash stands for. -/
def readEscape (c : Cursor) : Option (Char × Cursor) :=
  match c.rest with
  | [] => none
  | x :: rest =>
    match shortEscape? x, escapeWidth? x with
    | some y, _ => some (y, c.next)
    | none, some width =>
      if rest.length < width then none
      else (codePoint? (rest.take width)).map (fun y => (y, Cursor.skip (width + 1) c))
    | none, none => none

/-- The characters of a quoted word; the flag tells that an escaped line end closed it. -/
def readQuotedWord (double : Bool) : (room : Nat) → Cursor → Option (List Char × Bool × Cursor)
  | 0, c => some ([], false, c)
  | room + 1, c =>
    match c.rest with
    | [] => some ([], false, c)
    | x :: rest =>
      let add (y : Char) (c : Cursor) : Option (List Char × Bool × Cursor) :=
        (readQuotedWord double room c).map (fun (w, hidden, c) => (y :: w, hidden, c))
      if isSpaceTab x || isBreak x then some ([], false, c)
      else if double then
        if x = '"' then some ([], false, c)
        else if x = '\\' then
          if rest.head?.any isBreak then some ([], true, Cursor.skip 2 c)
          else (readEscape c.next).bind (fun (y, c) => add y c)
        else add x c.next
      else if x = '\'' then
        if rest.head? = some '\'' then add '\'' (Cursor.skip 2 c) else some ([], false, c)
      else add x c.next

/-- A quoted scalar behind its opening quote. -/
def readQuotedFrom (double : Bool) : (room : Nat) → (value : List Char) → Cursor →
    Option (List Char × Cursor)
  | 0, _, _ => none
  | room + 1, value, c =>
    if c.atDocumentMark '-' || c.atDocumentMark '.' then none
    else
      match readQuotedWord double c.rest.length c with
      | none => none
      | some (word, hidden, c) =>
        let value := value ++ word
        if c.rest = [] then none
        else if c.sees (if double then '"' else '\'') then some (value, c.next)
        else
          match readGap 0 c.rest.length { newLine := hidden } c with
          | none => none
          | some (gap, c) => readQuotedFrom double room (value ++ gap.joined) c

/-- A quoted scalar. -/
def readQuoted (double : Bool) (c : Cursor) : Option (String × Cursor) :=
  (readQuotedFrom double (c.rest.length + 1) [] c.next).map
    (fun (value, c) => (String.ofList value, c))

/-! ## Blocks of lines -/

/-- What happens to the line ends at the end of a block. -/
inductive Chomping where
  | strip
  | clip
  | keep
deriving DecidableEq, Repr

/-- The header of a block behind its mark: chomping, and the indentation if it is given. -/
def readBlockHeader (c : Cursor) : Option (Chomping × Option Nat × Cursor) :=
  let chomping? (c : Cursor) : Option Chomping :=
    if c.sees '+' then some .keep else if c.sees '-' then some .strip else none
  let digit? (c : Cursor) : Option Nat :=
    match c.peek? with
    | some x => if x.isDigit then some (x.toNat - '0'.toNat) else none
    | none => none
  let read : Chomping × Option Nat × Cursor :=
    match chomping? c, digit? c with
    | some m, _ =>
      match digit? c.next with
      | some n => (m, some n, Cursor.skip 2 c)
      | none => (m, none, c.next)
    | none, some n =>
      match chomping? c.next with
      | some m => (m, some n, Cursor.skip 2 c)
      | none => (.clip, some n, c.next)
    | none, none => (.clip, none, c)
  if read.2.1 = some 0 then none
  else read.2.2.toLineEnd?.map (fun c => (read.1, read.2.1, c))

/-- Pass the indentation of a line and the empty lines before it.  Besides the line ends passed, the
    deepest column seen; a tab must not stand in the indentation. -/
def readBlockBreaks (indent : Option Nat) : (room : Nat) → (deepest : Nat) → Cursor →
    Option (List Char × Nat × Cursor)
  | 0, deepest, c => some ([], deepest, c)
  | room + 1, deepest, c =>
    let within (c : Cursor) : Bool := indent.all (fun n => c.column < n)
    let spaces := (c.rest.takeWhile (· = ' ')).length
    let taken := match indent with
      | none => spaces
      | some n => min spaces (n - c.column)
    let c := Cursor.skip taken c
    let deepest := max deepest c.column
    match c.peek? with
    | none => some ([], deepest, c)
    | some x =>
      if x = '\t' && within c then none
      else if isBreak x then
        (readBlockBreaks indent room deepest c.next).map (fun (bs, n, c) => (x :: bs, n, c))
      else some ([], deepest, c)

/-- The lines of a block from `c` on, behind the text `value`, the line end `lastBreak` of the line
    before and the empty lines `breaks` after it. -/
def readBlockLines (literal : Bool) (indent : Nat) : (room : Nat) → (value lastBreak breaks : List Char) →
    (indented : Bool) → Cursor → Option (List Char × List Char × List Char × Cursor)
  | 0, value, lastBreak, breaks, _, c => some (value, lastBreak, breaks, c)
  | room + 1, value, lastBreak, breaks, indented, c =>
    match c.peek? with
    | none => some (value, lastBreak, breaks, c)
    | some x =>
      if c.column ≠ indent then some (value, lastBreak, breaks, c)
      else
        let startsBlank := isSpaceTab x
        let joint :=
          if !literal && lastBreak = ['\n'] && !indented && !startsBlank then
            if breaks = [] then [' '] else []
          else lastBreak
        let (line, c) := c.span (fun y => !isBreak y)
        let (lastBreak', c) := match c.peek? with
          | some y => ([y], c.next)
          | none => ([], c)
        match readBlockBreaks (some indent) (c.rest.length + 1) 0 c with
        | none => none
        | some (breaks', _, c) =>
          readBlockLines literal indent room (value ++ joint ++ breaks ++ line) lastBreak' breaks'
            startsBlank c

/-- A block of lines behind its mark, inside what is indented by `outer`. -/
def readBlock (literal : Bool) (outer : Int) (c : Cursor) : Option (String × Cursor) :=
  match readBlockHeader c with
  | none => none
  | some (chomping, given, c) =>
    let fixed := given.map (fun n => (max outer 0).toNat + n)
    match readBlockBreaks fixed (c.rest.length + 1) 0 c with
    | none => none
    | some (breaks, deepest, c) =>
      let indent := fixed.getD (max deepest (max (outer + 1) 1).toNat)
      match readBlockLines literal indent (c.rest.length + 1) [] [] breaks false c with
      | none => none
      | some (value, lastBreak, breaks, c) =>
        let tail := match chomping with
          | .strip => []
          | .clip => lastBreak
          | .keep => lastBreak ++ breaks
        some (String.ofList (value ++ tail), c)

end CallMedia.Yaml
