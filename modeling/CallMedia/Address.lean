/-
  Network addresses and their texts.

  An address is four octets or eight 16-bit groups.  Reading accepts the usual texts and nothing around
  them: octets are decimal without leading zeros; groups are up to four hexadecimal digits; `::` stands
  once for one or more zero groups; the last two groups may be written as four octets.  Brackets and
  zones are refused.

  Writing is canonical: lower case, no leading zeros, the longest run of at least two zero groups as
  `::` (the first of the longest), and `::ffff:a.b.c.d` for a mapped four-octet address.
-/

namespace CallMedia

/-- A network address. -/
inductive Address where
  | v4 (a b c d : UInt8)
  | v6 (groups : Vector UInt16 8)
deriving DecidableEq, Repr

namespace Address

/-! ## Reading -/

/-- The value of a digit in the given base, if the character is one. -/
def digit? (base : Nat) (c : Char) : Option Nat :=
  let v :=
    if '0' ≤ c ∧ c ≤ '9' then c.toNat - '0'.toNat
    else if 'a' ≤ c ∧ c ≤ 'f' then c.toNat - 'a'.toNat + 10
    else if 'A' ≤ c ∧ c ≤ 'F' then c.toNat - 'A'.toNat + 10
    else base
  if v < base then some v else none

/-- The longest run of digits at the head of a text, and the rest. -/
def spanDigits (base : Nat) : List Char → List Nat × List Char
  | [] => ([], [])
  | c :: rest =>
    match digit? base c with
    | some d => let (ds, tail) := spanDigits base rest; (d :: ds, tail)
    | none => ([], c :: rest)

/-- A number of one to `width` digits at the head of a text. -/
def readNumber (base width : Nat) (cs : List Char) : Option (Nat × List Char) :=
  let (ds, rest) := spanDigits base cs
  if ds.isEmpty || width < ds.length then none
  else some (ds.foldl (fun n d => n * base + d) 0, rest)

/-- A decimal octet: at most 255, and a leading zero only for zero itself. -/
def readOctet (cs : List Char) : Option (UInt8 × List Char) := do
  let (n, rest) ← readNumber 10 3 cs
  if 255 < n || (cs.head? = some '0' && rest.length + 1 < cs.length) then none
  else some (UInt8.ofNat n, rest)

/-- The text after the given mark. -/
def skip (mark : Char) : List Char → Option (List Char)
  | [] => none
  | c :: rest => if c = mark then some rest else none

/-- Four octets with points between them. -/
def readOctets (cs : List Char) : Option ((UInt8 × UInt8 × UInt8 × UInt8) × List Char) := do
  let (a, cs) ← readOctet cs
  let (b, cs) ← readOctet (← skip '.' cs)
  let (c, cs) ← readOctet (← skip '.' cs)
  let (d, cs) ← readOctet (← skip '.' cs)
  some ((a, b, c, d), cs)

/-- The two groups that four octets make. -/
def groupsOfOctets (a b c d : UInt8) : List UInt16 :=
  [a.toUInt16 * 256 + b.toUInt16, c.toUInt16 * 256 + d.toUInt16]

/-- Up to `room` groups with colons between them; four octets may stand for the last two, and then the
    flag is set. -/
def readGroups : (room : Nat) → (first : Bool) → List Char → List UInt16 × Bool × List Char
  | 0, _, cs => ([], false, cs)
  | room + 1, first, cs =>
    match if first then some cs else skip ':' cs with
    | none => ([], false, cs)
    | some inner =>
      match if room = 0 then none else readOctets inner with
      | some ((a, b, c, d), rest) => (groupsOfOctets a b c d, true, rest)
      | none =>
        match readNumber 16 4 inner with
        | none => ([], false, cs)
        | some (n, rest) =>
          let (gs, octets, tail) := readGroups room false rest
          (UInt16.ofNat n :: gs, octets, tail)

/-- Eight groups, from those before and those after `::`. -/
def fill (head tail : List UInt16) : Option Address :=
  let groups := head ++ List.replicate (8 - (head.length + tail.length)) 0 ++ tail
  if h : groups.length = 8 then some (.v6 ⟨groups.toArray, by simpa using h⟩) else none

/-- The eight-group address that a whole text denotes. -/
def readV6 (cs : List Char) : Option Address :=
  let (head, octets, rest) := readGroups 8 true cs
  if head.length = 8 then (if rest.isEmpty then fill head [] else none)
  else if octets then none
  else
    match rest with
    | ':' :: ':' :: rest =>
      let (tail, _, rest) := readGroups (7 - head.length) true rest
      if rest.isEmpty then fill head tail else none
    | _ => none

/-- The address that a text denotes. -/
def ofText? (text : String) : Option Address :=
  match readOctets text.toList with
  | some ((a, b, c, d), []) => some (.v4 a b c d)
  | _ => readV6 text.toList

/-! ## Writing -/

/-- Four octets with points between them. -/
def octetsText (a b c d : Nat) : String := s!"{a}.{b}.{c}.{d}"

/-- Groups in hexadecimal with colons between them. -/
def groupsText (gs : List UInt16) : String :=
  String.intercalate ":" (gs.map (fun g => String.ofList (Nat.toDigits 16 g.toNat)))

/-- The length of the run of zero groups at the head. -/
def zeroRun (gs : List UInt16) : Nat := (gs.takeWhile (· == 0)).length

/-- Start and length of the first longest run of zero groups, looking from position `start` on. -/
def longestZeroRun : List UInt16 → (start : Nat) → Nat × Nat
  | [], start => (start, 0)
  | g :: gs, start =>
    let here := zeroRun (g :: gs)
    let later := longestZeroRun gs (start + 1)
    if here < later.2 then later else (start, here)

/-- The canonical text of eight groups. -/
def v6Text (gs : List UInt16) : String :=
  match gs with
  | [0, 0, 0, 0, 0, 0xffff, x, y] =>
    "::ffff:" ++ octetsText (x.toNat / 256) (x.toNat % 256) (y.toNat / 256) (y.toNat % 256)
  | _ =>
    let (start, length) := longestZeroRun gs 0
    if length < 2 then groupsText gs
    else groupsText (gs.take start) ++ "::" ++ groupsText (gs.drop (start + length))

/-- The canonical text of an address. -/
def text : Address → String
  | v4 a b c d => octetsText a.toNat b.toNat c.toNat d.toNat
  | v6 groups => v6Text groups.toList

end Address

end CallMedia
