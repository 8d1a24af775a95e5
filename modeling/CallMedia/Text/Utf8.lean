/-
  Bytes as text.

  A byte sequence is read one character at a time.  `nextChar` takes the longest well-formed character
  at the head, or reports how many bytes of an ill-formed one belong together: a lead byte with the
  continuation bytes that could still have followed it.  Strict reading fails on the first ill-formed
  character; lossy reading puts U+FFFD in the place of each.
-/

namespace CallMedia.Text

/-- The bytes allowed second after a lead byte, and how many follow the lead in all. -/
def continuation (lead : Nat) : Option (Nat × Nat × Nat) :=
  if 0xc2 ≤ lead ∧ lead ≤ 0xdf then some (0x80, 0xbf, 1)
  else if lead = 0xe0 then some (0xa0, 0xbf, 2)
  else if lead = 0xed then some (0x80, 0x9f, 2)
  else if 0xe1 ≤ lead ∧ lead ≤ 0xef then some (0x80, 0xbf, 2)
  else if lead = 0xf0 then some (0x90, 0xbf, 3)
  else if lead = 0xf4 then some (0x80, 0x8f, 3)
  else if 0xf1 ≤ lead ∧ lead ≤ 0xf3 then some (0x80, 0xbf, 3)
  else none

/-- Up to `room` continuation bytes, the first of them within `low` and `high`. -/
def continued (room low high : Nat) (bytes : List UInt8) : List UInt8 :=
  match room, bytes with
  | 0, _ => []
  | _, [] => []
  | room + 1, b :: rest =>
    if low ≤ b.toNat ∧ b.toNat ≤ high then b :: continued room 0x80 0xbf rest else []

/-- The character that a lead byte and its continuation bytes encode. -/
def assemble (lead : Nat) (tail : List UInt8) : Char :=
  let head := lead % Nat.pow 2 (6 - tail.length)
  Char.ofNat (tail.foldl (fun n b => n * 64 + b.toNat % 64) head)

/-- The character at the head of a non-empty byte sequence, if it is well formed, and how many bytes
    after the first it takes. -/
def nextChar (lead : UInt8) (rest : List UInt8) : Option Char × Nat :=
  if lead < 0x80 then (some (Char.ofNat lead.toNat), 0)
  else
    match continuation lead.toNat with
    | none => (none, 0)
    | some (low, high, count) =>
      let tail := continued count low high rest
      if tail.length = count then (some (assemble lead.toNat tail), count) else (none, tail.length)

/-- The characters of a byte sequence, `none` for each ill-formed one. -/
def characters : List UInt8 → List (Option Char)
  | [] => []
  | lead :: rest =>
    let (c, taken) := nextChar lead rest
    c :: characters (rest.drop taken)
termination_by bytes => bytes.length
decreasing_by simp only [List.length_drop, List.length_cons]; omega

/-- The text that a byte sequence encodes, if all of it is well formed. -/
def ofUtf8? (bytes : List UInt8) : Option String :=
  (characters bytes).mapM id |>.map String.ofList

/-- The text of a byte sequence, with U+FFFD for what is ill formed. -/
def ofUtf8Lossy (bytes : List UInt8) : String :=
  String.ofList ((characters bytes).map (fun c => c.getD '\ufffd'))

/-- The bytes of a text. -/
def toUtf8 (s : String) : List UInt8 := s.toUTF8.toList

end CallMedia.Text
