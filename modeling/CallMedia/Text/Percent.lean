/-
  Percent-encoding.

  In a URI a byte may be written as `%` and two hexadecimal digits.  Writing does so, with upper-case
  digits, for the bytes of controls, of characters past ASCII and of those that the place reserves; a `%`
  that is already there stays.  Reading takes digits of either case, and a `%` without two of them
  stands for itself; any byte may result.
-/
import CallMedia.Text.Utf8

namespace CallMedia.Text

/-! ## Reading -/

/-- The value of a hexadecimal digit. -/
def hexValue? (b : UInt8) : Option UInt8 :=
  if 0x30 ≤ b ∧ b ≤ 0x39 then some (b - 0x30)
  else if 0x41 ≤ b ∧ b ≤ 0x46 then some (b - 0x41 + 10)
  else if 0x61 ≤ b ∧ b ≤ 0x66 then some (b - 0x61 + 10)
  else none

/-- Bytes with every `%XY` replaced by the byte it stands for. -/
def percentDecode : List UInt8 → List UInt8
  | b :: x :: y :: rest =>
    if b = 0x25 then
      match hexValue? x, hexValue? y with
      | some hi, some lo => (hi * 16 + lo) :: percentDecode rest
      | _, _ => b :: percentDecode (x :: y :: rest)
    else b :: percentDecode (x :: y :: rest)
  | bytes => bytes

/-! ## Writing -/

/-- A byte as `%` and two digits. -/
def percentByte (b : UInt8) : List Char :=
  ['%', (Nat.digitChar (b.toNat / 16)).toUpper, (Nat.digitChar (b.toNat % 16)).toUpper]

/-- A text in which controls, characters past ASCII and the reserved ones are written byte by byte. -/
def percentEncode (reserved text : List Char) : List Char :=
  text.flatMap fun c =>
    if c.toNat < 0x20 ∨ 0x7f ≤ c.toNat ∨ c ∈ reserved then
      (toUtf8 (String.singleton c)).flatMap percentByte
    else [c]

end CallMedia.Text
