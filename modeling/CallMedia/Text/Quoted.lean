/-
  Text between double quotes, as a trace shows it.

  Inside the quotes a double quote and a backslash stand behind a backslash; tab, line feed, carriage
  return and NUL have their short forms; any other character that a reader would not see is written by
  its code point, `\u{…}` with the fewest hexadecimal digits; all else stands for itself.
-/
import CallMedia.Text.Hidden

namespace CallMedia.Text

/-- The written form of one character inside quotes. -/
def escape (c : Char) : List Char :=
  if c = '"' then ['\\', '"']
  else if c = '\\' then ['\\', '\\']
  else if c = '\t' then ['\\', 't']
  else if c = '\n' then ['\\', 'n']
  else if c = '\r' then ['\\', 'r']
  else if c = '\x00' then ['\\', '0']
  else if isHidden c then ['\\', 'u', '\x7b'] ++ Nat.toDigits 16 c.toNat ++ ['\x7d']
  else [c]

/-- A text between double quotes. -/
def quoted (s : String) : String :=
  String.ofList ('"' :: s.toList.flatMap escape ++ ['"'])

end CallMedia.Text
