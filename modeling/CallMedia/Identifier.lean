/-
  Identifiers of controllers and recipients.

  An identifier is a word for its kind and 122 random bits in the usual form of a random UUID: groups of
  8, 4, 4, 4 and 12 hexadecimal digits, of which one tells the version (4) and one has its two upper
  bits fixed.  Different bits give different identifiers.
-/

namespace CallMedia.Identifier

/-- What an identifier is for. -/
inductive Kind where
  | controller
  | recipient
deriving DecidableEq, Repr

/-- The word for a kind. -/
def Kind.word : Kind → String
  | controller => "msc-"
  | recipient => "rcpt-"

/-- Lower-case hexadecimal digits, `count` of them, the most significant first. -/
def hexDigits : (count n : Nat) → List Char
  | 0, _ => []
  | count + 1, n => hexDigits count (n / 16) ++ [Nat.digitChar (n % 16)]

/-- The UUID that 122 bits make. -/
def uuid (bits : Nat) : String :=
  let group (low count : Nat) : String := String.ofList (hexDigits count (bits / Nat.pow 2 low))
  let variant := 8 + bits / Nat.pow 2 60 % 4
  let groups : List String :=
    [group 90 8, group 74 4, "4" ++ group 62 3,
      String.ofList [Nat.digitChar variant] ++ group 48 3, group 0 12]
  String.intercalate "-" groups

/-- The identifier of a kind that 122 bits make. -/
def ofBits (kind : Kind) (bits : Nat) : String := kind.word ++ uuid bits

end CallMedia.Identifier
