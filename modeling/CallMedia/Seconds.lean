/-
  Lengths of time in seconds, as binary64 numbers.

  A length is kept as its 64-bit word, so that any two can be told apart.  All arithmetic happens on
  natural numbers: a quotient is rounded once, to the nearest binary64 with ties to the even neighbour
  (`Seconds.ofRatio`), and a finite word denotes the exact magnitude `significand * 2 ^ scale`.

  Decimal texts are read in two roundings: the digits as one integer, then that integer times or over
  the power of ten.  Texts with at most 15 digits and a power up to 22 are thereby read exactly rounded.
-/

namespace CallMedia

/-- The quotient of two naturals, rounded to the nearest integer, a half to the even neighbour. -/
def roundedQuotient (num den : Nat) : Nat :=
  let q := num / den
  let twice := 2 * (num % den)
  if twice < den then q
  else if den < twice then q + 1
  else q + q % 2

/-- A length of time in seconds: a binary64 number, given by its word. -/
structure Seconds where
  bits : UInt64
deriving DecidableEq, Repr, Inhabited

namespace Seconds

/-- The scale of the smallest positive binary64 number. -/
def leastScale : Int := -1074

/-- The exponent `e` with `2 ^ e ≤ num / den < 2 ^ (e + 1)`, for positive `num` and `den`. -/
def exponent (num den : Nat) : Int :=
  let e : Int := (Nat.log2 num : Int) - Nat.log2 den
  let reached := if 0 ≤ e then den * Nat.pow 2 e.toNat ≤ num else den ≤ num * Nat.pow 2 (-e).toNat
  if reached then e else e - 1

/-- The word of a magnitude `significand * 2 ^ scale`; past the largest finite number, infinity. -/
def encode (significand : Nat) (scale : Int) : UInt64 :=
  UInt64.ofNat (min ((scale - leastScale).toNat * Nat.pow 2 52 + significand) (0x7ff * Nat.pow 2 52))

/-- The binary64 number nearest to `num / den`; zero where either is zero. -/
def ofRatio (num den : Nat) : Seconds :=
  if num = 0 ∨ den = 0 then ⟨0⟩
  else
    let scale := max (exponent num den - 52) leastScale
    let significand :=
      if 0 ≤ scale then roundedQuotient num (den * Nat.pow 2 scale.toNat)
      else roundedQuotient (num * Nat.pow 2 (-scale).toNat) den
    ⟨encode significand scale⟩

/-- The binary64 number nearest to a natural number. -/
def ofNat (n : Nat) : Seconds := ofRatio n 1

/-- No time at all. -/
def zero : Seconds := ⟨0⟩

/-- The number with the opposite sign. -/
def neg (s : Seconds) : Seconds := ⟨s.bits ^^^ 0x8000000000000000⟩

/-- The exponent field of the word. -/
def field (s : Seconds) : Nat := s.bits.toNat / Nat.pow 2 52 % Nat.pow 2 11

/-- The significand of a finite number. -/
def significand (s : Seconds) : Nat :=
  s.bits.toNat % Nat.pow 2 52 + if s.field = 0 then 0 else Nat.pow 2 52

/-- The scale of a finite number. -/
def scale (s : Seconds) : Int := (max s.field 1 : Nat) - 1075

/-- The magnitude of a finite number as an exact quotient. -/
def ratio (s : Seconds) : Nat × Nat :=
  if 0 ≤ s.scale then (s.significand * Nat.pow 2 s.scale.toNat, 1)
  else (s.significand, Nat.pow 2 (-s.scale).toNat)

/-- Whether the number is neither infinite nor undefined. -/
def isFinite (s : Seconds) : Bool := s.field != 0x7ff

/-! ## Decimal texts -/

/-- A number over a rounded power of ten. -/
def overTen (s : Seconds) (power : Nat) : Seconds :=
  let (n, d) := s.ratio
  let (tn, td) := (ofRatio (Nat.pow 10 power) 1).ratio
  ofRatio (n * td) (d * tn)

/-- A number times a rounded power of ten. -/
def timesTen (s : Seconds) (power : Nat) : Seconds :=
  let (n, d) := s.ratio
  let (tn, td) := (ofRatio (Nat.pow 10 power) 1).ratio
  ofRatio (n * tn) (d * td)

/-- The magnitude `digits * 10 ^ power`, read in two roundings. -/
def ofDecimal (digits : Nat) (power : Int) : Seconds :=
  let whole := ofNat digits
  if 0 ≤ power then whole.timesTen (min power.toNat 400)
  else
    let places := (-power).toNat
    if places ≤ 308 then whole.overTen places
    else if places ≤ 616 then (whole.overTen 308).overTen (places - 308)
    else ⟨0⟩

/-- Take digits into a number as long as it fits 64 bits; the number, and the digits left over. -/
def takeDigits (n : Nat) : List Char → Nat × List Char
  | [] => (n, [])
  | c :: rest =>
    let m := n * 10 + (c.toNat - '0'.toNat)
    if UInt64.size ≤ m then (n, c :: rest) else takeDigits m rest

/-- The power of ten behind the mark `e`. -/
def power? (cs : List Char) : Option Int :=
  let (negative, ds) := match cs with
    | '-' :: rest => (true, rest)
    | '+' :: rest => (false, rest)
    | rest => (false, rest)
  if ds = [] || !ds.all Char.isDigit then none
  else
    let n : Int := ds.foldl (fun n c => n * 10 + (c.toNat - '0'.toNat)) 0
    some (if negative then -n else n)

/-- The number that a decimal text denotes: digits, and optionally a sign before, a point and further
    digits, and a power of ten.  Digits that do not fit 64 bits count by their place only. -/
def ofText? (text : String) : Option Seconds := do
  let (negative, cs) := match text.toList with
    | '-' :: rest => (true, rest)
    | rest => (false, rest)
  let whole := cs.takeWhile Char.isDigit
  let cs := cs.drop whole.length
  let (fraction, cs) := match cs with
    | '.' :: rest => (rest.takeWhile Char.isDigit, rest.dropWhile Char.isDigit)
    | rest => ([], rest)
  let power ← match cs with
    | [] => some 0
    | mark :: rest => if mark = 'e' ∨ mark = 'E' then power? rest else none
  if whole = [] then none
  else
    let (n, dropped) := takeDigits 0 whole
    let (n, ignored) := takeDigits n fraction
    let places : Int := (fraction.length - ignored.length : Nat)
    let magnitude := ofDecimal n (dropped.length - places + power)
    some (if negative then magnitude.neg else magnitude)

/-! ## Fixed places -/

/-- A finite non-negative number with the given count of places, a half to the even neighbour. -/
def fixed (s : Seconds) (places : Nat) : String :=
  let (n, d) := s.ratio
  let scaled := roundedQuotient (n * Nat.pow 10 places) d
  let whole := scaled / Nat.pow 10 places
  let digits := Nat.toDigits 10 (scaled % Nat.pow 10 places)
  let zeros := List.replicate (places - digits.length) '0'
  if places = 0 then toString whole
  else s!"{whole}.{String.ofList (zeros ++ digits)}"

/-- The word in sixteen hexadecimal digits. -/
def hex (s : Seconds) : String :=
  let digits := Nat.toDigits 16 s.bits.toNat
  String.ofList (List.replicate (16 - digits.length) '0' ++ digits)

/-- The number whose word is written in sixteen lower-case hexadecimal digits. -/
def ofHex? (text : String) : Option Seconds :=
  if text.length ≠ 16 then none
  else
    let digit? (c : Char) : Option Nat :=
      if '0' ≤ c ∧ c ≤ '9' then some (c.toNat - '0'.toNat)
      else if 'a' ≤ c ∧ c ≤ 'f' then some (c.toNat - 'a'.toNat + 10)
      else none
    (text.toList.foldlM (fun n c => (digit? c).map (n * 16 + ·)) 0).map (fun n => ⟨UInt64.ofNat n⟩)

end Seconds

end CallMedia
