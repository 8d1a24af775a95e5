/-
  Headers of WAV recordings.

  Only the header is read: how many channels and samples a second the recording has, and how many bytes
  of samples it declares.  The sample bytes themselves need not be there.

  A file is `RIFF`, a length that nobody looks at, `WAVE`, and then chunks, each an id, a length and
  that many bytes.  The last `fmt ` chunk before `data` counts.  Of `fact` exactly four bytes are taken
  whatever its length; other chunks are skipped without padding.  A `fmt ` chunk must be consistent in
  itself and of one of three kinds: integer samples, floating-point samples, or the extensible form of
  either.
-/

namespace CallMedia

/-- What a WAV header says about a recording. -/
structure Wave where
  channels : Nat
  /-- Samples a second in each channel. -/
  sampleRate : Nat
  /-- Samples in each channel. -/
  frames : Nat
deriving DecidableEq, Repr

namespace Wave

/-- The number that bytes make, the least significant first. -/
def littleEndian : List UInt8 → Nat
  | [] => 0
  | b :: rest => b.toNat + 256 * littleEndian rest

/-- The first `n` bytes and the rest, if there are that many. -/
def take? (n : Nat) (bytes : List UInt8) : Option (List UInt8 × List UInt8) :=
  if n ≤ bytes.length then some (bytes.take n, bytes.drop n) else none

/-- A number of `n` bytes. -/
def number? (n : Nat) (bytes : List UInt8) : Option (Nat × List UInt8) :=
  (take? n bytes).map (fun (head, rest) => (littleEndian head, rest))

/-- The layout of samples that a `fmt ` chunk declares. -/
structure Layout where
  channels : Nat
  sampleRate : Nat
  /-- Bytes of one sample of one channel. -/
  sampleBytes : Nat
deriving DecidableEq, Repr

/-- The sixteen bytes by which the extensible form names integer samples. -/
def integerSubformat : List UInt8 :=
  [0x01, 0, 0, 0, 0, 0, 0x10, 0, 0x80, 0, 0, 0xaa, 0, 0x38, 0x9b, 0x71]

/-- The sixteen bytes by which the extensible form names floating-point samples. -/
def floatSubformat : List UInt8 :=
  [0x03, 0, 0, 0, 0, 0, 0x10, 0, 0x80, 0, 0, 0xaa, 0, 0x38, 0x9b, 0x71]

/-- What follows the common fields of a `fmt ` chunk for integer samples. -/
def integerTail? (length bits : Nat) (bytes : List UInt8) : Option (List UInt8) := do
  if length = 16 then some bytes
  else if length = 18 ∨ length = 40 then
    let (_, rest) ← take? 2 bytes
    if bits ≠ 8 ∧ bits ≠ 16 ∧ bits ≠ 24 then none
    else if length = 40 then (take? 22 rest).map Prod.snd
    else some rest
  else none

/-- What follows the common fields of a `fmt ` chunk for floating-point samples. -/
def floatTail? (length bits : Nat) (bytes : List UInt8) : Option (List UInt8) := do
  if bits ≠ 32 then none
  else if length = 16 then some bytes
  else if length = 18 then
    let (extra, rest) ← number? 2 bytes
    if extra = 0 then some rest else none
  else none

/-- What follows the common fields of a `fmt ` chunk in the extensible form. -/
def extensibleTail? (length : Nat) (bytes : List UInt8) : Option (List UInt8) := do
  if length < 40 then none
  else
    let (extra, rest) ← number? 2 bytes
    let (_, rest) ← take? 6 rest
    let (subformat, rest) ← take? 16 rest
    if extra = 22 ∧ (subformat = integerSubformat ∨ subformat = floatSubformat) then some rest
    else none

/-- The layout declared by a `fmt ` chunk of the given length, and the bytes after it. -/
def layout? (length : Nat) (bytes : List UInt8) : Option (Layout × List UInt8) := do
  if length < 16 then none
  else
    let (tag, rest) ← number? 2 bytes
    let (channels, rest) ← number? 2 rest
    let (rate, rest) ← number? 4 rest
    let (byteRate, rest) ← number? 4 rest
    let (blockAlign, rest) ← number? 2 rest
    let (bits, rest) ← number? 2 rest
    let sampleBytes := blockAlign / channels
    -- the size of a sample in bits has to fit two bytes, too
    if channels = 0 ∨ 8 * sampleBytes < bits ∨ 0xffff < 8 * sampleBytes
        ∨ byteRate ≠ blockAlign * rate ∨ bits = 0 ∨ bits % 8 ≠ 0 then none
    else
      let rest ←
        if tag = 1 then integerTail? length bits rest
        else if tag = 3 then floatTail? length bits rest
        else if tag = 0xfffe then extensibleTail? length rest
        else none
      some (⟨channels, rate, sampleBytes⟩, rest)

/-- The frames in a `data` chunk of the given length. -/
def frames? (l : Layout) (length : Nat) : Option Nat :=
  let samples := length / l.sampleBytes
  if length % l.sampleBytes = 0 ∧ samples % l.channels = 0 then some (samples / l.channels) else none

/-- Read chunks up to `data`.  Each takes at least the eight bytes of its id and length, so as many
    rounds as there are bytes are enough. -/
def chunks? : (rounds : Nat) → Option Layout → List UInt8 → Option Wave
  | 0, _, _ => none
  | rounds + 1, layout, bytes => do
    let (id, rest) ← take? 4 bytes
    let (length, rest) ← number? 4 rest
    if id = [0x66, 0x6d, 0x74, 0x20] then
      let (layout, rest) ← layout? length rest
      chunks? rounds (some layout) rest
    else if id = [0x66, 0x61, 0x63, 0x74] then
      let (_, rest) ← take? 4 rest
      chunks? rounds layout rest
    else if id = [0x64, 0x61, 0x74, 0x61] then
      let l ← layout
      let frames ← frames? l length
      some ⟨l.channels, l.sampleRate, frames⟩
    else
      let (_, rest) ← take? length rest
      chunks? rounds layout rest

/-- The header of a WAV file. -/
def ofBytes? (bytes : List UInt8) : Option Wave := do
  let (riff, rest) ← take? 4 bytes
  let (_, rest) ← take? 4 rest
  let (wave, rest) ← take? 4 rest
  if riff = [0x52, 0x49, 0x46, 0x46] ∧ wave = [0x57, 0x41, 0x56, 0x45] then
    chunks? rest.length none rest
  else none

/-- The bytes of a number, the least significant first. -/
def bytesOf : (count n : Nat) → List UInt8
  | 0, _ => []
  | count + 1, n => UInt8.ofNat n :: bytesOf count (n / 256)

/-- A recording of silence in integer samples: the 44-byte header and zero bytes. -/
def silence (channels sampleRate bits frames : Nat) : List UInt8 :=
  let blockAlign := channels * (bits / 8)
  let n := frames * blockAlign
  [0x52, 0x49, 0x46, 0x46] ++ bytesOf 4 (36 + n) ++ [0x57, 0x41, 0x56, 0x45] ++
  [0x66, 0x6d, 0x74, 0x20] ++ bytesOf 4 16 ++ bytesOf 2 1 ++ bytesOf 2 channels ++
  bytesOf 4 sampleRate ++ bytesOf 4 (sampleRate * blockAlign) ++ bytesOf 2 blockAlign ++
  bytesOf 2 bits ++ [0x64, 0x61, 0x74, 0x61] ++ bytesOf 4 n ++ List.replicate n 0

end Wave

end CallMedia
