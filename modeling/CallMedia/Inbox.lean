/-
  A bounded inbox.

  Messages and queries need a permit to enter; completions do not, so whoever completes an operation
  never waits.  There are `max 1 capacity` permits, and an inbox that would need more than `mostPermits`
  cannot be made.  A permit is free, or in the hand of a caller that has not sent yet, or held by a
  message or query that has not been taken out.

  Callers who find no free permit wait in line.  A permit that is given back goes to the first in line;
  only if nobody waits does it become free.  Items leave in the order in which they entered.  Whatever
  is done, the number of permits stays the same (`permits_take` and its neighbours).
-/
import CallMedia.Controller

namespace CallMedia

/-- An inbox; callers are known by their numbers. -/
structure Inbox where
  /-- Free permits. -/
  free : Nat
  /-- Items that have entered, the oldest first. -/
  items : List Item := []
  /-- Callers with a permit in hand, in the order they got it. -/
  granted : List Nat := []
  /-- Callers in line for a permit, the first first. -/
  waiting : List Nat := []
deriving DecidableEq, Repr

namespace Inbox

/-- Whether an item holds a permit. -/
def holdsPermit : Item → Bool
  | .completion _ => false
  | _ => true

/-- All permits: the free ones, those in the hands of callers, and those held by items. -/
def permits (i : Inbox) : Nat := i.free + i.granted.length + i.items.countP holdsPermit

/-- The most permits that can be counted: three bits of a 64-bit word are taken. -/
def mostPermits : Nat := Nat.pow 2 61 - 1

/-- An empty inbox with `max 1 capacity` permits, if that many can be counted. -/
def ofCapacity? (capacity : Nat) : Option Inbox :=
  if max 1 capacity ≤ mostPermits then some { free := max 1 capacity } else none

/-- A caller asks for a permit: it gets a free one, or gets in line. -/
def ask (i : Inbox) (caller : Nat) : Inbox :=
  if 0 < i.free then { i with free := i.free - 1, granted := i.granted ++ [caller] }
  else { i with waiting := i.waiting ++ [caller] }

/-- A permit is given back. -/
def giveBack (i : Inbox) : Inbox :=
  match i.waiting with
  | [] => { i with free := i.free + 1 }
  | first :: rest => { i with waiting := rest, granted := i.granted ++ [first] }

/-- A caller with a permit in hand sends: the item takes over the permit. -/
def send (i : Inbox) (caller : Nat) (item : Item) : Inbox :=
  if caller ∈ i.granted then
    { i with granted := i.granted.erase caller, items := i.items ++ [item] }
  else i

/-- A caller gives up: it leaves the line, or gives back the permit in its hand. -/
def withdraw (i : Inbox) (caller : Nat) : Inbox :=
  if caller ∈ i.granted then { i with granted := i.granted.erase caller }.giveBack
  else { i with waiting := i.waiting.erase caller }

/-- A completion enters, whatever the bound. -/
def post (i : Inbox) (c : Completion) : Inbox := { i with items := i.items ++ [.completion c] }

/-- The oldest item leaves; its permit is given back. -/
def take (i : Inbox) : Option (Item × Inbox) :=
  match i.items with
  | [] => none
  | item :: rest =>
    let i := { i with items := rest }
    some (item, if holdsPermit item then i.giveBack else i)

/-- Give back the permits of items that nobody will take out any more. -/
def discard (i : Inbox) : List Item → Inbox
  | [] => i
  | item :: rest => (if holdsPermit item then i.giveBack else i).discard rest

/-- The inbox after its reader is gone: whatever had entered is lost. -/
def abandon (i : Inbox) : Inbox := { i with items := [] }.discard i.items

/-! ## No permit is lost -/

/-- A new inbox has as many permits as its capacity, and one at least. -/
theorem permits_ofCapacity? {capacity : Nat} {i : Inbox} (h : ofCapacity? capacity = some i) :
    i.permits = max 1 capacity := by
  unfold ofCapacity? at h
  split at h
  · cases h; simp [permits]
  · cases h

/-- A permit that is given back is there again: free, or in the hand of whoever was first in line. -/
theorem permits_giveBack (i : Inbox) : i.giveBack.permits = i.permits + 1 := by
  unfold giveBack
  split <;> simp [permits] <;> omega

/-- Whoever asks takes a permit from the free ones, or takes none. -/
theorem permits_ask (i : Inbox) (caller : Nat) : (i.ask caller).permits = i.permits := by
  unfold ask
  split
  · simp only [permits, List.length_append, List.length_singleton]
    omega
  · rfl

/-- What is sent holds the permit of whoever sends it. -/
theorem permits_send (i : Inbox) (caller : Nat) (item : Item) (h : holdsPermit item = true) :
    (i.send caller item).permits = i.permits := by
  unfold send
  split
  · next hc =>
    have := List.length_pos_of_mem hc
    simp [permits, List.length_erase_of_mem hc, h]
    omega
  · rfl

/-- Whoever gives up gives back what is in hand. -/
theorem permits_withdraw (i : Inbox) (caller : Nat) : (i.withdraw caller).permits = i.permits := by
  unfold withdraw
  split
  · next hc =>
    have := List.length_pos_of_mem hc
    rw [permits_giveBack]
    simp [permits, List.length_erase_of_mem hc]
    omega
  · rfl

/-- A completion holds no permit. -/
theorem permits_post (i : Inbox) (c : Completion) : (i.post c).permits = i.permits := by
  simp [permits, post, holdsPermit]

/-- What leaves gives back its permit. -/
theorem permits_take {i j : Inbox} {item : Item} (h : i.take = some (item, j)) :
    j.permits = i.permits := by
  unfold take at h
  split at h
  · cases h
  · next head rest he =>
    obtain ⟨rfl, rfl⟩ : head = item ∧ _ = j := by simpa using h
    by_cases hp : holdsPermit head = true
    · rw [if_pos hp, permits_giveBack]
      simp [permits, he, hp]
      omega
    · rw [if_neg hp]
      simp [permits, he, hp]

/-- Everything that is thrown away gives back its permit. -/
theorem permits_discard (i : Inbox) (lost : List Item) :
    (i.discard lost).permits = i.permits + lost.countP holdsPermit := by
  induction lost generalizing i with
  | nil => rfl
  | cons item rest ih =>
    by_cases hp : holdsPermit item = true
    · simp [discard, hp, ih, permits_giveBack]; omega
    · simp [discard, hp, ih]

/-- Not even the end of the reader costs a permit. -/
theorem permits_abandon (i : Inbox) : i.abandon.permits = i.permits := by
  rw [abandon, permits_discard]
  simp [permits]

end Inbox

end CallMedia
