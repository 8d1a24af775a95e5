/-
  One slot for each category of operation that completes later.

  A slot remembers whom the outcome goes to, counts the operations it was armed for, and whether the
  latest of them is still awaited.  Each arming starts a new generation; a completion is accepted once,
  and only for the generation that is awaited (`accept_iff`).  A completion of an older generation is
  stale: its operation was superseded.

  Arming needs the inbox that the sink will report to: where it is gone, arming fails and changes
  nothing.
-/
import CallMedia.Recipient
import CallMedia.Category

namespace CallMedia

/-- The state of one category of operations. -/
structure Slot where
  generation : Nat := 0
  pending : Bool := false
  replyTo : Option Recipient := none
deriving DecidableEq, Repr, Inhabited

namespace Slot

/-- Name the recipient of the next operation's outcome. -/
def bind (s : Slot) (r : Recipient) : Slot := { s with replyTo := some r }

/-- Start a new generation, superseding the one before it.  Fails if the inbox is gone. -/
def arm (s : Slot) (inboxOpen : Bool) : Option (Nat × Slot) :=
  if inboxOpen then
    some (s.generation + 1, { s with generation := s.generation + 1, pending := true })
  else none

/-- Forget the awaited operation. -/
def disarm (s : Slot) : Slot := { s with pending := false }

/-- Take a completion: accepted if its generation is the awaited one, and then awaited no more. -/
def accept (s : Slot) (generation : Nat) : Bool × Slot :=
  if s.pending && generation == s.generation then (true, { s with pending := false }) else (false, s)

/-- A completion is accepted if its generation is awaited, and only then. -/
theorem accept_iff (s : Slot) (g : Nat) :
    (s.accept g).1 = true ↔ s.pending = true ∧ g = s.generation := by
  unfold accept; split <;> simp_all

/-- What was accepted is awaited no more, and a refusal changes nothing. -/
theorem accept_snd (s : Slot) (g : Nat) :
    (s.accept g).2 = if (s.accept g).1 then s.disarm else s := by
  unfold accept; split <;> rfl

end Slot

/-- The four slots of a call leg. -/
structure Slots where
  negotiation : Slot := {}
  playback : Slot := {}
  digitCollection : Slot := {}
  recording : Slot := {}
deriving DecidableEq, Repr, Inhabited

namespace Slots

/-- The slot of a category. -/
def get (s : Slots) : Category → Slot
  | .negotiation => s.negotiation
  | .group .playback => s.playback
  | .group .digitCollection => s.digitCollection
  | .group .recording => s.recording

/-- The slots with that of one category replaced. -/
def set (s : Slots) (c : Category) (v : Slot) : Slots :=
  match c with
  | .negotiation => { s with negotiation := v }
  | .group .playback => { s with playback := v }
  | .group .digitCollection => { s with digitCollection := v }
  | .group .recording => { s with recording := v }

/-- Every slot disarmed. -/
def disarmAll (s : Slots) : Slots :=
  ⟨s.negotiation.disarm, s.playback.disarm, s.digitCollection.disarm, s.recording.disarm⟩

/-- One slot is replaced, and the others are as before. -/
@[simp] theorem get_set (s : Slots) (c c' : Category) (v : Slot) :
    (s.set c v).get c' = if c' = c then v else s.get c' := by
  rcases c with _ | _ | _ | _ <;> rcases c' with _ | _ | _ | _ <;> rfl

/-- Of two slots put in one place the later one stays. -/
theorem set_set (s : Slots) (c : Category) (v v' : Slot) : (s.set c v).set c v' = s.set c v' := by
  rcases c with _ | _ | _ | _ <;> rfl

/-- Disarming all slots disarms each. -/
@[simp] theorem get_disarmAll (s : Slots) (c : Category) :
    s.disarmAll.get c = (s.get c).disarm := by
  rcases c with _ | _ | _ | _ <;> rfl

/-- Slots agree if they agree in every category. -/
theorem ext_get {s t : Slots} (h : ∀ c, s.get c = t.get c) : s = t := by
  have h1 := h .negotiation
  have h2 := h (.group .playback)
  have h3 := h (.group .digitCollection)
  have h4 := h (.group .recording)
  cases s; cases t; simp_all [get]

end Slots

end CallMedia
