/-
  The state of one call leg.

  Everything that a controller remembers besides the phase of its session: whom it reports to, what it
  holds on the media server, the two session descriptions, the operation in flight, the call recording,
  and a slot for each category of operation that completes later.
-/
import CallMedia.Message
import CallMedia.Recording
import CallMedia.Slot

namespace CallMedia

/-- What a controller remembers of its call leg. -/
structure Leg where
  /-- The owning call: whoever created the session. -/
  call : Option Recipient := none
  /-- Whoever joined the leg to its mixer. -/
  owner : Option Recipient := none
  observers : Observers := {}
  session : Option SessionHandle := none
  connection : Option ConnectionHandle := none
  group : Option GroupHandle := none
  mixer : Option MixerHandle := none
  outbound : Bool := false
  mode : ConnectionMode := .standard
  localSdp : Option String := none
  remoteSdp : Option String := none
  conferencing : Bool := false
  active : Option Active := none
  /-- The key reported when a recording is ended by it. -/
  endKey : String := ""
  recording : Option CallRecording := none
  /-- The account that call recordings belong to: the first one named. -/
  accountId : Option String := none
  /-- The store that call recordings go to: the first one named. -/
  store : Option String := none
  slots : Slots := {}
deriving DecidableEq, Repr, Inhabited

namespace Leg

/-- The slot of a category. -/
def slot (l : Leg) (c : Category) : Slot := l.slots.get c

/-- The leg with the slot of one category replaced. -/
def setSlot (l : Leg) (c : Category) (s : Slot) : Leg := { l with slots := l.slots.set c s }

/-- One slot is replaced, and the others are as before. -/
@[simp] theorem slot_setSlot (l : Leg) (c c' : Category) (s : Slot) :
    (l.setSlot c s).slot c' = if c' = c then s else l.slot c' := Slots.get_set l.slots c c' s

/-- Of two slots put in one place the later one stays. -/
@[simp] theorem setSlot_setSlot (l : Leg) (c : Category) (s s' : Slot) :
    (l.setSlot c s).setSlot c s' = l.setSlot c s' := by
  unfold setSlot
  rw [Slots.set_set]

/-- The session as it is described to the owning call. -/
def info (l : Leg) (serverAddress : Address) : SessionInfo :=
  { useMediaServer := true
    serverAddress
    localSdp := l.localSdp.getD ""
    remoteSdp := l.remoteSdp.getD "" }

/-- The group, if it may start the given activity: it exists and does nothing else. -/
def idleGroup (l : Leg) (requested : Activity) : Except Fault GroupHandle :=
  match l.group, l.active with
  | none, _ => .error (.resourceUnavailable "media group")
  | some group, none => .ok group
  | some _, some current =>
    .error (.illegalOperation
      s!"cannot start {requested.name} while {current.activity.name} is in progress")

/-- The leg after the session is released: nothing held, nothing in flight, nothing awaited. -/
def released (l : Leg) : Leg :=
  { l with
    session := none, connection := none, group := none, mixer := none, owner := none
    conferencing := false, active := none, recording := none
    slots := l.slots.disarmAll }

/-- Keep account and store if none were named before. -/
def remember (l : Leg) (accountId store : Option String) : Leg :=
  { l with accountId := l.accountId.or accountId, store := l.store.or store }

/-- Take out the call recording that the given generation of the recorder writes. -/
def takeRecording (l : Leg) (generation : Nat) : Option CallRecording × Leg :=
  match l.recording with
  | some r => if r.generation = generation then (some r, { l with recording := none }) else (none, l)
  | none => (none, l)

/-- Clear the operation in flight if it is the given one. -/
def clearActive (l : Leg) (completed : Active) : Leg :=
  if l.active = some completed then { l with active := none } else l

end Leg

end CallMedia
