/-
  A controller handles items one at a time.

  An item is a message with its sender, a completion, or a query for the controller's state.  `handle`
  is the whole behaviour of a controller: it maps the controller before an item to the controller after
  it, with the trace of what was done in between; a query changes nothing.

  A message that is out of place is dropped.  Where the phase decides, that is visible in `receive`:
  what stands under `whenActive` happens only in an active session.
-/
import CallMedia.Arrival
import CallMedia.CallRecordings
import CallMedia.Mixing

namespace CallMedia

/-- What a query is answered. -/
structure Snapshot where
  phase : Phase
  active : Option Active
  conferencing : Bool
  outbound : Bool
  hasSession : Bool
  hasConnection : Bool
  hasGroup : Bool
  hasMixer : Bool
  localSdp : Option String
  remoteSdp : Option String
  /-- How many observers there are. -/
  observers : Nat
  /-- The id of whoever joined the leg to its mixer. -/
  owner : Option String
  /-- Whether a call recording awaits its stop. -/
  callRecording : Bool
deriving DecidableEq, Repr

/-- What a controller handles. -/
inductive Item where
  | message (sender : Recipient) (message : Message)
  | completion (completion : Completion)
  /-- A query by the caller with the given number. -/
  | query (caller : Nat)
deriving DecidableEq, Repr

namespace Controller

variable {σ : Type} (site : Site σ) (c : Controller σ)

/-- The state of a controller as a query sees it. -/
def snapshot : Snapshot :=
  let l := c.desk.leg
  { phase := c.phase
    active := l.active
    conferencing := l.conferencing
    outbound := l.outbound
    hasSession := l.session.isSome
    hasConnection := l.connection.isSome
    hasGroup := l.group.isSome
    hasMixer := l.mixer.isSome
    localSdp := l.localSdp
    remoteSdp := l.remoteSdp
    observers := l.observers.size
    owner := l.owner.map Recipient.id
    callRecording := l.recording.isSome }

/-- Register an observer and confirm it. -/
def observe (observer : Recipient) (d : Desk σ) : Desk σ :=
  let d := d.tell observer .observing
  { d with leg := { d.leg with observers := d.leg.observers.insert observer } }

/-- Remove one observer, or all. -/
def stopObserving (observer : Option Recipient) (d : Desk σ) : Desk σ :=
  let left := match observer with
    | some r => d.leg.observers.erase r.id
    | none => {}
  { d with leg := { d.leg with observers := left } }

/-- Act on a message. -/
def receive (sender : Recipient) : Message → Controller σ
  | .createSession outbound mode sdp => c.createSession site sender outbound mode sdp
  | .closeSession => c.closeSession site
  | .updateSession sdp => c.updateSession site sdp
  | .createGroup => c.atDesk (·.createGroup site sender)
  | .destroyGroup => c.atDesk (·.destroyGroup site sender)
  | .stopGroup => c.atDesk (·.stopGroup site)
  | .mute => c.whenActive (·.rejoinMixer site .recv "mute")
  | .unmute => c.whenActive (·.rejoinMixer site .duplex "unmute")
  | .startRecording order => c.whenActive (·.startRecording site sender order)
  | .stopRecording accountId store => c.whenActive (·.stopRecording site accountId store)
  | .play order => c.whenActive (·.play site sender order)
  | .collect order => c.whenActive (·.collect site sender order)
  | .record order => c.whenActive (fun d => (d.record site sender order).2)
  | .stop artifact => c.atDesk (·.stop site artifact)
  | .joinBridge mixer => c.whenActive (·.joinMixer site sender mixer "bridge")
  | .joinConference mixer => c.whenActive (·.joinMixer site sender mixer "conference")
  | .leave => c.whenActive (·.leaveMixer site)
  | .observe observer => c.atDesk (observe observer)
  | .stopObserving observer => c.atDesk (stopObserving observer)

/-- Write down that an item is being handled. -/
def noteHandling (what : String) : Controller σ :=
  c.atDesk (·.log .debug s!"Processing {what}" [("state", c.phase.name)])

/-- Handle one item. -/
def handle : Item → Controller σ
  | .message sender m => (c.noteHandling s!"message {m.name}").receive site sender m
  | .completion e =>
    (c.noteHandling s!"{e.category.name} event {e.outcome.describe}").arrive site e
  | .query _ => c

end Controller

end CallMedia
