/-
  What handling one item does.

  `Turned` is the whole behaviour of a controller, stated once: from the phase and the leg before an
  item, to the phase and the leg after it and what was shown meanwhile.  It has a constructor for each
  thing that can come of an item, where the four messages that ask for an activity are one, and all the
  items that are out of place are one.  Whatever holds of every turn is shown by cases on it.
-/
import CallMedia.Proofs.Arriving
import CallMedia.Proofs.Joining

namespace CallMedia

/-! ## Messages that ask for an activity -/

/-- What a message that asks for an activity comes to. -/
structure Ask where
  activity : Activity
  operation : GroupHandle → Operation
  /-- The account and the store that the message names. -/
  accountId : Option String := none
  store : Option String := none
  /-- The key that is to end the activity. -/
  endKey : Option String := none
  /-- The call recording that the activity writes. -/
  recording : Option CallRecordingOrder := none

/-- What a message asks for, if it asks for an activity. -/
def Message.ask? (settings : Settings) : Message → Option Ask
  | .play order => some { activity := .playback, operation := fun g => .play g order.request }
  | .collect order =>
    some { activity := .digitCollection, operation := fun g => .collect g order.request }
  | .record order =>
    some
      { activity := .recording
        operation := fun g => .record g (order.request settings.recordInterSignalTimeoutMs)
        endKey := some (order.endInputKey.getD "") }
  | .startRecording order =>
    some
      { activity := .recording
        operation := fun g => .record g ((Desk.recordingOrder settings.callRecording order).request
          settings.recordInterSignalTimeoutMs)
        accountId := some order.accountId
        store := order.store
        endKey := some settings.callRecording.endInputKeys
        recording := some order }
  | _ => none

namespace Ask

variable (k : Ask)

/-- The leg when the group is looked at. -/
def noted (l : Leg) : Leg := l.remember k.accountId k.store

/-- The leg when the activity is begun. -/
def begun (l : Leg) : Leg := { k.noted l with endKey := k.endKey.getD l.endKey }

/-- The leg in the end, where the activity was started with a generation or not. -/
def kept (clock : Instant) (l : Leg) (generation : Option Nat) : Leg :=
  match k.recording with
  | none => l
  | some order => Desk.recordingSince order clock l generation

variable {k}

/-- What names neither account nor store leaves the leg as it is. -/
theorem noted_eq (ha : k.accountId = none) (hs : k.store = none) (l : Leg) : k.noted l = l := by
  unfold noted Leg.remember
  rw [ha, hs, Option.or_none, Option.or_none]

/-- Where no account, no store and no key is named, nothing of that is remembered. -/
theorem begun_eq {e : Option String} (ha : k.accountId = none) (hs : k.store = none)
    (he : k.endKey = e) (l : Leg) : k.begun l = { l with endKey := e.getD l.endKey } := by
  unfold begun
  rw [noted_eq ha hs, he]

/-- What is kept in the end differs in the call recording at most. -/
theorem kept_cases (clock : Instant) (l : Leg) (r : Option Nat) :
    ∃ recording, k.kept clock l r = { l with recording } := by
  unfold kept
  split
  · exact ⟨l.recording, rfl⟩
  · unfold Desk.recordingSince
    split
    · exact ⟨l.recording, rfl⟩
    · exact ⟨_, rfl⟩

end Ask

/-! ## Turns -/

/-- Whether an item is out of place: it is dropped, and nothing comes of it. -/
def OutOfPlace (p : Phase) (l : Leg) : Item → Prop
  | .message _ (.createSession ..) => p ≠ .uninitialized
  | .message _ .closeSession => ¬ (p = .opening ∨ p = .active ∨ p = .updating)
  | .message _ (.updateSession _) | .message _ (.startRecording _) | .message _ (.play _)
  | .message _ (.collect _) | .message _ (.record _) | .message _ (.joinBridge _)
  | .message _ (.joinConference _) => p ≠ .active
  | .message _ .mute | .message _ .unmute => p ≠ .active ∨ l.mixer = none
  | .message _ .leave => p ≠ .active ∨ l.conferencing = false
  | .message _ (.stopRecording ..) => p ≠ .active ∨ ∀ g, l.active ≠ some ⟨.recording, g⟩
  | .message _ (.stop _) => l.active = none
  | .message _ .createGroup => l.group ≠ none
  | .message _ .destroyGroup | .message _ .stopGroup | .message _ (.observe _)
  | .message _ (.stopObserving _) => False
  | .completion e => ¬ l.Awaits e.category e.generation
  | .query _ => True

/-- The leg of the session that a message creates. -/
def Leg.ownedBy (l : Leg) (sender : Recipient) (outbound : Bool) (mode : ConnectionMode)
    (sdp : String) : Leg :=
  { l with
    call := some sender, outbound, mode
    remoteSdp := if sdp = "" then l.remoteSdp else some sdp }

/-- The observers once one of them, or all, are removed. -/
def Observers.without (os : Observers) : Option Recipient → Observers
  | some r => os.erase r.id
  | none => {}

/-- What comes of handling an item: the phase, the leg, and what was shown. -/
inductive Turned {σ : Type} (site : Site σ) (w : Surroundings) (p : Phase) (l : Leg) :
    Item → Phase → Leg → List Effect → Prop
  /-- Nothing comes of what is out of place. -/
  | ignored (item : Item) (h : OutOfPlace p l item) : Turned site w p l item p l []
  /-- The first message opens a session, or fails to. -/
  | opened (sender : Recipient) (outbound : Bool) (mode : ConnectionMode) (sdp : String) (l' : Leg)
      (es : List Effect) (hp : p = .uninitialized)
      (h : Opened w (l.ownedBy sender outbound mode sdp) l' es) :
      Turned site w p l (.message sender (.createSession outbound mode sdp)) .opening l' es
  /-- The session is released, whatever was going on, and its call is told. -/
  | closed (sender : Recipient) (es : List Effect)
      (hp : p = .opening ∨ p = .active ∨ p = .updating) (h : Released l es) :
      Turned site w p l (.message sender .closeSession) .inactive l.released
        (es ++ w.tellingCall l .sessionClosed)
  /-- The negotiation is started anew with the description that the message brings. -/
  | updated (sender : Recipient) (sdp : String) (k : ConnectionHandle) (l' : Leg)
      (es : List Effect) (hp : p = .active) (hk : l.connection = some k)
      (h : Negotiates w { l with remoteSdp := some sdp } (.processAnswer k sdp) l' es) :
      Turned site w p l (.message sender (.updateSession sdp)) .updating l' es
  /-- The negotiation has ended well. -/
  | agreed (g : Nat) (o : NegotiationOutcome) (localSdp : Option String)
      (hp : p = .opening ∨ p = .updating) (awaited : l.Awaits .negotiation g)
      (ho : o.verdict = .ok localSdp) :
      Turned site w p l (.completion ⟨g, .negotiation o⟩) .active
        ((l.disarmed .negotiation).described localSdp)
        (w.tellingCall l (.sessionReady
          (((l.disarmed .negotiation).described localSdp).info site.server.address)))
  /-- The negotiation has ended badly, and the session with it. -/
  | broke (g : Nat) (o : NegotiationOutcome) (fault : Fault)
      (hp : p = .opening ∨ p = .updating) (awaited : l.Awaits .negotiation g)
      (ho : o.verdict = .error fault) :
      Turned site w p l (.completion ⟨g, .negotiation o⟩) .failed (l.disarmed .negotiation)
        (w.tellingCall l (.failure fault))
  /-- Of a group there is one at most, so that none may be held yet. -/
  | groupCreated (sender : Recipient) (l' : Leg) (es : List Effect) (hg : l.group = none)
      (h : GroupCreated w sender l l' es) : Turned site w p l (.message sender .createGroup) p l' es
  /-- A group may be destroyed in any phase. -/
  | groupDestroyed (sender : Recipient) (l' : Leg) (es : List Effect)
      (h : GroupDestroyed w sender l l' es) :
      Turned site w p l (.message sender .destroyGroup) p l' es
  /-- So it may be stopped, and nothing is in flight afterwards. -/
  | groupStopped (sender : Recipient) (es : List Effect) (h : GroupStopped w l es) :
      Turned site w p l (.message sender .stopGroup) p { l with active := none } es
  /-- The four messages that ask for an activity. -/
  | attempted (sender : Recipient) (m : Message) (k : Ask) (r : Option Nat) (l' : Leg)
      (es : List Effect) (hp : p = .active) (hm : m.ask? site.settings = some k)
      (h : Attempted w k.activity k.operation sender (k.noted l) (k.begun l) r l' es) :
      Turned site w p l (.message sender m) p (k.kept w.clock l' r) es
  /-- A stop of whatever is in flight. -/
  | stopped (sender : Recipient) (artifact : Bool) (l' : Leg) (es : List Effect)
      (ha : l.active ≠ none) (h : Stopped site.reader site.settings.apiVersion w artifact l l' es) :
      Turned site w p l (.message sender (.stop artifact)) p l' es
  /-- A stop of a recording alone, which always asks for an artifact. -/
  | stoppedRecording (sender : Recipient) (accountId store : Option String) (g : Nat) (l' : Leg)
      (es : List Effect) (hp : p = .active) (ha : l.active = some ⟨.recording, g⟩)
      (h : Stopped site.reader site.settings.apiVersion w true (l.remember accountId store) l' es) :
      Turned site w p l (.message sender (.stopRecording accountId store)) p l' es
  /-- The two messages that join a mixer. -/
  | joined (sender : Recipient) (m : Message) (mixer : MixerHandle) (l' : Leg) (es : List Effect)
      (hp : p = .active) (hm : m = .joinBridge mixer ∨ m = .joinConference mixer)
      (h : Joined w sender mixer l l' es) : Turned site w p l (.message sender m) p l' es
  /-- The mixer is left, if the leg confers. -/
  | left (sender : Recipient) (l' : Leg) (es : List Effect) (hp : p = .active)
      (hc : l.conferencing = true) (h : Left w l l' es) :
      Turned site w p l (.message sender .leave) p l' es
  /-- Muting and unmuting change the direction only, and nothing that is remembered. -/
  | rejoined (sender : Recipient) (m : Message) (direction : JoinDirection) (k : ConnectionHandle)
      (mixer : MixerHandle) (answer : Except Fault Unit) (hp : p = .active)
      (hd : m = .mute ∧ direction = .recv ∨ m = .unmute ∧ direction = .duplex)
      (hk : l.connection = some k) (hm : l.mixer = some mixer) :
      Turned site w p l (.message sender m) p l
        [.performed (.join k direction (.mixer mixer)) answer]
  /-- An observer is entered into the register, and told so. -/
  | observed (sender observer : Recipient) :
      Turned site w p l (.message sender (.observe observer)) p
        { l with observers := l.observers.insert observer } [w.telling observer .observing]
  /-- One observer is taken out of the register, or all are. -/
  | unobserved (sender : Recipient) (observer : Option Recipient) :
      Turned site w p l (.message sender (.stopObserving observer)) p
        { l with observers := l.observers.without observer } []
  /-- An activity is over, and its result is reported to whoever asked for it. -/
  | finished (e : Completion) (a : Activity) (result : Except Fault String)
      (hcat : e.category = .group a) (awaited : l.Awaits (.group a) e.generation)
      (hr : e.outcome.result? l.endKey = some result) :
      Turned site w p l (.completion e) p (l.finished a e.generation) (w.reporting l a result)

/-! ## What messages lead to

Three inversions that are used where only one kind of message matters. -/

section

variable {σ : Type} {site : Site σ} {w : Surroundings} {p' : Phase} {l l' : Leg}
  {sender : Recipient} {es : List Effect}

/-- The first message opens the session. -/
theorem Turned.of_create {outbound : Bool} {mode : ConnectionMode} {sdp : String}
    (h : Turned site w .uninitialized l (.message sender (.createSession outbound mode sdp)) p' l' es) :
    p' = .opening ∧ Opened w (l.ownedBy sender outbound mode sdp) l' es := by
  cases h with
  | ignored item hout => exact absurd rfl hout
  | opened sender outbound mode sdp l' es hp ho => exact ⟨rfl, ho⟩
  | attempted sender m k r l' es hp hm ht => cases hp
  | joined sender m mixer l' es hp hm hj => cases hp
  | rejoined sender m direction k mixer answer hp hd hk hm => cases hp

/-- An update of an active session hands the new description over on the connection that is held. -/
theorem Turned.of_update {sdp : String}
    (h : Turned site w .active l (.message sender (.updateSession sdp)) p' l' es) :
    p' = .updating ∧ ∃ k, l.connection = some k ∧
      Negotiates w { l with remoteSdp := some sdp } (.processAnswer k sdp) l' es := by
  cases h with
  | ignored item hout => exact absurd rfl hout
  | updated sender sdp k l' es hp hk hn => exact ⟨rfl, k, hk, hn⟩
  | attempted sender m k r l' es hp hm ht => cases hm
  | joined sender m mixer l' es hp hm hj => rcases hm with hm | hm <;> cases hm
  | rejoined sender m direction k mixer answer hp hd hk hm =>
    rcases hd with ⟨hd, -⟩ | ⟨hd, -⟩ <;> cases hd

/-- A message that asks for an activity in an active session leads to an attempt. -/
theorem Turned.of_ask {m : Message} {k : Ask}
    (h : Turned site w .active l (.message sender m) p' l' es) (hk : m.ask? site.settings = some k) :
    p' = .active ∧ ∃ r l₁,
      Attempted w k.activity k.operation sender (k.noted l) (k.begun l) r l₁ es ∧
        l' = k.kept w.clock l₁ r := by
  cases h with
  | ignored item hout =>
    -- all four are out of place only outside an active session
    cases m with
    | play order => exact absurd rfl hout
    | collect order => exact absurd rfl hout
    | record order => exact absurd rfl hout
    | startRecording order => exact absurd rfl hout
    | _ => cases hk
  | attempted sender m k' r l' es hp hm ht =>
    cases Option.some.inj (hm.symm.trans hk)
    exact ⟨rfl, r, l', ht, rfl⟩
  | joined sender m mixer l' es hp hm hj => rcases hm with rfl | rfl <;> cases hk
  | rejoined sender m direction k mixer answer hp hd hk' hm =>
    rcases hd with ⟨rfl, -⟩ | ⟨rfl, -⟩ <;> cases hk
  | _ => cases hk

end

end CallMedia
