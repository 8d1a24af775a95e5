/-
  What a controller is told, and what it tells.

  `Message` is everything the call-control layer can ask of a controller.  `Notice` is everything a
  controller reports: to the owning call, to the sender of a message, or to the observers.
-/
import CallMedia.Category
import CallMedia.Fault
import CallMedia.Recipient
import CallMedia.Server
import CallMedia.Uri

namespace CallMedia

/-! ## Messages -/

/-- A request to play media to the call. -/
structure PlayOrder where
  uris : List Uri
  /-- How often in all; zero or less for without end. -/
  iterations : Int
deriving DecidableEq, Repr

/-- A request to collect digits from the call. -/
structure CollectOrder where
  pattern : Option String := none
  endInputKey : Option String := none
  prompts : List Uri := []
  numberOfDigits : Nat := 0
  timeoutSecs : Nat := 0
deriving DecidableEq, Repr

/-- A request to record the call to a destination. -/
structure RecordOrder where
  destination : Uri
  prompts : List Uri := []
  endInputKey : Option String := none
  lengthSecs : Nat
  timeoutSecs : Nat
deriving DecidableEq, Repr

/-- A request to record the whole call for an account. -/
structure CallRecordingOrder where
  accountId : String
  callId : String
  recordingId : String
  uri : Uri
  /-- The store that will receive the metadata. -/
  store : Option String := none
deriving DecidableEq, Repr

/-- What the call-control layer asks of a controller. -/
inductive Message where
  | createSession (outbound : Bool) (mode : ConnectionMode) (sdp : String)
  | closeSession
  | updateSession (sdp : String)
  | createGroup
  | destroyGroup
  | stopGroup
  | mute
  | unmute
  | startRecording (order : CallRecordingOrder)
  | stopRecording (accountId store : Option String)
  | play (order : PlayOrder)
  | collect (order : CollectOrder)
  | record (order : RecordOrder)
  /-- Stop what the group does; `artifact` asks for the metadata of a call recording. -/
  | stop (artifact : Bool)
  | joinBridge (mixer : MixerHandle)
  | joinConference (mixer : MixerHandle)
  | leave
  | observe (observer : Recipient)
  /-- Remove one observer, or all of them. -/
  | stopObserving (observer : Option Recipient)
deriving DecidableEq, Repr

/-- The name of a message. -/
def Message.name : Message → String
  | createSession .. => "CreateMediaSession"
  | closeSession => "CloseMediaSession"
  | updateSession _ => "UpdateMediaSession"
  | createGroup => "CreateMediaGroup"
  | destroyGroup => "DestroyMediaGroup"
  | stopGroup => "StopMediaGroup"
  | mute => "Mute"
  | unmute => "Unmute"
  | startRecording _ => "StartRecording"
  | stopRecording .. => "StopRecording"
  | play _ => "Play"
  | collect _ => "Collect"
  | record _ => "Record"
  | stop _ => "Stop"
  | joinBridge _ => "JoinBridge"
  | joinConference _ => "JoinConference"
  | leave => "Leave"
  | observe _ => "Observe"
  | stopObserving _ => "StopObserving"

/-! ## Notices -/

/-- The description of a negotiated session. -/
structure SessionInfo where
  useMediaServer : Bool
  serverAddress : Address
  localSdp : String
  remoteSdp : String
deriving DecidableEq, Repr

/-- The state of a media group as observers see it. -/
inductive GroupState where
  | active
  | inactive
deriving DecidableEq, Repr

/-- What a controller reports. -/
inductive Notice where
  | sessionReady (info : SessionInfo)
  | sessionClosed
  | groupCreated
  | groupDestroyed
  | groupStateChanged (state : GroupState)
  /-- How one operation of the group ended. -/
  | operationResult (activity : Activity) (result : Except Fault String)
  | joinComplete
  /-- Confirms a registration. -/
  | observing
  | failure (fault : Fault)
deriving Repr

/-- What a finished play reports. -/
def playCompleted : String := "play_completed"

end CallMedia
