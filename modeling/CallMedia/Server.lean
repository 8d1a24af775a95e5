/-
  The media server a controller talks to, and the names of what it allocates.

  A handle is an opaque name that the server chose; the four kinds are kept apart so that a group can
  never stand where a session is meant.
-/
import CallMedia.Address

namespace CallMedia

/-- Static description of a media server. -/
structure Server where
  name : String
  address : Address
  port : UInt16
  timeoutSecs : UInt64
deriving DecidableEq, Repr

/-- A session allocated by the media server. -/
structure SessionHandle where
  name : String
deriving DecidableEq, Repr

/-- The network side of a session. -/
structure ConnectionHandle where
  name : String
deriving DecidableEq, Repr

/-- A bundle of player, recorder and signal detector. -/
structure GroupHandle where
  name : String
deriving DecidableEq, Repr

/-- A mixer that connections are joined to. -/
structure MixerHandle where
  name : String
deriving DecidableEq, Repr

/-- The direction of media on the network connection. -/
inductive ConnectionMode where
  | inactive
  | sendOnly
  | recvOnly
  | sendRecv
deriving DecidableEq, Repr, Inhabited

namespace ConnectionMode

/-- The word for a mode. -/
def name : ConnectionMode → String
  | inactive => "inactive"
  | sendOnly => "sendonly"
  | recvOnly => "recvonly"
  | sendRecv => "sendrecv"

/-- The mode that a word stands for; case matters. -/
def ofName? (name : String) : Option ConnectionMode :=
  [inactive, sendOnly, recvOnly, sendRecv].find? (fun m => m.name == name)

/-- The mode of a connection that nobody asked for. -/
def standard : ConnectionMode := inactive

/-- A mode is read back from its name. -/
theorem ofName?_name (m : ConnectionMode) : ofName? m.name = some m := by
  cases m <;> decide

end ConnectionMode

/-- The direction of a join, seen from the connection. -/
inductive JoinDirection where
  | duplex
  /-- Hear the target without being heard: muted. -/
  | recv
  | send
deriving DecidableEq, Repr

/-- What a connection can be joined to. -/
inductive JoinTarget where
  | group (group : GroupHandle)
  | mixer (mixer : MixerHandle)
deriving DecidableEq, Repr

end CallMedia
