/-
  What a controller asks of the media server.

  Three kinds of request.  A `Creation` is answered at once with the name of what was allocated; a
  `Command` is answered at once; an `Operation` is only started, and its outcome comes later through
  the sink handed over with it.

  The requests that carry parameters are built from the orders of the call-control layer
  (`PlayOrder.request`, …).  Only keys that were given and are not empty become signal patterns, and a
  recording that ends on a key listens for it while its prompt plays.  All times are in milliseconds.
-/
import CallMedia.Message

namespace CallMedia

/-! ## Parameters -/

/-- How often a play is repeated after the first time. -/
inductive Repeat where
  | forever
  | times (n : Nat)
deriving DecidableEq, Repr

/-- The repeats that make up the given number of iterations; zero or fewer means without end. -/
def Repeat.ofIterations (iterations : Int) : Repeat :=
  if iterations ≤ 0 then forever else times (iterations - 1).toNat

/-- A count of repetitions stands for one play more than it says. -/
theorem Repeat.ofIterations_eq_times_iff (i : Int) (n : Nat) :
    Repeat.ofIterations i = times n ↔ i = n + 1 := by
  unfold ofIterations
  split
  · constructor
    · intro h; cases h
    · intro h; omega
  · simp only [times.injEq]; omega

/-- What a signal pattern is for. -/
inductive PatternRole where
  | endKey
  | pattern
deriving DecidableEq, Repr

/-- A pattern for the signal detector. -/
structure SignalPattern where
  role : PatternRole
  value : String
deriving DecidableEq, Repr

/-- A play as the media server is asked for it. -/
structure PlayRequest where
  uris : List Uri
  count : Repeat
deriving DecidableEq, Repr

/-- A collection of digits as the media server is asked for it. -/
structure CollectRequest where
  patterns : List SignalPattern
  prompts : List Uri
  digitCount : Nat
  initialTimeoutMs : Nat
  interSignalTimeoutMs : Nat
  buffering : Bool
deriving DecidableEq, Repr

/-- A recording as the media server is asked for it. -/
structure RecordRequest where
  destination : Uri
  prompts : List Uri
  maxDurationMs : Nat
  /-- The key that ends the recording. -/
  endPattern : Option String
  interSignalTimeoutMs : Option Nat
  /-- Whether the end key also stops the prompt. -/
  stopPlayOnSignal : Bool
  initialTimeoutMs : Nat
  finalTimeoutMs : Nat
  append : Bool
  startBeep : Bool
deriving DecidableEq, Repr

/-- A text that was given and is not empty. -/
def given (text : Option String) : Option String := text.filter (fun t => t ≠ "")

/-- The request for a play. -/
def PlayOrder.request (o : PlayOrder) : PlayRequest := ⟨o.uris, .ofIterations o.iterations⟩

/-- The request for a collection of digits. -/
def CollectOrder.request (o : CollectOrder) : CollectRequest :=
  { patterns :=
      (given o.endInputKey).toList.map (SignalPattern.mk .endKey) ++
      (given o.pattern).toList.map (SignalPattern.mk .pattern)
    prompts := o.prompts
    digitCount := o.numberOfDigits
    initialTimeoutMs := o.timeoutSecs * 1000
    interSignalTimeoutMs := o.timeoutSecs * 1000
    buffering := false }

/-- The request for a recording; a recorder plays at most one prompt. -/
def RecordOrder.request (o : RecordOrder) (interSignalTimeoutMs : Nat) : RecordRequest :=
  let endKey := given o.endInputKey
  { destination := o.destination
    prompts := o.prompts.take 1
    maxDurationMs := o.lengthSecs * 1000
    endPattern := endKey
    interSignalTimeoutMs := endKey.map (fun _ => interSignalTimeoutMs)
    stopPlayOnSignal := endKey.isSome
    initialTimeoutMs := o.timeoutSecs * 1000
    finalTimeoutMs := o.timeoutSecs * 1000
    append := false
    startBeep := false }

/-! ## Requests -/

/-- Allocate something on the media server. -/
inductive Creation where
  | session
  | connection (session : SessionHandle) (mode : ConnectionMode)
  /-- A group with player, recorder and signal detector. -/
  | group (session : SessionHandle)
deriving DecidableEq, Repr

/-- Do something that is over when it is answered. -/
inductive Command where
  | join (connection : ConnectionHandle) (direction : JoinDirection) (target : JoinTarget)
  | unjoin (connection : ConnectionHandle) (target : JoinTarget)
  /-- Discard the digits that the detector has buffered. -/
  | flushDigits (group : GroupHandle)
  /-- Stop the player, the detector or the recorder. -/
  | stop (activity : Activity) (group : GroupHandle)
  | releaseGroup (group : GroupHandle)
  | releaseSession (session : SessionHandle)
deriving DecidableEq, Repr

/-- Start something that completes later. -/
inductive Operation where
  | generateOffer (connection : ConnectionHandle)
  | processOffer (connection : ConnectionHandle) (sdp : String)
  | processAnswer (connection : ConnectionHandle) (sdp : String)
  | play (group : GroupHandle) (request : PlayRequest)
  | collect (group : GroupHandle) (request : CollectRequest)
  | record (group : GroupHandle) (request : RecordRequest)
deriving DecidableEq, Repr

/-- The name of an allocation request. -/
def Creation.name : Creation → String
  | session => "create_session"
  | connection .. => "create_connection"
  | group _ => "create_media_group"

/-- The name of a command. -/
def Command.name : Command → String
  | join .. => "join"
  | unjoin .. => "unjoin"
  | flushDigits _ => "flush_digits"
  | stop .playback _ => "stop_player"
  | stop .digitCollection _ => "stop_detector"
  | stop .recording _ => "stop_recorder"
  | releaseGroup _ => "release_group"
  | releaseSession _ => "release_session"

/-- The name of an operation. -/
def Operation.name : Operation → String
  | generateOffer _ => "generate_offer"
  | processOffer .. => "process_offer"
  | processAnswer .. => "process_answer"
  | play .. => "play"
  | collect .. => "collect"
  | record .. => "record"

/-- The category of an operation. -/
def Operation.category : Operation → Category
  | generateOffer _ | processOffer .. | processAnswer .. => .negotiation
  | play .. => .group .playback
  | collect .. => .group .digitCollection
  | record .. => .group .recording

end CallMedia
