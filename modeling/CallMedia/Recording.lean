/-
  Recordings of whole calls.

  When a call recording stops, its length is measured from the artifact the media server wrote.  A media
  server may finish writing after it has reported the end, so an artifact that cannot be measured is no
  failure: the whole seconds between the recording's start and its end stand in.  `finalDuration` is
  therefore total, and exact until `Duration.seconds` rounds it.

  How a URI is taken apart, and which headers are accepted, is not decided here: a `Recording.Reader`
  does both.  The one of this library, `Reader.standard`, is used where no other is given.

  The metadata that a store receives names the recording, the account, the call, the length, the API
  version and the resource path built from them.
-/
import CallMedia.Instant
import CallMedia.Journal
import CallMedia.Seconds
import CallMedia.Uri
import CallMedia.Wave

namespace CallMedia

/-! ## Length -/

/-- The length of a recording in seconds, as an exact quotient. -/
inductive Duration where
  /-- Measured: `frames` samples in each channel at `rate` a second. -/
  | measured (frames rate : Nat)
  /-- Elapsed by the clock. -/
  | elapsed (seconds : Nat)
deriving DecidableEq, Repr

/-- The length as a binary64 number. -/
def Duration.seconds : Duration → Seconds
  | measured frames rate => .ofRatio frames rate
  | elapsed n => .ofNat n

/-- What artifacts are found and read with. -/
structure Recording.Reader where
  /-- The scheme of a URI. -/
  scheme : Uri → String
  /-- The path on this host that a `file` URI names, if it names one. -/
  path? : Uri → Option Path
  /-- The header at the beginning of some bytes, if there is one and it is accepted. -/
  header? : List UInt8 → Option Wave

/-- The reader that knows the URIs and the headers of this library. -/
def Recording.Reader.standard : Reader := ⟨Uri.scheme, Uri.filePath?, Wave.ofBytes?⟩

/-- Why an artifact cannot be measured. -/
inductive Unmeasurable where
  /-- Its URI names no file. -/
  | notAFile (uri : Uri)
  /-- Its URI names no path of this host. -/
  | noPath (uri : Uri)
  /-- There is no such file, or it has no usable header. -/
  | unreadable (path : Path)
  /-- It holds no samples, or plays them at no rate. -/
  | empty (path : Path)
deriving DecidableEq, Repr

/-- The fault that an unmeasurable artifact is reported as. -/
def Unmeasurable.fault : Unmeasurable → Fault
  | notAFile uri => .recording s!"cannot measure non-file artifact {uri.text}"
  | noPath uri => .recording s!"invalid file URI {uri.text}"
  | unreadable path => .recording (withDetail (Text.ofUtf8Lossy path))
  | empty path => .recording s!"{Text.ofUtf8Lossy path} is empty"

namespace Recording

/-- Measure the artifact at a URI. -/
def measure (files : Files) (uri : Uri) (reader : Reader := .standard) :
    Except Unmeasurable Duration :=
  if reader.scheme uri = "file" then
    match reader.path? uri with
    | none => .error (.noPath uri)
    | some path =>
      match (files.read? path).bind reader.header? with
      | none => .error (.unreadable path)
      | some wave =>
        if wave.frames = 0 ∨ wave.sampleRate = 0 then .error (.empty path)
        else .ok (.measured wave.frames wave.sampleRate)
  else .error (.notAFile uri)

/-- Whole seconds from start to end, none if the end comes first. -/
def elapsed (started ended : Instant) : Duration :=
  .elapsed (started.wholeSecondsBetween ended).toNat

/-- The length to report for a stopped recording. -/
def finalDuration (files : Files) (uri : Uri) (started ended : Instant)
    (reader : Reader := .standard) : Duration :=
  match measure files uri reader with
  | .ok d => d
  | .error _ => elapsed started ended

/-- The journal lines that say where a reported length comes from. -/
def durationLines (files : Files) (uri : Uri) (started ended : Instant)
    (reader : Reader := .standard) : List Line :=
  match measure files uri reader with
  | .ok d => [⟨.info, s!"Recording artifact {uri.text} measured at {d.seconds.fixed 3}s", []⟩]
  | .error e =>
    [⟨.debug, s!"Could not measure recording duration: {e.fault.message}", []⟩,
     ⟨.info, s!"Recording artifact {uri.text} not materialized, using elapsed time " ++
       s!"{(started.wholeSecondsBetween ended).toNat}s", []⟩]

/-! ## Metadata -/

/-- The resource path of a recording. -/
def resourcePath (apiVersion accountId recordingId : String) : String :=
  s!"/{apiVersion}/Accounts/{accountId}/Recordings/{recordingId}"

/-- What is known about a finished call recording. -/
structure Metadata where
  recordingId : String
  accountId : String
  callId : String
  duration : Seconds
  apiVersion : String
  /-- The resource path. -/
  uri : String
  dateCreated : Instant
deriving DecidableEq, Repr

/-- Metadata in the making: what has been given so far. -/
structure Draft where
  recordingId : Option String := none
  accountId : Option String := none
  callId : Option String := none
  duration : Option Seconds := none
  apiVersion : Option String := none
  dateCreated : Option Instant := none
deriving DecidableEq, Repr

/-- Complete a draft.  The ids and the version must have been given, and the first that is missing is
    reported; a missing duration is zero and a missing date is `now`. -/
def Draft.complete (d : Draft) (now : Instant) : Except Fault Metadata :=
  match d.recordingId, d.accountId, d.callId, d.apiVersion with
  | none, _, _, _ => .error (.recording "recording id not set")
  | _, none, _, _ => .error (.recording "account id not set")
  | _, _, none, _ => .error (.recording "call id not set")
  | _, _, _, none => .error (.recording "api version not set")
  | some recordingId, some accountId, some callId, some apiVersion =>
    .ok { recordingId, accountId, callId, apiVersion
          duration := d.duration.getD .zero
          uri := resourcePath apiVersion accountId recordingId
          dateCreated := d.dateCreated.getD now }

end Recording

/-- A recording of the call in progress. -/
structure CallRecording where
  /-- The generation of the recording operation that writes it. -/
  generation : Nat
  recordingId : String
  callId : String
  uri : Uri
  startedAt : Instant
deriving DecidableEq, Repr

/-- The metadata of a call recording that ends at `ended`. -/
def CallRecording.finalize (r : CallRecording) (files : Files) (accountId apiVersion : String)
    (ended : Instant) (reader : Recording.Reader := .standard) : Except Fault Recording.Metadata :=
  Recording.Draft.complete
    { recordingId := some r.recordingId
      accountId := some accountId
      callId := some r.callId
      duration := some (Recording.finalDuration files r.uri r.startedAt ended reader).seconds
      apiVersion := some apiVersion
      dateCreated := some ended }
    ended

/-- The metadata of a finished call recording is always complete. -/
theorem CallRecording.finalize_eq (r : CallRecording) (files : Files) (accountId apiVersion : String)
    (ended : Instant) (reader : Recording.Reader) :
    r.finalize files accountId apiVersion ended reader =
      .ok { recordingId := r.recordingId, accountId, callId := r.callId
            duration := (Recording.finalDuration files r.uri r.startedAt ended reader).seconds
            apiVersion, uri := Recording.resourcePath apiVersion accountId r.recordingId
            dateCreated := ended } := rfl

end CallMedia
