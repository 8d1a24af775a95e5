/-
  Settings of a controller.

  Every setting has a default, so an empty document is a complete one.  `Settings.check` says whether
  settings can be used; of several faults it reports the first in the order of the fields: the inbox,
  the API version, the longest call recording, the log level.
-/
import CallMedia.Journal
import CallMedia.Text.Blank

namespace CallMedia

/-- How a recording of the whole call is made. -/
structure RecordingDefaults where
  endInputKeys : String := "1234567890*#"
  maxLengthSecs : Nat := 3600
  timeoutSecs : Nat := 5
deriving DecidableEq, Repr, Inhabited

/-- How the journal is written. -/
structure LoggingSettings where
  level : String := "info"
  /-- Whether lines name the file and line they come from. -/
  fileInfo : Bool := false
  /-- Whether entering and leaving a span is written too. -/
  logSpans : Bool := false
  /-- The application named in the first line. -/
  appName : String := "mscontrol"
deriving DecidableEq, Repr, Inhabited

namespace LoggingSettings

/-- Settings for a level and an application, all else as by default. -/
def ofLevel (level : Level) (appName : String) : LoggingSettings :=
  { level := level.name, appName := appName }

/-- The level in force, or the reason why there is none. -/
def threshold (s : LoggingSettings) : Except Fault Level := Level.ofText s.level

end LoggingSettings

/-- Settings of a controller. -/
structure Settings where
  /-- How many messages and queries may wait in the inbox. -/
  inboxCapacity : Nat := 1000
  /-- The version that resource paths of recordings start with. -/
  apiVersion : String := "2012-04-24"
  /-- The longest pause between signals of a recording that ends on a key, in milliseconds. -/
  recordInterSignalTimeoutMs : Nat := 10000
  callRecording : RecordingDefaults := {}
  logging : LoggingSettings := {}
deriving DecidableEq, Repr, Inhabited

namespace Settings

/-- The first reason why settings cannot be used, if there is one. -/
def check (s : Settings) : Except Fault Unit :=
  if s.inboxCapacity = 0 then
    .error (.configuration "inbox_capacity must be positive")
  else if Text.allBlank s.apiVersion then
    .error (.configuration "api_version must not be empty")
  else if s.callRecording.maxLengthSecs = 0 then
    .error (.configuration "call_recording.max_length_secs must be positive")
  else s.logging.threshold.map (fun _ => ())

/-- What passes the check is usable in each respect. -/
theorem check_eq_ok_iff (s : Settings) :
    s.check = .ok () ↔
      0 < s.inboxCapacity ∧ Text.allBlank s.apiVersion = false ∧
      0 < s.callRecording.maxLengthSecs ∧ ∃ l, s.logging.threshold = .ok l := by
  unfold check
  by_cases h1 : s.inboxCapacity = 0
  · simp [h1]
  by_cases h2 : Text.allBlank s.apiVersion = true
  · simp [h1, h2]
  by_cases h3 : s.callRecording.maxLengthSecs = 0
  · simp [h1, h2, h3]
  have hcapacity : 0 < s.inboxCapacity := Nat.pos_of_ne_zero h1
  have hlength : 0 < s.callRecording.maxLengthSecs := Nat.pos_of_ne_zero h3
  cases h : s.logging.threshold with
  | error e => simp [h1, h2, h3, Except.map]
  | ok l => simp [h1, h2, h3, Except.map, hcapacity, hlength]

end Settings

end CallMedia
