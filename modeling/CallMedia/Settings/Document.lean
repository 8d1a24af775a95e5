/-
  Settings as a YAML document.

  Every key is optional, and keys that mean nothing here are passed over with whatever they hold; a key
  that means something must not be given twice.  A section that is left empty has its defaults, and so
  has a document without content.  Numbers and truth values must be plain; numbers are decimal without
  leading zeros, or hexadecimal, octal or binary behind `0x`, `0o`, `0b`, with an optional plus sign.
  Any scalar at all is taken as a text, letter by letter.

  A key or a value may be an alias; a section may so hold the very section that it stands in, as only
  what is asked for is looked up.

  Settings that were read are checked before they are given out.  That does not depend on how they are
  read: any `Reader` will do, and the one above (`read?`) is used where no other is given.
-/
import CallMedia.Files
import CallMedia.Settings
import CallMedia.Yaml.Node

namespace CallMedia.Settings

open Yaml

/-! ## Values -/

/-- The tag of whole numbers. -/
def integerTag : String := "tag:yaml.org,2002:int"

/-- The tag of truth values. -/
def truthTag : String := "tag:yaml.org,2002:bool"

/-- The text of a scalar that may stand for a value other than a text: a plain one, or a literal block
    with the tag of the value. -/
def bareText? (tag : String) : Node → Option String
  | .scalar .plain _ text => some text
  | .scalar .literal (some t) text => if t = tag then some text else none
  | _ => none

/-- The number that digits in a base make. -/
def digits? (base : Nat) (cs : List Char) : Option Nat :=
  if cs = [] then none
  else
    cs.foldlM (fun n c => (hexValue? c).bind fun d => if d < base then some (n * base + d) else none) 0

/-- A whole number as it may be written. -/
def numeral? (text : String) : Option Nat :=
  let cs := match text.toList with
    | '+' :: rest => rest
    | cs => cs
  match cs with
  | '0' :: 'x' :: rest => digits? 16 rest
  | '0' :: 'o' :: rest => digits? 8 rest
  | '0' :: 'b' :: rest => digits? 2 rest
  | '0' :: _ :: _ => none
  | cs => digits? 10 cs

/-- A whole number up to a greatest one. -/
def natural? (most : Nat) (n : Node) : Option Nat :=
  ((bareText? integerTag n).bind numeral?).filter (fun k => k ≤ most)

/-- A truth value. -/
def flag? (n : Node) : Option Bool :=
  (bareText? truthTag n).bind fun text =>
    if text = "true" ∨ text = "True" ∨ text = "TRUE" then some true
    else if text = "false" ∨ text = "False" ∨ text = "FALSE" then some false
    else none

/-- A text. -/
def text? : Node → Option String
  | .scalar _ _ text => some text
  | _ => none

/-! ## Sections -/

/-- The entries of a section by key; an empty scalar is an empty section. -/
def entries? (doc : Yaml.Document) : Node → Option (List (String × Node))
  | .mapping pairs => pairs.mapM fun (k, v) => do
    some (← text? (← doc.resolve? k), ← doc.resolve? v)
  | .scalar .plain _ "" => some []
  | _ => none

/-- The value of a key, or its default where the key is not given; nothing where it is given twice or
    its value cannot be read. -/
def entry? {α : Type} (read : Node → Option α) (standard : α) (key : String)
    (entries : List (String × Node)) : Option α :=
  match entries.filter (fun e => e.1 = key) with
  | [] => some standard
  | [(_, value)] => read value
  | _ => none

/-- The greatest number of 32 bits. -/
def most32 : Nat := UInt32.size - 1

/-- The greatest number of 64 bits. -/
def most64 : Nat := UInt64.size - 1

/-- The section on call recordings. -/
def recordingDefaults? (doc : Yaml.Document) (n : Node) : Option RecordingDefaults := do
  let es ← entries? doc n
  let d : RecordingDefaults := {}
  let endInputKeys ← entry? text? d.endInputKeys "end_input_keys" es
  let maxLengthSecs ← entry? (natural? most32) d.maxLengthSecs "max_length_secs" es
  let timeoutSecs ← entry? (natural? most32) d.timeoutSecs "timeout_secs" es
  some { endInputKeys, maxLengthSecs, timeoutSecs }

/-- The section on the journal. -/
def logging? (doc : Yaml.Document) (n : Node) : Option LoggingSettings := do
  let es ← entries? doc n
  let d : LoggingSettings := {}
  let level ← entry? text? d.level "level" es
  let fileInfo ← entry? flag? d.fileInfo "file_info" es
  let logSpans ← entry? flag? d.logSpans "log_spans" es
  let appName ← entry? text? d.appName "app_name" es
  some { level, fileInfo, logSpans, appName }

/-- The settings of a document. -/
def ofDocument? (doc : Yaml.Document) : Option Settings := do
  let es ← entries? doc doc.root
  let d : Settings := {}
  let inboxCapacity ← entry? (natural? most64) d.inboxCapacity "inbox_capacity" es
  let apiVersion ← entry? text? d.apiVersion "api_version" es
  let recordInterSignalTimeoutMs ←
    entry? (natural? most64) d.recordInterSignalTimeoutMs "record_inter_signal_timeout_ms" es
  let callRecording ← entry? (recordingDefaults? doc) d.callRecording "call_recording" es
  let logging ← entry? (logging? doc) d.logging "logging" es
  some { inboxCapacity, apiVersion, recordInterSignalTimeoutMs, callRecording, logging }

/-! ## Documents -/

/-- A way to read settings from a text. -/
abbrev Reader : Type := String → Option Settings

/-- The settings in a text, not checked yet. -/
def read? : Reader := fun text =>
  match Yaml.Document.ofText? text with
  | none => none
  | some none => some {}
  | some (some d) => ofDocument? d

/-- The settings in a text, as `read` reads it. -/
def ofText (text : String) (read : Reader := read?) : Except Fault Settings :=
  match read text with
  | none => .error (.configuration (withDetail "invalid YAML"))
  | some s => s.check.map (fun _ => s)

/-- The settings in a file. -/
def ofFile (files : Files) (path : Path) (read : Reader := read?) : Except Fault Settings :=
  match (files.read? path).bind Text.ofUtf8? with
  | none => .error (.configuration (withDetail s!"cannot read {Text.ofUtf8Lossy path}"))
  | some text => ofText text read

end CallMedia.Settings
