/-
  Recording the whole call.

  A call recording is a recording that somebody asked for by account.  It is remembered by the
  generation of the recorder that writes it, and settled by whatever ends that generation: a stop that
  asks for an artifact hands its metadata to the store, a stop that does not discards it, and an end
  reported by the media server merely forgets it.

  The first account and the first store that are named stay in force for the leg.
-/
import CallMedia.GroupWork

namespace CallMedia.Desk

variable {σ : Type} (site : Site σ) (d : Desk σ)

/-- The recording order behind a call recording. -/
def recordingOrder (defaults : RecordingDefaults) (order : CallRecordingOrder) : RecordOrder :=
  { destination := order.uri
    endInputKey := some defaults.endInputKeys
    lengthSecs := defaults.maxLengthSecs
    timeoutSecs := defaults.timeoutSecs }

/-- Start to record the whole call. -/
def startRecording (sender : Recipient) (order : CallRecordingOrder) : Desk σ :=
  let d := { d with leg := d.leg.remember (some order.accountId) order.store }
  let d := d.log .info s!"Start recording call to {order.uri.text}" []
  match d.record site sender (recordingOrder site.settings.callRecording order) with
  | (none, d) => d
  | (some generation, d) =>
    let recording : CallRecording :=
      { generation, recordingId := order.recordingId, callId := order.callId, uri := order.uri
        startedAt := d.clock }
    { d with leg := { d.leg with recording := some recording } }

/-- Take out the call recording of a generation. -/
def takeRecording (generation : Nat) : Option CallRecording × Desk σ :=
  let (r, leg) := d.leg.takeRecording generation
  (r, { d with leg })

/-- Hand a finished call recording to the store. -/
def fileRecording (r : CallRecording) (accountId store : String) : Desk σ :=
  let d := (Recording.durationLines d.files r.uri r.startedAt d.clock site.reader).foldl
    (fun d line => d.note (.logged line)) d
  match r.finalize d.files accountId site.settings.apiVersion d.clock site.reader with
  | .error e =>
    (d.log .error s!"Could not finalize recording: {e.message}" []).tellCall (.failure e)
  | .ok m =>
    let d := d.log .info s!"Call wrapping up recording {m.recordingId} ({m.duration.fixed 3}s)" []
    match d.persist site store m with
    | (.ok (), d) => d
    | (.error e, d) =>
      (d.log .error s!"Could not persist recording: {e.message}" []).tellCall (.failure e)

/-- Settle the call recording that a stopped recorder wrote, if it wrote one. -/
def settleRecording (generation : Nat) : Desk σ :=
  match d.takeRecording generation with
  | (none, d) => d.log .debug "Stopped record is not a call recording, nothing to persist" []
  | (some r, d) =>
    match d.leg.accountId, d.leg.store with
    | none, _ => d.log .warn s!"Call recording {r.recordingId} has no account" []
    | some _, none => d.log .warn s!"No recording store for {r.recordingId}" []
    | some accountId, some store => d.fileRecording site r accountId store

/-- Stop what the group does; a call recording is handed to the store or discarded. -/
def stop (artifact : Bool) : Desk σ :=
  match d.stopActive site with
  | (.ok (some ⟨.recording, generation⟩), d) =>
    if artifact then d.settleRecording site generation
    else
      match d.takeRecording generation with
      | (none, d) => d
      | (some r, d) => d.log .debug s!"Discarding call recording {r.recordingId}" []
  | (.ok _, d) => d
  | (.error e, d) =>
    (d.log .error s!"Could not stop media group operation: {e.message}" []).tellCall (.failure e)

/-- Stop a recording and hand over its metadata; nothing happens if none is in flight. -/
def stopRecording (accountId store : Option String) : Desk σ :=
  match d.leg.active with
  | some ⟨.recording, _⟩ =>
    let d := { d with leg := d.leg.remember accountId store }
    (d.log .info "Stop recording call" []).stop site true
  | _ => d

end CallMedia.Desk
