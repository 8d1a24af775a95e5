/-
  The arrival of outcomes.

  A completion counts only if its slot awaits its generation; any other is stale and dropped.  The
  outcome of an activity goes to whoever asked for it, and clears the operation in flight if it is that
  very one.  The outcome of a negotiation moves the session: to `active`, or to `failed` where that is
  legal.
-/
import CallMedia.Lifecycle

namespace CallMedia

namespace Desk

variable {σ : Type} (d : Desk σ)

/-- Give the result of an activity to whoever asked for it. -/
def report (activity : Activity) (generation : Nat) (result : Except Fault String) : Desk σ :=
  let d := { d with leg := d.leg.clearActive ⟨activity, generation⟩ }
  match (d.leg.slot (.group activity)).replyTo with
  | some r => d.tell r (.operationResult activity result)
  | none => d

/-- A play ended. -/
def playEnded (generation : Nat) : PlayOutcome → Desk σ
  | .completed => d.report .playback generation (.ok playCompleted)
  | .failed reason => d.report .playback generation (.error (.provider reason))

/-- A collection of digits ended. -/
def collectEnded (generation : Nat) : CollectOutcome → Desk σ
  | .completed digits => d.report .digitCollection generation (.ok digits)
  | .failed reason => d.report .digitCollection generation (.error (.provider reason))

/-- What a recording that ended by itself reports: the end key if that ended it. -/
def recordedDigits (l : Leg) : RecordQualifier → String
  | .stopped => l.endKey
  | _ => ""

/-- Forget the call recording that an ended recording wrote. -/
def recordingOver (generation : Nat) : Desk σ :=
  match d.leg.takeRecording generation with
  | (none, _) => d
  | (some r, leg) =>
    { d with leg }.log .info s!"Call recording {r.recordingId} ended by the media server" []

/-- A recording ended. -/
def recordEnded (generation : Nat) : RecordOutcome → Desk σ
  | .completed qualifier =>
    (d.recordingOver generation).report .recording generation (.ok (recordedDigits d.leg qualifier))
  | .failed reason =>
    ((d.log .error s!"Recording event failed: {reason}" []).recordingOver generation).report
      .recording generation (.error (.provider reason))

end Desk

namespace Controller

variable {σ : Type} (site : Site σ) (c : Controller σ)

/-- A negotiation failed. -/
def negotiationFailed (fault : Fault) : Controller σ :=
  if fault.isFatal && (lifecycle site).allows c.phase .failed then
    c.enter site (.negotiationFailed fault) .failed
  else
    c.atDesk fun d =>
      (d.log .error s!"Media session error: {fault.message}" []).tellCall (.failure fault)

/-- A step of the negotiation ended. -/
def negotiationEnded : NegotiationOutcome → Controller σ
  | .offerGenerated sdp | .answerGenerated sdp => c.enter site (.negotiated (some sdp)) .active
  | .answerProcessed => c.enter site (.negotiated none) .active
  | .networkStreamFailure => c.negotiationFailed site (.negotiation "Network stream failure")
  | .failed reason => c.negotiationFailed site (.negotiation reason)

/-- Act on an outcome that was accepted. -/
def outcomeAccepted (generation : Nat) : Outcome → Controller σ
  | .negotiation o => c.negotiationEnded site o
  | .playback o => c.atDesk (·.playEnded generation o)
  | .digitCollection o => c.atDesk (·.collectEnded generation o)
  | .recording o => c.atDesk (·.recordEnded generation o)

/-- A completion arrives. -/
def arrive (completion : Completion) : Controller σ :=
  let category := completion.category
  match (c.desk.leg.slot category).accept completion.generation with
  | (true, slot) =>
    (c.atDesk (·.setSlot category slot)).outcomeAccepted site completion.generation
      completion.outcome
  | (false, _) =>
    c.atDesk (·.log .debug
      s!"Dropping stale {category.name} event (generation {completion.generation})" [])

end Controller

end CallMedia
