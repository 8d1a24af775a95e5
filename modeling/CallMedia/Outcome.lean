/-
  Outcomes of the operations that complete later.

  A started operation is given a `Sink`, the right to report its outcome once.  A sink takes only an
  outcome of its own category (`Sink.complete?`), so a player can never report digits.  What reaches
  the controller is a `Completion`: the outcome and the generation of the sink it came through.
-/
import CallMedia.Category
import CallMedia.Text.Quoted

namespace CallMedia

/-- How a step of the negotiation ended. -/
inductive NegotiationOutcome where
  /-- The media server made an offer. -/
  | offerGenerated (sdp : String)
  /-- The media server answered the other side's offer. -/
  | answerGenerated (sdp : String)
  /-- The media server took the other side's answer. -/
  | answerProcessed
  /-- The media stream failed after the negotiation. -/
  | networkStreamFailure
  /-- The negotiation failed, for the reason given. -/
  | failed (reason : String)
deriving DecidableEq, Repr

/-- How a play ended. -/
inductive PlayOutcome where
  | completed
  | failed (reason : String)
deriving DecidableEq, Repr

/-- How a collection of digits ended. -/
inductive CollectOutcome where
  | completed (digits : String)
  | failed (reason : String)
deriving DecidableEq, Repr

/-- Why a recording ended by itself. -/
inductive RecordQualifier where
  /-- The end key was pressed. -/
  | stopped
  | endOfData
  | maxDuration
  | timeout
deriving DecidableEq, Repr

/-- How a recording ended. -/
inductive RecordOutcome where
  | completed (qualifier : RecordQualifier)
  | failed (reason : String)
deriving DecidableEq, Repr

/-- How an operation that completes later ended. -/
inductive Outcome where
  | negotiation (outcome : NegotiationOutcome)
  | playback (outcome : PlayOutcome)
  | digitCollection (outcome : CollectOutcome)
  | recording (outcome : RecordOutcome)
deriving DecidableEq, Repr

/-- The category an outcome belongs to. -/
def Outcome.category : Outcome → Category
  | negotiation _ => .negotiation
  | playback _ => .group .playback
  | digitCollection _ => .group .digitCollection
  | recording _ => .group .recording

/-- An outcome, and the generation of the operation it is the outcome of. -/
structure Completion where
  generation : Nat
  outcome : Outcome
deriving DecidableEq, Repr

/-- The category a completion belongs to. -/
def Completion.category (c : Completion) : Category := c.outcome.category

/-- The right to report the outcome of one operation, once. -/
structure Sink where
  category : Category
  generation : Nat
deriving DecidableEq, Repr

namespace Sink

/-- What reporting an outcome through a sink queues: nothing if the outcome is of another category. -/
def complete? (s : Sink) (o : Outcome) : Option Completion :=
  if o.category = s.category then some ⟨s.generation, o⟩ else none

/-- A completion belongs to the operation that its sink was handed out for. -/
theorem category_of_complete? {s : Sink} {o : Outcome} {c : Completion}
    (h : s.complete? o = some c) : c.category = s.category ∧ c.generation = s.generation := by
  unfold complete? at h
  split at h
  · cases h; exact ⟨by assumption, rfl⟩
  · cases h

/-- A sink, as a trace shows it. -/
def describe (s : Sink) : String :=
  s!"CompletionSink \x7b category: {s.category.label}, generation: {s.generation} \x7d"

end Sink

/-! ## Outcomes as a trace shows them -/

def NegotiationOutcome.describe : NegotiationOutcome → String
  | offerGenerated sdp => s!"OfferGenerated({Text.quoted sdp})"
  | answerGenerated sdp => s!"AnswerGenerated({Text.quoted sdp})"
  | answerProcessed => "AnswerProcessed"
  | networkStreamFailure => "NetworkStreamFailure"
  | failed reason => s!"Failed({Text.quoted reason})"

def PlayOutcome.describe : PlayOutcome → String
  | completed => "Completed"
  | failed reason => s!"Failed({Text.quoted reason})"

def CollectOutcome.describe : CollectOutcome → String
  | completed digits => s!"Completed({Text.quoted digits})"
  | failed reason => s!"Failed({Text.quoted reason})"

def RecordQualifier.describe : RecordQualifier → String
  | stopped => "Stopped"
  | endOfData => "EndOfData"
  | maxDuration => "MaxDuration"
  | timeout => "Timeout"

def RecordOutcome.describe : RecordOutcome → String
  | completed qualifier => s!"Completed({qualifier.describe})"
  | failed reason => s!"Failed({Text.quoted reason})"

/-- An outcome, as a trace shows it. -/
def Outcome.describe : Outcome → String
  | negotiation o => s!"Sdp({o.describe})"
  | playback o => s!"Player({o.describe})"
  | digitCollection o => s!"Detector({o.describe})"
  | recording o => s!"Recorder({o.describe})"

end CallMedia
