/-
  Causes of failure.

  Everything that can go wrong while a call's media is driven is one of nine causes.  A cause carries
  the diagnostic of whoever reported it; `Fault.message` is the one place where a cause becomes a
  sentence.  Two faults are equal when they have the same cause and the same diagnostic.

  Only a failed negotiation is fatal (`isFatal_iff`): every other cause concerns a single request
  and leaves the session as it is.
-/

namespace CallMedia

/-- Why a request, an operation or a configuration was refused. -/
inductive Fault where
  /-- A change of state that is not among the legal ones. -/
  | illegalTransition (source target : String)
  /-- The media server rejected or failed a request. -/
  | provider (text : String)
  /-- The exchange of session descriptions, or the media stream, failed. -/
  | negotiation (reason : String)
  /-- The request needs a resource that does not exist. -/
  | resourceUnavailable (resource : String)
  /-- The request is not allowed in the current state. -/
  | illegalOperation (text : String)
  /-- The controller's inbox is gone. -/
  | channelClosed
  /-- A recorded artifact, or its metadata, is unusable. -/
  | recording (text : String)
  /-- The recording store refused a record. -/
  | persistence (text : String)
  /-- The settings are unusable. -/
  | configuration (text : String)
deriving DecidableEq, Repr, Inhabited

namespace Fault

/-- The sentence that reports a fault. -/
def message : Fault → String
  | illegalTransition source target => s!"Illegal transition from {source} to {target}"
  | provider text => s!"Media provider error: {text}"
  | negotiation reason => s!"Media session negotiation failed: {reason}"
  | resourceUnavailable resource => s!"Resource unavailable: {resource}"
  | illegalOperation text => s!"Illegal operation: {text}"
  | channelClosed => "Media session controller is no longer running"
  | recording text => s!"Recording error: {text}"
  | persistence text => s!"Persistence error: {text}"
  | configuration text => s!"Configuration error: {text}"

/-- A fault is fatal when it ends the whole session. -/
def isFatal : Fault → Bool
  | negotiation _ => true
  | _ => false

/-- Only a negotiation that fails ends the session. -/
theorem isFatal_iff (f : Fault) : f.isFatal = true ↔ ∃ reason, f = negotiation reason := by
  cases f <;> simp [isFatal]

end Fault

/-- A diagnostic that ends in the wording of a lower layer (a file system, a reader of some format).
    That wording is not this library's to choose, so a mark stands in its place. -/
def withDetail (text : String) : String := s!"{text}: <detail>"

end CallMedia
