/-
  A controller's desk.

  The desk is the leg together with all that a controller touches while it handles one item: the state
  of the world outside, the sinks that the media server still holds, the completions that were reported
  meanwhile, and the trace of what was done, in order.  Every handler is a function on desks, built from
  the primitives of this file; each primitive does one thing to the world and writes it into the trace.

  The inbox stays open as long as somebody could still send to it: a caller, or a sink that has not been
  used (`inboxOpen`).  Only while it is open can a slot be armed.
-/
import CallMedia.Leg
import CallMedia.Site

namespace CallMedia

/-- A leg, and what is touched while one item is handled. -/
structure Desk (σ : Type) where
  leg : Leg := {}
  /-- The state of the media server and the stores. -/
  outside : σ
  /-- How many callers hold the inbox open. -/
  callers : Nat := 0
  /-- The sinks held by the media server, the oldest first. -/
  sinks : List Sink := []
  /-- Completions reported while the present item was handled. -/
  posted : List Completion := []
  /-- Mailboxes that nobody reads any more. -/
  deaf : List String := []
  files : Files := {}
  clock : Instant := ⟨0, 0⟩
  trace : List Effect := []

namespace Desk

variable {σ : Type} (site : Site σ) (d : Desk σ)

/-- Whether anybody could still send to the inbox. -/
def inboxOpen : Bool := 0 < d.callers || !d.sinks.isEmpty

/-- Write down what was done. -/
def note (e : Effect) : Desk σ := { d with trace := d.trace ++ [e] }

/-- Write a line into the journal. -/
def log (level : Level) (sentence : String) (facts : List (String × String)) : Desk σ :=
  d.note (.logged ⟨level, sentence, facts⟩)

/-- Give a recipient a notice.  A closed mailbox is only noted. -/
def tell (r : Recipient) (n : Notice) : Desk σ :=
  if r.mailbox ∈ d.deaf then
    (d.note (.told r n false)).log .debug "Recipient mailbox closed, dropping notice"
      [("recipient", r.id)]
  else d.note (.told r n true)

/-- Give the owning call a notice. -/
def tellCall (n : Notice) : Desk σ :=
  match d.leg.call with
  | some call => d.tell call n
  | none => d.log .debug "No owning call to tell" []

/-- Give every observer a notice, in order of registration. -/
def broadcast (n : Notice) : Desk σ :=
  d.leg.observers.toList.foldl (fun d r => d.tell r n) d

/-- Have something allocated. -/
def create (what : Creation) : Except Fault String × Desk σ :=
  let (answer, outside) := site.create d.outside what
  (answer, { d with outside }.note (.created what answer))

/-- Have something done. -/
def perform (what : Command) : Except Fault Unit × Desk σ :=
  let (answer, outside) := site.perform d.outside what
  (answer, { d with outside }.note (.performed what answer))

/-- Hand the metadata of a recording to a store. -/
def persist (store : String) (m : Recording.Metadata) : Except Fault Unit × Desk σ :=
  let (answer, outside) := site.store d.outside store m
  (answer, { d with outside }.note (.stored store m answer))

/-- What becomes of a sink: its outcome is queued, or it is held on, or it is gone. -/
def settleSink (sink : Sink) : SinkFate → Desk σ
  | .completed outcome => { d with posted := d.posted ++ (sink.complete? outcome).toList }
  | .held => { d with sinks := d.sinks ++ [sink] }
  | .dropped => d

/-- Have an operation started with a sink that is already armed. -/
def startArmed (what : Operation) (sink : Sink) : Except Fault Unit × Desk σ :=
  let (answer, outside) := site.start d.outside what sink
  (answer.result, ({ d with outside }.note (.started what sink answer)).settleSink sink answer.fate)

/-- Replace the slot of one category. -/
def setSlot (c : Category) (s : Slot) : Desk σ := { d with leg := d.leg.setSlot c s }

/-- Name the recipient of the next outcome of a category. -/
def bind (c : Category) (r : Recipient) : Desk σ := d.setSlot c ((d.leg.slot c).bind r)

/-- Forget the awaited operation of a category. -/
def disarm (c : Category) : Desk σ := d.setSlot c (d.leg.slot c).disarm

/-- Arm the slot of an operation and start it; the answer is its generation.  If the inbox is gone
    nothing is started; if the media server refuses, the operation is not awaited. -/
def launch (what : Operation) : Except Fault Nat × Desk σ :=
  let c := what.category
  match (d.leg.slot c).arm d.inboxOpen with
  | none => (.error .channelClosed, d)
  | some (generation, slot) =>
    match (d.setSlot c slot).startArmed site what ⟨c, generation⟩ with
    | (.ok (), d) => (.ok generation, d)
    | (.error e, d) => (.error e, d.disarm c)

/-! ## What the primitives leave alone -/

/-- Nothing that is written down, sent or asked for changes the leg. -/
@[simp] theorem leg_note (e : Effect) : (d.note e).leg = d.leg := rfl
@[simp] theorem leg_log (l : Level) (s : String) (f : List (String × String)) :
    (d.log l s f).leg = d.leg := rfl

@[simp] theorem leg_tell (r : Recipient) (n : Notice) : (d.tell r n).leg = d.leg := by
  unfold tell; split <;> rfl

@[simp] theorem leg_tellCall (n : Notice) : (d.tellCall n).leg = d.leg := by
  unfold tellCall; split <;> simp

/-- An answer of the media server changes no leg by itself; who asks for something takes it in. -/
@[simp] theorem leg_create (what : Creation) : (d.create site what).2.leg = d.leg := rfl
@[simp] theorem leg_perform (what : Command) : (d.perform site what).2.leg = d.leg := rfl
@[simp] theorem leg_persist (store : String) (m : Recording.Metadata) :
    (d.persist site store m).2.leg = d.leg := rfl

/-- A sink that was handed over is the media server's, whatever it has done with it. -/
@[simp] theorem leg_settleSink (s : Sink) (f : SinkFate) : (d.settleSink s f).leg = d.leg := by
  cases f <;> rfl

/-- A broadcast is a notice to one observer after another. -/
@[simp] theorem leg_broadcast (n : Notice) : (d.broadcast n).leg = d.leg := by
  unfold broadcast
  generalize d.leg.observers.toList = rs
  suffices h : ∀ (rs : List Recipient) (d : Desk σ),
      (rs.foldl (fun d r => d.tell r n) d).leg = d.leg from h rs d
  intro rs
  induction rs with
  | nil => intro d; rfl
  | cons r rest ih => intro d; rw [List.foldl_cons, ih, leg_tell]

end Desk

end CallMedia
