/-
  Rehearsing a controller.

  A rehearsal installs a controller at a site that follows a script: which requests fail and how, which
  operations complete before they are answered, which stores refuse.  All else succeeds; what is
  allocated is named by its kind and a running number, and a sink is kept until somebody completes or
  drops it.

  A rehearsal goes step by step.  After a step everything is worked off (`Service.settle`), unless the
  step is held back; then it only queues.  Steps that merely change the script are always held.  Who
  finds no handle to ask through leaves at once, so nothing is worked off then.
-/
import CallMedia.Service

namespace CallMedia.Rehearsal

/-! ## The script -/

/-- How a request fails. -/
structure Failure where
  fault : Fault
  /-- Whether the media server keeps the sink it was handed all the same. -/
  keepsSink : Bool := false
deriving DecidableEq, Repr

/-- The fault of a request that fails for no other reason. -/
def rejection (request : String) : Fault := .provider s!"{request} rejected"

/-- What the site does, by the names of requests and stores. -/
structure Script where
  failures : List (String × Failure) := []
  inline : List (String × Outcome) := []
  storeFaults : List (String × Fault) := []
  /-- How many things have been allocated. -/
  made : Nat := 0
deriving Repr, Inhabited

/-- An association list with one key set or, for `none`, removed. -/
def assign {α : Type} (l : List (String × α)) (key : String) (value : Option α) :
    List (String × α) :=
  l.filter (fun e => e.1 ≠ key) ++ (value.map (fun v => (key, v))).toList

/-- The kind of thing that an allocation makes. -/
def kindOf : Creation → String
  | .session => "session"
  | .connection .. => "connection"
  | .group _ => "group"

/-- Allocate, unless the script says otherwise. -/
def create (s : Script) (what : Creation) : Except Fault String × Script :=
  match s.failures.lookup what.name with
  | some f => (.error f.fault, s)
  | none => (.ok s!"{kindOf what}-{s.made + 1}", { s with made := s.made + 1 })

/-- Obey, unless the script says otherwise. -/
def perform (s : Script) (what : Command) : Except Fault Unit × Script :=
  match s.failures.lookup what.name with
  | some f => (.error f.fault, s)
  | none => (.ok (), s)

/-- Start an operation as the script says. -/
def start (s : Script) (what : Operation) (_ : Sink) : Answer × Script :=
  let failure := s.failures.lookup what.name
  let result := match failure with
    | some f => .error f.fault
    | none => .ok ()
  -- an outcome reported from inside the call uses up the sink, whatever the call then answers
  let fate : SinkFate := match s.inline.lookup what.name, failure with
    | some outcome, _ => .completed outcome
    | none, some f => if f.keepsSink then .held else .dropped
    | none, none => .held
  (⟨result, fate⟩, s)

/-- Take metadata, unless the script says otherwise. -/
def store (s : Script) (name : String) (_ : Recording.Metadata) : Except Fault Unit × Script :=
  match s.storeFaults.lookup name with
  | some fault => (.error fault, s)
  | none => (.ok (), s)

/-- The site that follows its script. -/
def site (settings : Settings) (server : Server) : Site Script :=
  { settings, server, create, perform, start, store }

/-! ## Steps -/

/-- A step of a rehearsal; `held` steps only queue. -/
inductive Step where
  | tell (sender : Recipient) (message : Message) (held : Bool)
  | query (held : Bool)
  /-- Complete the sink of a category at a position, the oldest at 0. -/
  | complete (category : Category) (index : Nat) (outcome : Outcome) (held : Bool)
  | dropSink (category : Category) (index : Nat)
  | fail (request : String) (failure : Option Failure)
  | inline (request : String) (outcome : Option Outcome)
  | failStore (store : String) (fault : Option Fault)
  | writeFile (path : Path) (bytes : List UInt8)
  | closeMailbox (mailbox : String)
  | run
  | dropHandle
  | kill
deriving Repr

/-- What a step itself came to. -/
inductive Result where
  | ok
  | noHandle
  | noSink
  | waiting
  | replied (reply : Reply)
  | completed (sink : Sink) (answer : Except Fault Unit)
  | droppedSink (sink : Sink)
deriving Repr

/-- What can be seen of a step. -/
structure Report where
  result : Result
  /-- Earlier requests that were finished, by number, in order. -/
  resolved : List (Nat × Reply) := []
  effects : List Effect := []
  /-- The state after the step: nothing after a held step, and no answer without a handle. -/
  snapshot : Option (Option (Except Fault Snapshot)) := none
deriving Repr

/-- Whether a step only queues. -/
def Step.held : Step → Bool
  | tell _ _ held | query held | complete _ _ _ held => held
  | fail .. | inline .. | failStore .. | writeFile .. | closeMailbox _ | dropHandle => true
  | dropSink .. | run | kill => false

variable (place : Site Script) (s : Service Script)

/-- Change the script. -/
def edit (change : Script → Script) : Service Script :=
  s.atDesk (fun d => { d with outside := change d.outside })

/-- A caller starts on a request, if the handle is still held. -/
def ask (number : Nat) (r : Request) : Result × Service Script :=
  if s.handle then
    match s.request number r with
    | (some reply, s) => (.replied reply, s)
    | (none, s) => (.waiting, s)
  else (.noHandle, s)

/-- What a step does before anything is worked off. -/
def act (number : Nat) : Step → Result × Service Script
  | .tell sender message _ => ask s number (.tell sender message)
  | .query _ => ask s number .query
  | .complete category index outcome _ =>
    match (s.sinksOf category)[index]? with
    | none => (.noSink, s)
    | some k => let (answer, s) := s.complete k outcome; (.completed k answer, s)
  | .dropSink category index =>
    match (s.sinksOf category)[index]? with
    | none => (.noSink, s)
    | some k => (.droppedSink k, s.dropSink k)
  | .fail request failure =>
    (.ok, edit s fun t => { t with failures := assign t.failures request failure })
  | .inline request outcome =>
    (.ok, edit s fun t => { t with inline := assign t.inline request outcome })
  | .failStore store fault =>
    (.ok, edit s fun t => { t with storeFaults := assign t.storeFaults store fault })
  | .writeFile path bytes =>
    (.ok, s.atDesk fun d => { d with files := d.files.write path bytes })
  | .closeMailbox mailbox => (.ok, s.atDesk fun d => { d with deaf := mailbox :: d.deaf })
  | .run => (.ok, s)
  | .dropHandle => (.ok, s.dropHandle)
  | .kill => (.ok, s.kill)

/-- The state that a query would now be answered, if there is a handle to ask through. -/
def view : Option (Except Fault Snapshot) :=
  if s.handle then some (if s.isOpen then .ok s.controller.snapshot else .error .channelClosed)
  else none

/-- Take out what was traced. -/
def takeTrace : List Effect × Service Script :=
  (s.controller.desk.trace, s.atDesk (fun d => { d with trace := [] }))

/-- Work everything off after a step; a request of the step itself gets its reply as the result. -/
def workOff (number : Nat) (result : Result) : Report × Service Script :=
  let (replies, s) := s.settle place
  let own := (replies.lookup number).map Result.replied
  let report : Report :=
    { result := own.getD result
      resolved := replies.filter (fun r => r.1 ≠ number)
      snapshot := some (view s) }
  (report, s)

/-- Go one step. -/
def step (number : Nat) (what : Step) : Report × Service Script :=
  let (result, s) := act s number what
  let (report, s) :=
    if what.held then ({ result }, s)
    else match result with
      | .noHandle => ({ result, snapshot := some (view s) }, s)
      | result => workOff place s number result
  let (effects, s) := takeTrace s
  ({ report with effects }, s)

end CallMedia.Rehearsal
