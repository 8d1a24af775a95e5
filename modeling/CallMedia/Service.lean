/-
  A controller in service.

  The controller reads its inbox item by item; callers send messages and queries through a handle, wait
  for room, and wait for answers; the media server completes or drops the sinks it holds.  Each of these
  is a function on `Service`, and any interleaving of them is a run.

    * `takeNext` lets the controller handle the oldest item.  When the inbox is empty and nobody could
      send any more, the controller ends.
    * `request` makes a caller start on a message or a query, and `look` lets it get on: send once it has
      a permit, collect the answer once there is one.
    * `complete` and `dropSink` are the media server's part.

  Who is not finished keeps the inbox open, and so does the handle itself (`callerCount`).  When the
  controller is gone, whoever still waits learns that the channel is closed.
-/
import CallMedia.Inbox

namespace CallMedia

/-- Whether a controller has begun, and whether it is over. -/
inductive Life where
  /-- It has not handled anything yet. -/
  | ready
  | running
  /-- It came to its end because nobody was left to send to it. -/
  | ended
  /-- It was thrown away. -/
  | killed
deriving DecidableEq, Repr

/-- What a caller wants. -/
inductive Request where
  | tell (sender : Recipient) (message : Message)
  | query
deriving DecidableEq, Repr

/-- A caller that is not finished. -/
structure Caller where
  number : Nat
  request : Request
  /-- The answer to its query, once there is one. -/
  answer : Option Snapshot := none
deriving DecidableEq, Repr

/-- How a request ended. -/
inductive Reply where
  /-- The message entered the inbox. -/
  | sent
  | answered (snapshot : Snapshot)
  | refused (fault : Fault)
deriving DecidableEq, Repr

/-- A controller with its inbox and its callers. -/
structure Service (σ : Type) where
  controller : Controller σ
  inbox : Inbox
  /-- The callers that are not finished, the oldest first. -/
  callers : List Caller := []
  /-- Whether the handle that was given out is still held. -/
  handle : Bool := true
  life : Life := .ready

namespace Service

variable {σ : Type} (site : Site σ) (s : Service σ)

/-- A new controller at a site, if the inbox that the site's settings ask for can be made. -/
def new? (site : Site σ) (outside : σ) (files : Files) : Option (Service σ) :=
  (Inbox.ofCapacity? site.settings.inboxCapacity).map fun inbox =>
    { controller := { desk := { outside, files } }, inbox }

/-- Whether the controller still reads its inbox. -/
def isOpen : Bool := s.life = .ready || s.life = .running

/-- How many callers keep the inbox open. -/
def callerCount : Nat := s.handle.toNat + s.callers.length

/-- Do something at the controller's desk. -/
def atDesk (work : Desk σ → Desk σ) : Service σ :=
  { s with controller := s.controller.atDesk work }

/-- Whether anybody could still send to the inbox. -/
def reachable : Bool := 0 < s.callerCount || !s.controller.desk.sinks.isEmpty

/-! ## The controller's part -/

/-- The controller begins. -/
def begin : Service σ :=
  if s.life = .ready then
    { s.atDesk (·.log .info "Media session controller started" []) with life := .running }
  else s

/-- The controller ends if nothing is left to handle and nobody could send any more. -/
def endIfOver : Service σ :=
  if s.life = .running ∧ s.inbox.items = [] ∧ s.reachable = false then
    { s.atDesk (·.log .info "Media session controller stopped"
        [("state", s.controller.phase.name)]) with life := .ended }
  else s

/-- Queue the completions that were reported while an item was handled. -/
def queuePosted : Service σ :=
  let posted := s.controller.desk.posted
  { s.atDesk (fun d => { d with posted := [] }) with inbox := posted.foldl Inbox.post s.inbox }

/-- Give a caller the answer to its query. -/
def answer (number : Nat) (snapshot : Snapshot) : Service σ :=
  { s with callers := s.callers.map fun c =>
      if c.number = number then { c with answer := some snapshot } else c }

/-- The controller handles one item that it took out of the inbox. -/
def handleItem (item : Item) : Service σ :=
  -- a slot can be armed only while somebody could still send
  let s := s.atDesk (fun d => { d with callers := s.callerCount })
  match item with
  | .query number => s.answer number s.controller.snapshot
  | _ => { s with controller := s.controller.handle site item }.queuePosted

/-- The controller handles the oldest item, if there is one. -/
def takeNext : Service σ :=
  match s.inbox.take with
  | none => s
  | some (item, inbox) => { s with inbox }.handleItem site item

/-- The controller handles up to `rounds` items. -/
def takeMany : (rounds : Nat) → Service σ → Service σ
  | 0, s => s
  | rounds + 1, s => takeMany rounds (s.takeNext site)

/-- How many items can come of an item at most: a message may start one operation that is completed at
    once, and a completion starts none. -/
def weight : Item → Nat
  | .message .. => 2
  | _ => 1

/-- How many items can come of a queue at most. -/
def load : List Item → Nat
  | [] => 0
  | item :: items => weight item + load items

/-- The controller handles its whole inbox, with all that is queued meanwhile. -/
def drain : Service σ :=
  if s.isOpen then
    let s := s.begin
    (takeMany site (load s.inbox.items) s).endIfOver
  else s

/-! ## The callers' part -/

/-- What a request puts into the inbox. -/
def itemOf (number : Nat) : Request → Item
  | .tell sender message => .message sender message
  | .query => .query number

/-- The caller is finished. -/
def dismiss (number : Nat) : Service σ :=
  { s with callers := s.callers.filter (fun c => c.number ≠ number) }

/-- A caller gets on as far as it can; a reply if it is finished. -/
def look (c : Caller) : Option Reply × Service σ :=
  match c.answer with
  | some snapshot => (some (.answered snapshot), s.dismiss c.number)
  | none =>
    if !s.isOpen then
      (some (.refused .channelClosed),
        { s.dismiss c.number with inbox := s.inbox.withdraw c.number })
    else if c.number ∈ s.inbox.granted then
      -- a message is over for its caller once it has entered; a query waits for its answer
      let s := { s with inbox := s.inbox.send c.number (itemOf c.number c.request) }
      match c.request with
      | .tell .. => (some .sent, s.dismiss c.number)
      | .query => (none, s)
    else (none, s)

/-- A caller starts on a request and gets on as far as it can. -/
def request (number : Nat) (r : Request) : Option Reply × Service σ :=
  if !s.isOpen then (some (.refused .channelClosed), s)
  else
    let c : Caller := ⟨number, r, none⟩
    { s with callers := s.callers ++ [c], inbox := s.inbox.ask number }.look c

/-- A caller gives up. -/
def cancel (number : Nat) : Service σ :=
  { s.dismiss number with inbox := s.inbox.withdraw number }

/-- Every caller of a list gets on, in order; the numbers and replies of those that are finished. -/
def lookAll : List Caller → Service σ → List (Nat × Reply) × Service σ
  | [], s => ([], s)
  | c :: rest, s =>
    let (reply, s) := s.look c
    let (replies, s) := lookAll rest s
    ((reply.map (fun r => (c.number, r))).toList ++ replies, s)

/-- The handle is given up. -/
def dropHandle : Service σ := { s with handle := false }

/-! ## One round after another -/

/-- The controller handles its inbox, then every caller gets on. -/
def round : List (Nat × Reply) × Service σ :=
  let s := s.drain site
  lookAll s.callers s

/-- Up to `count` rounds, as long as somebody waits; the replies of each round. -/
def rounds : (count : Nat) → Service σ → List (List (Nat × Reply)) × Service σ
  | 0, s => ([], s)
  | count + 1, s =>
    if s.callers = [] then ([], s)
    else
      let (replies, s) := s.round site
      let (later, s) := rounds count s
      (replies :: later, s)

/-- Rounds until nobody waits any more.  Every round finishes the oldest caller or answers its query,
    so two rounds a caller are enough. -/
def serveAll : List (List (Nat × Reply)) × Service σ :=
  rounds site (2 * s.callers.length) s

/-- Everything is worked off: nobody waits, and the inbox is empty. -/
def settle : List (Nat × Reply) × Service σ :=
  let (replies, s) := s.serveAll site
  (replies.flatten, s.drain site)

/-! ## The media server's part -/

/-- The sinks of a category that the media server holds, the oldest first. -/
def sinksOf (c : Category) : List Sink :=
  s.controller.desk.sinks.filter (fun k => k.category = c)

/-- The media server lets go of a sink. -/
def dropSink (k : Sink) : Service σ :=
  s.atDesk (fun d => { d with sinks := d.sinks.erase k })

/-- The media server completes a sink. -/
def complete (k : Sink) (o : Outcome) : Except Fault Unit × Service σ :=
  let s := s.dropSink k
  if s.isOpen then
    (.ok (), { s with inbox := (k.complete? o).toList.foldl Inbox.post s.inbox })
  else (.error .channelClosed, s)

/-! ## The end -/

/-- The controller is thrown away with all it had queued. -/
def kill : Service σ :=
  if s.isOpen then { s with life := .killed, inbox := s.inbox.abandon } else s

end Service

end CallMedia
