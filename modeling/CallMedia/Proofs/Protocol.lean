/-
  What the inbox of a service promises.

  Messages and queries are bounded and completions are not: whoever completes an operation never waits,
  while callers wait for a permit.  `InboxProtocol` lists what holds after any happenings, in any order:
  of the permits, none of which is lost; of what enters, which is exactly what was sent; of the order in
  which items are handled and callers are admitted; and of the answers to queries.

  Each of its parts is an invariant of its own.  The permits are counted here (`Served.permits`), with
  what is completed (`Served.queuesAtOnce`) and what queries are answered (`Served.answered_after`).  The
  rest is the order of the items (`Served.order`), the line (`Served.queue`) and the course of every
  request (`Served.course`).
-/
import CallMedia.Proofs.Requests

namespace CallMedia

/-! ## Permits

A permit is free, in a caller's hand, or held by an item in the inbox. -/

/-- Completions neither take a permit nor give one back. -/
theorem Inbox.permits_posted (i : Inbox) (es : List Completion) :
    (es.foldl Inbox.post i).permits = i.permits := by
  induction es generalizing i with
  | nil => rfl
  | cons e es ih => exact (ih (i.post e)).trans (Inbox.permits_post i e)

section

variable {σ : Type} {site : Site σ} {hs : List (Happening σ)} {st : Stage σ}

/-- No move changes the number of permits. -/
theorem Stage.Moved.permits {move : Move σ} {ending : Option Ending} {inbox : Inbox}
    {callers : List Caller} {hand : Option Item} {items : List Item}
    (h : st.Moved move ending inbox callers hand items) :
    inbox.permits = st.service.inbox.permits := by
  -- every operation of an inbox keeps the count, and the other moves do not touch the inbox
  cases h with
  | took item inbox hhand htake => exact Inbox.permits_take htake
  | handled item es hhand hitem => exact Inbox.permits_posted _ es
  | completed sink outcome es => exact Inbox.permits_posted _ es
  | asked number request hopen => exact Inbox.permits_ask _ _
  | refused c hc hanswer hopen => exact Inbox.permits_withdraw _ _
  | sent c sender message hc hanswer hrequest hgranted => exact Inbox.permits_send _ _ _ rfl
  | queued c hc hanswer hrequest hgranted => exact Inbox.permits_send _ _ _ rfl
  | gaveUp number hc => exact Inbox.permits_withdraw _ _
  | killed => exact Inbox.permits_abandon _
  | _ => rfl

/-- There are as many permits as the settings allow, and one at least, however they are spread. -/
theorem Served.permits (h : Served site hs st) :
    st.service.inbox.permits = max 1 site.settings.inboxCapacity := by
  induction h with
  | start outside files s h =>
    rw [Service.eq_of_new? h]
    rfl
  | next hs st move h hallowed hfresh ih => exact (Stage.moved site hallowed).permits.trans ih

/-! ## Completions

A completion is let in by whoever has it, without a permit and without waiting. -/

/-- What is completed enters the inbox at once. -/
structure Happening.QueuesAtOnce (site : Site σ) (h : Happening σ) : Prop where
  /-- What the media server completes, as long as the controller is there. -/
  completed : ∀ sink outcome e, h.move = .complete sink outcome → h.before.service.isOpen = true →
    sink.complete? outcome = some e →
    (h.before.service.complete sink outcome).1 = .ok () ∧ h.entered site = [.completion e]
  /-- What it completes while an item is handled. -/
  reported : ∀ t, h.turn? = some t →
    h.entered site = ((t.effects site).filterMap Effect.reported?).map .completion

/-- Whatever happens, what it completes enters the inbox at once. -/
theorem Served.queuesAtOnce (h : Served site hs st) {happening : Happening σ} (hmem : happening ∈ hs) :
    happening.QueuesAtOnce site := by
  obtain ⟨pre, post, rfl⟩ := List.append_of_mem hmem
  obtain ⟨hbefore, hallowed, -⟩ := h.before
  obtain ⟨st', move⟩ := happening
  have hafter := Stage.items_after site hallowed
  -- the two sources of completions: the media server on its own, and a request answered on the spot
  refine ⟨fun sink outcome e hmove hopen he => ?_, fun t ht => ?_⟩
  · cases hmove
    have hcomplete : st'.service.complete sink outcome = (.ok (), { st'.service.dropSink sink with
        inbox := [e].foldl Inbox.post st'.service.inbox }) := by
      unfold Service.complete
      rw [he]
      exact if_pos hopen
    have hitems : (Happening.after site ⟨st', .complete sink outcome⟩).service.inbox.items =
        st'.service.inbox.items ++ [.completion e] := by
      show (st'.service.complete sink outcome).2.inbox.items = _
      rw [hcomplete]
      rfl
    rw [hcomplete]
    exact ⟨rfl, List.append_cancel_left (hafter.symm.trans hitems)⟩
  · cases move with
    | handle =>
      obtain ⟨item, hhand, rfl⟩ := Option.map_eq_some_iff.1 ht
      obtain ⟨queued, hrun, -⟩ := hbefore.follows
      have hitems : (Happening.after site ⟨st', .handle⟩).service.inbox.items =
          (st'.service.handleItem site item).inbox.items := by
        unfold Happening.after Stage.act
        rw [show st'.inHand = some item from hhand]
      rw [Service.items_handleItem site hrun.sound hrun.posted] at hitems
      exact List.append_cancel_left (hafter.symm.trans hitems)
    | _ => cases ht

/-- Only requests let anything but completions in. -/
theorem Stage.Moved.completions {move : Move σ} {ending : Option Ending} {inbox : Inbox}
    {callers : List Caller} {hand : Option Item} {items : List Item}
    (h : st.Moved move ending inbox callers hand items) (hby : move.by? = none) :
    ∀ item ∈ items, Inbox.holdsPermit item = false := by
  have hcompletions : ∀ es : List Completion, ∀ item ∈ es.map Item.completion,
      Inbox.holdsPermit item = false := by
    intro es item hitem
    obtain ⟨e, -, rfl⟩ := List.mem_map.1 hitem
    rfl
  cases h with
  | handled item es hhand hitem => exact hcompletions es
  | completed sink outcome es => exact hcompletions es
  | sent c sender message hc hanswer hrequest hgranted => cases hby
  | queued c hc hanswer hrequest hgranted => cases hby
  | _ => exact List.forall_mem_nil _

/-! ## Answers

Which state a query is answered with is read off the turns: the phase and the leg that the last turn
before it left behind. -/

/-- A reply with a snapshot was given in a turn. -/
theorem Settled.answeredIn {ts : List (Turn σ)} {n : Nat} {r : Request} {snapshot : Snapshot}
    {put : List Item} (h : Settled ts n r (.reply (.answered snapshot)) put) :
    AnsweredIn ts n snapshot := by
  cases h with
  | answered snapshot h => exact h
  | failed r e he => rcases he with he | he <;> cases he
  | unanswered e he => rcases he with he | he <;> cases he

/-- The phase of the session after some turns. -/
def phaseAfter (site : Site σ) (ts : List (Turn σ)) : Phase :=
  match ts.getLast? with
  | some t => (t.after site).phase
  | none => .uninitialized

/-- What is remembered of the call leg after some turns. -/
def legAfter (site : Site σ) (ts : List (Turn σ)) : Leg :=
  match ts.getLast? with
  | some t => (t.after site).desk.leg
  | none => {}

/-- What an answer says of a phase and a leg. -/
structure Snapshot.Tells (s : Snapshot) (p : Phase) (l : Leg) : Prop where
  phase : s.phase = p
  active : s.active = l.active
  conferencing : s.conferencing = l.conferencing
  outbound : s.outbound = l.outbound
  /-- Of what is held on the media server only is told whether there is such a thing. -/
  session : s.hasSession = true ↔ ∃ handle, l.session = some handle
  connection : s.hasConnection = true ↔ ∃ handle, l.connection = some handle
  group : s.hasGroup = true ↔ ∃ handle, l.group = some handle
  mixer : s.hasMixer = true ↔ ∃ handle, l.mixer = some handle
  localSdp : s.localSdp = l.localSdp
  remoteSdp : s.remoteSdp = l.remoteSdp
  /-- Observers are counted, not named. -/
  observers : s.observers = l.observers.toList.length
  owner : ∀ id, s.owner = some id ↔ ∃ r, l.owner = some r ∧ r.id = id
  callRecording : s.callRecording = true ↔ ∃ r, l.recording = some r

/-- A query sees the controller as it is. -/
theorem Controller.snapshot_tells (c : Controller σ) : c.snapshot.Tells c.phase c.desk.leg where
  phase := rfl
  active := rfl
  conferencing := rfl
  outbound := rfl
  session := Option.isSome_iff_exists
  connection := Option.isSome_iff_exists
  group := Option.isSome_iff_exists
  mixer := Option.isSome_iff_exists
  localSdp := rfl
  remoteSdp := rfl
  observers := rfl
  owner _ := Option.map_eq_some_iff
  callRecording := Option.isSome_iff_exists

/-- Between turns nothing happens that a query could see. -/
theorem Run.state_after {ts : List (Turn σ)} {c : Controller σ} {queued : List Completion}
    (h : Run site ts c queued) : c.phase = phaseAfter site ts ∧ c.desk.leg = legAfter site ts := by
  induction h with
  | start d hleg hsinks hposted => exact ⟨rfl, hleg⟩
  | turn ts c queued item h hitem ih =>
    unfold phaseAfter legAfter
    rw [List.getLast?_concat]
    exact ⟨rfl, rfl⟩
  | complete ts c queued sink outcome e h hsink he ih => exact ih
  | drop ts c queued sink h hsink ih => exact ih
  | meanwhile ts c queued d h hleg hsinks hposted ih => exact ⟨ih.1, hleg.trans ih.2⟩

/-- A query is answered with the state after exactly the items that entered before it. -/
theorem Served.answered_after (h : Served site hs st) {n : Nat} {snapshot : Snapshot}
    (hanswer : .reply (.answered snapshot) ∈ endingsOf site n hs) :
    ∃ pre rest, pre <+: turnsOf hs ∧ entriesOf site hs = pre.map Turn.item ++ .query n :: rest ∧
      snapshot.Tells (phaseAfter site pre) (legAfter site pre) := by
  obtain ⟨r, -, -, hsettled⟩ := (h.course n).settled hanswer
  have hin := hsettled.answeredIn
  obtain ⟨pre, t, post, hts, hitem, rfl⟩ := hin
  obtain ⟨queued, hrun, -⟩ := h.follows
  rw [hts] at hrun
  obtain ⟨queued', hpre, -⟩ := hrun.before
  obtain ⟨rest, hentries⟩ := h.handled_prefix
  -- the turns before the answer handled just what had entered before the query
  refine ⟨pre, post.map Turn.item ++ rest, hts ▸ List.prefix_append pre _, ?_, ?_⟩
  · rw [← hentries]
    unfold handledOf
    rw [hts, List.map_append, List.map_cons, hitem, List.append_assoc, List.cons_append]
  · rw [← hpre.state_after.1, ← hpre.state_after.2]
    exact t.before.snapshot_tells

/-! ## The protocol -/

/-- What the inbox of a service promises after any happenings. -/
structure InboxProtocol (site : Site σ) (hs : List (Happening σ)) (st : Stage σ) : Prop where
  /-- No permit is lost: a message or query in the inbox holds one, a caller has it in hand, or it is
      free. -/
  permits : st.service.inbox.items.countP Inbox.holdsPermit + st.service.inbox.granted.length +
    st.service.inbox.free = max 1 site.settings.inboxCapacity
  /-- So there are never more messages and queries in the inbox than permits. -/
  bounded : st.service.inbox.items.countP Inbox.holdsPermit ≤ max 1 site.settings.inboxCapacity
  /-- Whoever has a permit in hand, or waits for one, is a caller that has not sent yet. -/
  unsent : ∀ n ∈ st.service.inbox.granted ++ st.service.inbox.waiting,
    putBy site n hs = [] ∧ ∃ r, st.service.caller? n = some ⟨n, r, none⟩
  /-- Nobody has two permits in hand, or waits while one is free. -/
  fair : st.service.inbox.granted.Nodup ∧
    (0 < st.service.inbox.free → st.service.inbox.waiting = [])
  /-- Completions wait for nothing. -/
  immediate : ∀ h ∈ hs, h.QueuesAtOnce site
  /-- A request ends once at most, and agrees with what it has put into the inbox. -/
  accounted : ∀ n r, (n, r) ∈ requestsOf hs →
    (endingsOf site n hs = [] ∧
      (putBy site n hs = [] ∨ r = .query ∧ putBy site n hs = [.query n])) ∨
    ∃ e, endingsOf site n hs = [e] ∧ Settled (turnsOf hs) n r e (putBy site n hs)
  /-- Nothing else puts messages or queries into the inbox. -/
  others : ∀ h ∈ hs, h.move.by? = none → ∀ item ∈ h.entered site, Inbox.holdsPermit item = false
  /-- Items are handled in the order in which they entered. -/
  ordered : handledOf hs <+: entriesOf site hs
  /-- None is skipped, unless the controller is thrown away. -/
  complete : (∀ h ∈ hs, h.move ≠ .kill) →
    entriesOf site hs = handledOf hs ++ (st.inHand.toList ++ st.service.inbox.items)
  /-- Callers are admitted in the order in which they lined up, less those who left. -/
  admitted : admittedOf site hs ++ st.service.inbox.waiting =
    (linedOf hs).filter (· ∉ departedOf site hs)
  /-- Whoever leaves gave up, or was refused because the controller is gone. -/
  departed : ∀ h ∈ hs, ∀ n ∈ h.departed site,
    h.move.by? = some n ∧ (h.ending? site = some .refused ∨ h.ending? site = some .gaveUp)
  /-- A query is answered with the state after exactly the items that entered before it. -/
  answers : ∀ n snapshot, .reply (.answered snapshot) ∈ endingsOf site n hs →
    ∃ pre rest, pre <+: turnsOf hs ∧ entriesOf site hs = pre.map Turn.item ++ .query n :: rest ∧
      snapshot.Tells (phaseAfter site pre) (legAfter site pre)

/-- Every request is accounted for. -/
theorem Served.accounted (h : Served site hs st) {n : Nat} {r : Request}
    (hmem : (n, r) ∈ requestsOf hs) :
    (endingsOf site n hs = [] ∧
      (putBy site n hs = [] ∨ r = .query ∧ putBy site n hs = [.query n])) ∨
    ∃ e, endingsOf site n hs = [e] ∧ Settled (turnsOf hs) n r e (putBy site n hs) := by
  have hrequest := h.requestOf?_of_mem hmem
  cases hends : endingsOf site n hs with
  | nil =>
    rcases (h.course n).pending hends with hput | ⟨hquery, hput⟩
    · exact .inl ⟨rfl, .inl hput⟩
    · exact .inl ⟨rfl, .inr ⟨Option.some.inj (hrequest.symm.trans hquery), hput⟩⟩
  | cons e rest =>
    obtain ⟨r', hr', hone, hsettled⟩ := (h.course n).settled (hends ▸ List.mem_cons_self)
    cases Option.some.inj (hrequest.symm.trans hr')
    exact .inr ⟨e, hends ▸ hone, hsettled⟩

/-- Whatever happens, in whatever order, the inbox keeps its promises. -/
theorem inbox_protocol (h : Served site hs st) : InboxProtocol site hs st := by
  have hpermits : st.service.inbox.items.countP Inbox.holdsPermit +
      st.service.inbox.granted.length + st.service.inbox.free =
        max 1 site.settings.inboxCapacity := by
    rw [← h.permits]
    unfold Inbox.permits
    omega
  have hqueue := h.queue
  -- each promise is an invariant that was shown before; three need a step more
  refine
    { permits := hpermits
      bounded := by omega
      unsent := fun n hn => ?_
      fair := ⟨(List.nodup_append.1 hqueue.line_nodup).1, hqueue.fair⟩
      immediate := fun happening hmem => h.queuesAtOnce hmem
      accounted := fun n r hmem => h.accounted hmem
      others := fun happening hmem hby => ?_
      ordered := h.handled_prefix
      complete := fun hnone => ?_
      admitted := hqueue.order
      departed := fun happening hmem n hn => h.departed hmem hn
      answers := fun n snapshot hanswer => h.answered_after hanswer }
  · obtain ⟨r, -, hput, -, hcaller⟩ := (h.course n).caller_of_lined hn
    exact ⟨hput, r, hcaller⟩
  · obtain ⟨pre, post, rfl⟩ := List.append_of_mem hmem
    exact (Stage.moved site h.before.2.1).completions hby
  · rcases h.order with ⟨hentries, -⟩ | ⟨⟨thrown, hmem, hthrown⟩, -⟩
    · exact hentries
    · exact absurd hthrown (hnone thrown hmem)

end

/-! ## A crowded inbox

  One permit, and three callers: the first has its message handled, the second is answered its query,
  and the third gives up in line.  The media server completes the operation of the first while the query
  holds the only permit. -/

namespace Crowd

/-- A site whose inbox has a single permit. -/
def site : Site Unit := { Sample.site with settings := { inboxCapacity := 1 } }

/-- The service before anything has happened. -/
def start : Stage Unit := ⟨{ controller := { desk := { outside := () } }, inbox := { free := 1 } }, none⟩

/-- What happens, in order. -/
def moves : List (Move Unit) :=
  [.begin, .ask 1 (.tell Sample.call (.createSession true .sendRecv "")), .ask 2 .query,
    .ask 3 (.tell Sample.call .createGroup), .look 1, .take, .look 2, .handle, .cancel 3,
    .complete ⟨.negotiation, 1⟩ Sample.offer.outcome, .take, .handle, .look 2, .take, .handle]

/-- The happenings that the moves amount to. -/
def history : List (Happening Unit) := (start.through site moves).1

/-- Where they lead. -/
def last : Stage Unit := (start.through site moves).2

/-- What the second caller is answered: the session is being opened, with an offer to be made, and the
    connection is there; the completion of the offer entered too late to be seen. -/
def answer : Snapshot :=
  { phase := .opening, active := none, conferencing := false, outbound := true, hasSession := true
    hasConnection := true, hasGroup := false, hasMixer := false, localSdp := none, remoteSdp := none
    observers := 0, owner := none, callRecording := false }

/-- Each move is allowed where it is made, and every request has its own number. -/
theorem served : Served site history last :=
  (Served.start () {} start.service rfl).through moves
    ⟨rfl, Nat.zero_lt_one, Nat.succ_pos _, Nat.succ_pos _, rfl, ⟨rfl, rfl, List.cons_ne_nil _ _⟩, rfl,
      ⟨rfl, Option.some_ne_none _⟩, rfl, List.mem_cons_self, ⟨rfl, rfl, List.cons_ne_nil _ _⟩,
      ⟨rfl, Option.some_ne_none _⟩, rfl, ⟨rfl, rfl, List.cons_ne_nil _ _⟩,
      ⟨rfl, Option.some_ne_none _⟩, trivial⟩
    (by decide)

end Crowd

/-- The crowd is served: two are admitted in order, one leaves, and the answer is what was so when the
    query had entered. -/
theorem inbox_protocol_crowded :
    InboxProtocol Crowd.site Crowd.history Crowd.last ∧
      entriesOf Crowd.site Crowd.history = [Sample.create, .query 2, .completion Sample.offer] ∧
      handledOf Crowd.history = entriesOf Crowd.site Crowd.history ∧
      admittedOf Crowd.site Crowd.history = [1, 2] ∧ departedOf Crowd.site Crowd.history = [3] ∧
      endingsOf Crowd.site 1 Crowd.history = [.reply .sent] ∧
      endingsOf Crowd.site 3 Crowd.history = [.gaveUp] ∧
      endingsOf Crowd.site 2 Crowd.history = [.reply (.answered Crowd.answer)] :=
  ⟨inbox_protocol Crowd.served, rfl, rfl, rfl, rfl, rfl, rfl, rfl⟩

end CallMedia
