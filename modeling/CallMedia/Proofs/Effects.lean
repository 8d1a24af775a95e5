/-
  What a desk shows of the work done at it.

  A handler is a function on desks, and most of what is claimed of controllers concerns two things only:
  the leg afterwards, and what was shown meanwhile, that is the requests to the media server and the
  stores with their answers, and the notices.  `Desk.Goes d shown d'` says that the work that led from
  `d` to `d'` showed exactly `shown`, in order, and fixes the rest of the desk from that:

    * the trace grew by `shown`, with lines of the journal between, all of them ordinary;
    * the sinks grew by those that the media server kept, the posted completions by those that it
      reported at once;
    * who listens, the files and the clock stayed as they were.

  The leg is left out, since each handler says on its own what becomes of it.  `Goes.refl` and
  `Goes.trans` compose, and every primitive of a desk has one lemma (`goes_tell`, `goes_create`, …), so
  that a handler is followed by naming its primitives.

  Three lines of the journal report what is never to happen: a change of phase that is refused, a failed
  negotiation that nobody waits for, and a notice for an owning call that is not there.  A line is
  ordinary if it is none of these.
-/
import CallMedia.Controller

namespace CallMedia

/-! ## Lines that report what is never to happen

Two lines of the journal report that the controller was in a phase in which it ought not to have been,
and a third that a call is missing.  All others are ordinary. -/

/-- A line that reports a change of phase that was refused. -/
def Line.RefusesChange (l : Line) : Prop :=
  l.level = .warn ∧ "Dropping ".toList <+: l.sentence.toList

/-- A line that reports the failure of a negotiation that was over. -/
def Line.FailsLate (l : Line) : Prop :=
  l.level = .error ∧ "Media session error: ".toList <+: l.sentence.toList

/-- A line that reports a notice for an owning call that is not there. -/
def Line.LacksCall (l : Line) : Prop :=
  l.level = .debug ∧ "No owning call".toList <+: l.sentence.toList

/-- A line that reports none of these. -/
def Line.Ordinary (l : Line) : Prop := ¬ l.RefusesChange ∧ ¬ l.FailsLate ∧ ¬ l.LacksCall

section

variable {sentence : String} {facts : List (String × String)}

/-- Lines that inform or trace are ordinary, whatever they say. -/
theorem Line.ordinary_info : Line.Ordinary ⟨.info, sentence, facts⟩ :=
  ⟨fun hr => (nomatch hr.1), fun hf => (nomatch hf.1), fun hc => (nomatch hc.1)⟩

theorem Line.ordinary_trace : Line.Ordinary ⟨.trace, sentence, facts⟩ :=
  ⟨fun hr => (nomatch hr.1), fun hf => (nomatch hf.1), fun hc => (nomatch hc.1)⟩

/-- A warning is ordinary unless it tells of something that is dropped. -/
theorem Line.ordinary_warn (h : ¬ "Dropping ".toList <+: sentence.toList) :
    Line.Ordinary ⟨.warn, sentence, facts⟩ :=
  ⟨fun hr => h hr.2, fun hf => (nomatch hf.1), fun hc => (nomatch hc.1)⟩

/-- An error is ordinary unless it tells of the session. -/
theorem Line.ordinary_error (h : ¬ "Media session error: ".toList <+: sentence.toList) :
    Line.Ordinary ⟨.error, sentence, facts⟩ :=
  ⟨fun hr => (nomatch hr.1), fun hf => h hf.2, fun hc => (nomatch hc.1)⟩

/-- A line for debugging is ordinary unless it misses the owning call. -/
theorem Line.ordinary_debug (h : ¬ "No owning call".toList <+: sentence.toList) :
    Line.Ordinary ⟨.debug, sentence, facts⟩ :=
  ⟨fun hr => (nomatch hr.1), fun hf => (nomatch hf.1), fun hc => h hc.2⟩

end

/-! ## What an effect shows

The journal tells nobody anything, so that two traces that differ in it alone are the same to everybody
else. -/

namespace Effect

/-- Whether an effect reaches beyond the journal. -/
def visible : Effect → Bool
  | logged _ => false
  | _ => true

/-- The notice that an effect gives, and to whom. -/
def notice? : Effect → Option (Recipient × Notice)
  | told r n _ => some (r, n)
  | _ => none

/-- The sink that an effect leaves with the media server. -/
def held? : Effect → Option Sink
  | started _ sink ⟨_, .held⟩ => some sink
  | _ => none

/-- The completion that an effect queues at once. -/
def reported? : Effect → Option Completion
  | started _ sink ⟨_, .completed outcome⟩ => sink.complete? outcome
  | _ => none

end Effect

/-- What does not look at the journal is the same with and without it. -/
theorem Effect.filterMap_visible {α : Type} {f : Effect → Option α}
    (hf : ∀ line, f (.logged line) = none) (es : List Effect) :
    (es.filter Effect.visible).filterMap f = es.filterMap f := by
  have hvisible : f = fun e => if e.visible = true then f e else none := by
    funext e
    cases e with
    | logged line => exact hf line
    | _ => rfl
  rw [List.filterMap_filter, ← hvisible]

/-- The notices among effects, in order. -/
def noticesOf (es : List Effect) : List (Recipient × Notice) := es.filterMap Effect.notice?

/-- Notices are given in the order of what happens. -/
theorem noticesOf_append (es es' : List Effect) :
    noticesOf (es ++ es') = noticesOf es ++ noticesOf es' := List.filterMap_append

/-! ## What surrounds a leg

The relations that follow are between legs.  What they need of the desk besides is gathered here, and
does not change while an item is handled, unless a sink is kept. -/

/-- All that the work at a desk reads besides the leg. -/
structure Surroundings where
  /-- Whether anybody could still send to the inbox. -/
  inboxOpen : Bool
  deaf : List String
  files : Files
  clock : Instant

namespace Surroundings

variable (w : Surroundings)

/-- Giving a recipient a notice. -/
def telling (r : Recipient) (n : Notice) : Effect := .told r n (decide (r.mailbox ∉ w.deaf))

/-- Giving the owning call a notice. -/
def tellingCall (l : Leg) (n : Notice) : List Effect := l.call.toList.map (fun r => w.telling r n)

/-- Giving every observer a notice. -/
def tellingAll (l : Leg) (n : Notice) : List Effect :=
  l.observers.toList.map (fun r => w.telling r n)

/-- A notice can be seen from outside, whether or not the mailbox takes it. -/
@[simp] theorem visible_telling (r : Recipient) (n : Notice) :
    (w.telling r n).visible = true := rfl

@[simp] theorem notice?_telling (r : Recipient) (n : Notice) :
    (w.telling r n).notice? = some (r, n) := rfl

/-- Whoever overlooks notices finds nothing among them. -/
theorem filterMap_telling {α : Type} {f : Effect → Option α}
    (hf : ∀ r n heard, f (.told r n heard) = none) (rs : List Recipient) (n : Notice) :
    (rs.map fun r => w.telling r n).filterMap f = [] := by
  rw [List.filterMap_map, List.filterMap_eq_nil_iff]
  intro r _
  exact hf r n _

/-- A filter that lets no notice through leaves nothing of giving notices. -/
theorem filter_telling {f : Effect → Bool} (hf : ∀ r n heard, f (.told r n heard) = false)
    (rs : List Recipient) (n : Notice) : (rs.map fun r => w.telling r n).filter f = [] := by
  refine List.filter_eq_nil_iff.2 fun e he => ?_
  obtain ⟨r, -, rfl⟩ := List.mem_map.1 he
  rw [telling, hf]
  exact Bool.false_ne_true

/-- Who is given a notice is told in the order of the list. -/
theorem noticesOf_telling (rs : List Recipient) (n : Notice) :
    noticesOf (rs.map fun r => w.telling r n) = rs.map fun r => (r, n) := by
  unfold noticesOf
  rw [List.filterMap_map]
  exact congrFun (List.filterMap_eq_map' (f := fun r => (r, n))) rs

/-- The owning call is given its notice once. -/
theorem noticesOf_tellingCall {l : Leg} {call : Recipient} (h : l.call = some call) (n : Notice) :
    noticesOf (w.tellingCall l n) = [(call, n)] := by
  unfold tellingCall
  rw [noticesOf_telling, h]
  rfl

/-- A notice hands over no sink, and reports no outcome. -/
@[simp] theorem held?_telling (r : Recipient) (n : Notice) : (w.telling r n).held? = none := rfl

@[simp] theorem reported?_telling (r : Recipient) (n : Notice) :
    (w.telling r n).reported? = none := rfl

end Surroundings

namespace Desk

variable {σ : Type} (site : Site σ) (d : Desk σ)

/-- What surrounds the leg of a desk. -/
def surroundings : Surroundings := ⟨d.inboxOpen, d.deaf, d.files, d.clock⟩

/-! ## Going from desk to desk

A handler writes to the trace as it goes.  `Goes` forgets the lines of the journal, and keeps
everything else that was done, in order. -/

/-- The work that led from `d` to `d'` showed exactly `shown`. -/
structure Goes (d : Desk σ) (shown : List Effect) (d' : Desk σ) : Prop where
  trace : ∃ done, d'.trace = d.trace ++ done ∧ done.filter Effect.visible = shown ∧
    ∀ l, .logged l ∈ done → l.Ordinary
  sinks : d'.sinks = d.sinks ++ shown.filterMap Effect.held?
  posted : d'.posted = d.posted ++ shown.filterMap Effect.reported?
  callers : d'.callers = d.callers
  deaf : d'.deaf = d.deaf
  files : d'.files = d.files
  clock : d'.clock = d.clock

variable {d} {d' d'' : Desk σ} {shown shown' : List Effect}

/-- A desk at which nothing happens goes nowhere. -/
theorem Goes.refl (d : Desk σ) : d.Goes [] d where
  trace := ⟨[], by simp⟩
  sinks := by simp
  posted := by simp
  callers := rfl
  deaf := rfl
  files := rfl
  clock := rfl

/-- What happens first comes before what happens then. -/
theorem Goes.trans (h : d.Goes shown d') (h' : d'.Goes shown' d'') :
    d.Goes (shown ++ shown') d'' := by
  obtain ⟨done, ht, hv, ho⟩ := h.trace
  obtain ⟨done', ht', hv', ho'⟩ := h'.trace
  refine ⟨⟨done ++ done', ?_, ?_, ?_⟩, ?_, ?_, ?_, ?_, ?_, ?_⟩
  · rw [ht', ht, List.append_assoc]
  · rw [List.filter_append, hv, hv']
  · intro l hl
    rcases List.mem_append.1 hl with hl | hl
    · exact ho l hl
    · exact ho' l hl
  · rw [h'.sinks, h.sinks, List.filterMap_append, List.append_assoc]
  · rw [h'.posted, h.posted, List.filterMap_append, List.append_assoc]
  · rw [h'.callers, h.callers]
  · rw [h'.deaf, h.deaf]
  · rw [h'.files, h.files]
  · rw [h'.clock, h.clock]

/-- Whom a notice reaches does not change on the way. -/
theorem Goes.telling (h : d.Goes shown d') : d'.surroundings.telling = d.surroundings.telling := by
  funext r n
  show Effect.told r n (decide (r.mailbox ∉ d'.deaf)) = Effect.told r n (decide (r.mailbox ∉ d.deaf))
  rw [h.deaf]

/-- Telling the call is the same act at any desk on the way, since the mailboxes stay as they are. -/
theorem Goes.tellingCall (h : d.Goes shown d') :
    d'.surroundings.tellingCall = d.surroundings.tellingCall := by
  funext l n
  unfold Surroundings.tellingCall
  rw [h.telling]

theorem Goes.tellingAll (h : d.Goes shown d') :
    d'.surroundings.tellingAll = d.surroundings.tellingAll := by
  funext l n
  unfold Surroundings.tellingAll
  rw [h.telling]

/-- Nothing around the leg changes as long as the media server keeps no sink. -/
theorem Goes.surroundings (h : d.Goes shown d') (hs : shown.filterMap Effect.held? = []) :
    d'.surroundings = d.surroundings := by
  have hsinks : d'.sinks = d.sinks := by rw [h.sinks, hs, List.append_nil]
  unfold Desk.surroundings inboxOpen
  rw [h.callers, hsinks, h.deaf, h.files, h.clock]

variable (d)

/-! ## The primitives

Every primitive of a desk goes one step, or none, and says what becomes of the leg. -/

/-- What is remembered of the leg is nothing that happens. -/
theorem goes_leg (l : Leg) : d.Goes [] { d with leg := l } :=
  ⟨⟨[], by simp⟩, by simp, by simp, rfl, rfl, rfl, rfl⟩

/-- An ordinary line is not counted among what happens, either. -/
theorem goes_log {level : Level} {sentence : String} {facts : List (String × String)}
    (h : Line.Ordinary ⟨level, sentence, facts⟩) : d.Goes [] (d.log level sentence facts) := by
  refine ⟨⟨[.logged ⟨level, sentence, facts⟩], rfl, rfl, ?_⟩, ?_, ?_, rfl, rfl, rfl, rfl⟩
  · intro l hl
    rw [List.mem_singleton, Effect.logged.injEq] at hl
    exact hl ▸ h
  · simp [log, note]
  · simp [log, note]

/-- Writing down something that keeps and queues nothing. -/
theorem goes_note (e : Effect) (hv : e.visible = true) (hh : e.held? = none)
    (hr : e.reported? = none) : d.Goes [e] (d.note e) := by
  refine ⟨⟨[e], rfl, by simp [hv], ?_⟩, by simp [note, hh], by simp [note, hr], rfl, rfl, rfl, rfl⟩
  intro l hl
  rw [List.mem_singleton] at hl
  rw [← hl] at hv
  cases hv

theorem goes_outside (outside : σ) : d.Goes [] { d with outside } :=
  ⟨⟨[], by simp⟩, by simp, by simp, rfl, rfl, rfl, rfl⟩

/-- Telling somebody shows one notice. -/
theorem goes_tell (r : Recipient) (n : Notice) :
    d.Goes [d.surroundings.telling r n] (d.tell r n) := by
  unfold tell Surroundings.telling Desk.surroundings
  split
  · next hdeaf =>
    have hline : Line.Ordinary
        ⟨.debug, "Recipient mailbox closed, dropping notice", [("recipient", r.id)]⟩ :=
      Line.ordinary_debug (by simp)
    have h := (d.goes_note (.told r n false) rfl rfl rfl).trans (goes_log _ hline)
    simpa [hdeaf] using h
  · next hdeaf =>
    simpa [hdeaf] using d.goes_note (.told r n true) rfl rfl rfl

/-- Telling the owning call shows one notice, if there is an owning call. -/
theorem goes_tellCall {call : Recipient} (h : d.leg.call = some call) (n : Notice) :
    d.Goes (d.surroundings.tellingCall d.leg n) (d.tellCall n) := by
  unfold tellCall Surroundings.tellingCall
  rw [h]
  exact d.goes_tell call n

/-- A broadcast shows one notice for each observer, in the order of registration. -/
theorem goes_broadcast (n : Notice) :
    d.Goes (d.surroundings.tellingAll d.leg n) (d.broadcast n) := by
  unfold broadcast Surroundings.tellingAll
  -- the register is the same at every desk on the way, so the induction is on a list of its own
  generalize d.leg.observers.toList = rs
  induction rs generalizing d with
  | nil => exact Goes.refl d
  | cons r rest ih =>
    have hr := d.goes_tell r n
    have hrest := ih (d.tell r n)
    rw [hr.telling] at hrest
    exact hr.trans hrest

variable {d} in
/-- Asking for something shows the request with its answer, and leaves the leg as it is. -/
theorem goes_create {what : Creation} {answer : Except Fault String}
    (h : d.create site what = (answer, d')) : d.Goes [.created what answer] d' ∧ d'.leg = d.leg := by
  cases h
  exact ⟨(d.goes_outside _).trans (goes_note _ (.created what _) rfl rfl rfl), rfl⟩

variable {d} in
theorem goes_perform {what : Command} {answer : Except Fault Unit}
    (h : d.perform site what = (answer, d')) :
    d.Goes [.performed what answer] d' ∧ d'.leg = d.leg := by
  cases h
  exact ⟨(d.goes_outside _).trans (goes_note _ (.performed what _) rfl rfl rfl), rfl⟩

variable {d} in
theorem goes_persist {store : String} {m : Recording.Metadata} {answer : Except Fault Unit}
    (h : d.persist site store m = (answer, d')) :
    d.Goes [.stored store m answer] d' ∧ d'.leg = d.leg := by
  cases h
  exact ⟨(d.goes_outside _).trans (goes_note _ (.stored store m _) rfl rfl rfl), rfl⟩

/-- An operation is started, and its sink is kept, used or dropped. -/
theorem goes_startArmed (what : Operation) (sink : Sink) :
    ∃ fate, d.Goes [.started what sink ⟨(d.startArmed site what sink).1, fate⟩]
      (d.startArmed site what sink).2 := by
  unfold startArmed
  rcases site.start d.outside what sink with ⟨⟨result, fate⟩, outside⟩
  have hline : ∀ l, .logged l ∈ [Effect.started what sink ⟨result, fate⟩] → l.Ordinary := by
    intro l hl
    rw [List.mem_singleton] at hl
    cases hl
  cases fate with
  | completed outcome =>
    refine ⟨.completed outcome, ⟨_, rfl, rfl, hline⟩, ?_, ?_, rfl, rfl, rfl, rfl⟩
    · simp [settleSink, note, Effect.held?]
    · cases h : sink.complete? outcome <;> simp [settleSink, note, Effect.reported?, h]
  | held =>
    refine ⟨.held, ⟨_, rfl, rfl, hline⟩, ?_, ?_, rfl, rfl, rfl, rfl⟩
    · simp [settleSink, note, Effect.held?]
    · simp [settleSink, note, Effect.reported?]
  | dropped =>
    refine ⟨.dropped, ⟨_, rfl, rfl, hline⟩, ?_, ?_, rfl, rfl, rfl, rfl⟩
    · simp [settleSink, note, Effect.held?]
    · simp [settleSink, note, Effect.reported?]

/-- Replacing a slot only changes the leg. -/
theorem goes_setSlot (c : Category) (s : Slot) : d.Goes [] (d.setSlot c s) := d.goes_leg _

/-! ## One primitive further

A handler is a sequence of primitives.  These lemmas append one to the way so far, and the proofs about
handlers are made of them. -/

variable {d}

/-- From here on, what a desk does after it has gone some way: first, remember something of the leg. -/
theorem Goes.leg (h : d.Goes shown d') (l : Leg) : d.Goes shown { d' with leg := l } := by
  rw [← List.append_nil shown]
  exact h.trans (d'.goes_leg l)

theorem Goes.log {level : Level} {sentence : String} {facts : List (String × String)}
    (h : d.Goes shown d') (hline : Line.Ordinary ⟨level, sentence, facts⟩) :
    d.Goes shown (d'.log level sentence facts) := by
  rw [← List.append_nil shown]
  exact h.trans (d'.goes_log hline)

theorem Goes.info (h : d.Goes shown d') (sentence : String) :
    d.Goes shown (d'.log .info sentence []) :=
  h.log Line.ordinary_info

theorem Goes.tell (h : d.Goes shown d') (r : Recipient) (n : Notice) :
    d.Goes (shown ++ [d.surroundings.telling r n]) (d'.tell r n) := by
  rw [← h.telling]
  exact h.trans (d'.goes_tell r n)

theorem Goes.tellCall {call : Recipient} (h : d.Goes shown d') (hc : d'.leg.call = some call)
    (n : Notice) : d.Goes (shown ++ d.surroundings.tellingCall d'.leg n) (d'.tellCall n) := by
  rw [← h.tellingCall]
  exact h.trans (goes_tellCall d' hc n)

theorem Goes.broadcast (h : d.Goes shown d') (n : Notice) :
    d.Goes (shown ++ d.surroundings.tellingAll d'.leg n) (d'.broadcast n) := by
  rw [← h.tellingAll]
  exact h.trans (d'.goes_broadcast n)

end Desk

end CallMedia
