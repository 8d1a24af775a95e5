/-
  Desks that are alike but for their observers.

  Who observes a leg is read in one place only, where a notice is broadcast, and written in two, where an
  observer registers and where one is removed.  So of two desks that differ in nothing but the register
  and the closed mailboxes (`Twins`), every handler makes two such desks again, and in doing so it asks
  the media server and the stores for the same things, gets the same answers, and gives the same notices
  to everybody else (`Alike`).

  The argument has no cases of its own: there is one lemma for each primitive and one for each handler,
  in the order in which they are defined, and each follows its handler.  A handler that broadcasts needs
  to know that its broadcasts are left out of the comparison; that is what the parameter `b` is for,
  which marks the notices that are meant for the observers.
-/
import CallMedia.Proofs.Run

namespace CallMedia

/-- What an effect comes to for everybody but the observers, whose notices are marked by `b`.  Whether
    a mailbox took a notice is left out: mailboxes are closed from outside. -/
def Effect.besides (b : Notice → Bool) : Effect → Option Effect
  | logged _ => none
  | told r n _ => if b n then none else some (.told r n true)
  | e => some e

/-- The call recording is taken out whoever observes. -/
theorem Leg.takeRecording_observers (l : Leg) (os : Observers) (g : Nat) :
    ({ l with observers := os } : Leg).takeRecording g =
      ((l.takeRecording g).1, { (l.takeRecording g).2 with observers := os }) := by
  rcases l.takeRecording_cases g with ⟨r, hr, hg, ht⟩ | ⟨hr, ht⟩
  · rcases Leg.takeRecording_cases { l with observers := os } g with ⟨r', hr', hg', ht'⟩ | ⟨hr', ht'⟩
    · cases hr.symm.trans hr'
      rw [ht, ht']
    · exact absurd hg (hr' r hr)
  · rcases Leg.takeRecording_cases { l with observers := os } g with ⟨r', hr', hg', ht'⟩ | ⟨hr', ht'⟩
    · exact absurd hg' (hr r' hr')
    · rw [ht, ht']

namespace Desk

variable {σ : Type}

/-- Two desks that differ in their observers, their closed mailboxes and their traces at most. -/
structure Twins (d d' : Desk σ) : Prop where
  leg : d'.leg = { d.leg with observers := d'.leg.observers }
  outside : d'.outside = d.outside
  callers : d'.callers = d.callers
  sinks : d'.sinks = d.sinks
  posted : d'.posted = d.posted
  files : d'.files = d.files
  clock : d'.clock = d.clock

/-- Two such desks, of which the same is written down since `t` and `t'`, but for what `b` marks. -/
structure Alike (b : Notice → Bool) (t t' : List Effect) (d d' : Desk σ) : Prop extends Twins d d' where
  trace : ∃ es es', d.trace = t ++ es ∧ d'.trace = t' ++ es' ∧
    es'.filterMap (Effect.besides b) = es.filterMap (Effect.besides b)

/-- The same answer, given at two desks that are alike. -/
def AlikeWith {α : Type} (b : Notice → Bool) (t t' : List Effect) (x x' : α × Desk σ) : Prop :=
  ∃ a d d', x = (a, d) ∧ x' = (a, d') ∧ d.Alike b t t' d'

/-- Whatever the answer, the desks are alike. -/
theorem AlikeWith.snd {α : Type} {b : Notice → Bool} {t t' : List Effect} {x x' : α × Desk σ}
    (h : AlikeWith b t t' x x') : x.2.Alike b t t' x'.2 := by
  obtain ⟨a, d, d', rfl, rfl, hd⟩ := h
  exact hd

namespace Twins

/-- A desk is its own twin. -/
theorem refl (d : Desk σ) : d.Twins d := ⟨rfl, rfl, rfl, rfl, rfl, rfl, rfl⟩

variable {d d' d'' : Desk σ}

/-- Being twins is symmetric: the second register is as good as the first. -/
theorem symm (h : d.Twins d') : d'.Twins d where
  leg := by rw [h.leg]
  outside := h.outside.symm
  callers := h.callers.symm
  sinks := h.sinks.symm
  posted := h.posted.symm
  files := h.files.symm
  clock := h.clock.symm

/-- Being twins is transitive, for the registers in between play no part. -/
theorem trans (h : d.Twins d') (h' : d'.Twins d'') : d.Twins d'' where
  leg := by rw [h'.leg, h.leg]
  outside := h'.outside.trans h.outside
  callers := h'.callers.trans h.callers
  sinks := h'.sinks.trans h.sinks
  posted := h'.posted.trans h.posted
  files := h'.files.trans h.files
  clock := h'.clock.trans h.clock

/-- Whatever does not look at the observers is the same. -/
theorem read (h : d.Twins d') {α : Type} (f : Leg → α)
    (hf : ∀ l os, f { l with observers := os } = f l) : f d'.leg = f d.leg := by
  rw [h.leg]
  exact hf d.leg _

/-- Whether an operation can be armed is the same at both: the callers and the sinks kept are. -/
theorem inboxOpen (h : d.Twins d') : d'.inboxOpen = d.inboxOpen := by
  unfold Desk.inboxOpen
  rw [h.callers, h.sinks]

/-- Nothing written down yet, two desks are alike. -/
theorem alike (h : d.Twins d') (b : Notice → Bool) : d.Alike b d.trace d'.trace d' :=
  { h with trace := ⟨[], [], (List.append_nil _).symm, (List.append_nil _).symm, rfl⟩ }

end Twins

/-! ## Opening a session, step by step

The handler is long, and so it is cut into the steps that the lemmas below go through one by one. -/

section

variable (site : Site σ) (d : Desk σ)

/-- The owning call is the one that will hear of the negotiation. -/
def callBound : Desk σ :=
  match d.leg.call with
  | some call => d.bind .negotiation call
  | none => d

/-- The last step: the negotiation is started on the connection. -/
def firstExchange (connection : ConnectionHandle) : Except Fault Unit × Desk σ :=
  d.callBound.negotiate site (firstStep d.callBound.leg connection)

/-- The step before: a connection is allocated. -/
def connect (session : SessionHandle) : Except Fault Unit × Desk σ :=
  match d.create site (.connection session d.leg.mode) with
  | (.error e, d) => (.error e, d)
  | (.ok name, d) =>
    firstExchange site { d with leg := { d.leg with connection := some ⟨name⟩ } } ⟨name⟩

/-- Opening a session is the creation of one and then the step above.  The three steps are one
    definition at the desk; taken apart, each has its own lemma below. -/
theorem openSession_eq :
    d.openSession site =
      match d.create site .session with
      | (.error e, d) => (.error e, d)
      | (.ok name, d) =>
        connect site { d with leg := { d.leg with session := some ⟨name⟩ } } ⟨name⟩ := rfl

end

/-! ## Primitives

What is written down at both desks is the same but for what is marked; all else that a primitive reads
is the same at both. -/

/-- What giving a notice writes down, and what of it counts. -/
theorem tell_written (b : Notice → Bool) (r : Recipient) (n : Notice) (d : Desk σ) :
    ∃ es, d.tell r n = { d with trace := d.trace ++ es } ∧
      es.filterMap (Effect.besides b) = if b n then [] else [.told r n true] := by
  -- a closed mailbox makes a difference to the flag, and to the journal
  unfold tell
  split
  · refine ⟨[.told r n false, .logged _], by simp [note, log]; rfl, ?_⟩
    cases hb : b n <;> simp [Effect.besides, hb]
  · refine ⟨[.told r n true], rfl, ?_⟩
    cases hb : b n <;> simp [Effect.besides, hb]

/-- What a broadcast writes down does not count, where it is marked. -/
theorem broadcast_written {b : Notice → Bool} {n : Notice} (hb : b n = true) (d : Desk σ) :
    ∃ es, d.broadcast n = { d with trace := d.trace ++ es } ∧
      es.filterMap (Effect.besides b) = [] := by
  unfold broadcast
  generalize d.leg.observers.toList = rs
  induction rs generalizing d with
  | nil => exact ⟨[], by simp, rfl⟩
  | cons r rs ih =>
    obtain ⟨es, htell, hes⟩ := tell_written b r n d
    obtain ⟨es', hrest, hes'⟩ := ih (d.tell r n)
    rw [hb, if_pos rfl] at hes
    refine ⟨es ++ es', ?_, ?_⟩
    · rw [List.foldl_cons, hrest, htell, List.append_assoc]
    · rw [List.filterMap_append, hes, hes', List.append_nil]

namespace Alike

variable {b : Notice → Bool} {t t' : List Effect} {d d' : Desk σ}

/-- Both desks have more written down, and the same of it counts. -/
theorem write (h : d.Alike b t t' d') {es es' : List Effect}
    (hes : es'.filterMap (Effect.besides b) = es.filterMap (Effect.besides b)) :
    Alike b t t' { d with trace := d.trace ++ es } { d' with trace := d'.trace ++ es' } := by
  obtain ⟨fs, fs', ht, ht', hfs⟩ := h.trace
  refine { h.toTwins with trace := ⟨fs ++ es, fs' ++ es', ?_, ?_, ?_⟩ }
  · simp [ht]
  · simp [ht']
  · simp only [List.filterMap_append, hfs, hes]

theorem note (h : d.Alike b t t' d') (e : Effect) : Alike b t t' (d.note e) (d'.note e) :=
  h.write rfl

/-- Lines of the journal do not count, and may differ. -/
theorem log (h : d.Alike b t t' d') {level level' : Level} {sentence sentence' : String}
    {facts facts' : List (String × String)} :
    Alike b t t' (d.log level sentence facts) (d'.log level' sentence' facts') :=
  h.write rfl

/-- The lines that report progress are one case of that. -/
theorem info (h : d.Alike b t t' d') (sentence : String) :
    Alike b t t' (d.log .info sentence []) (d'.log .info sentence []) := h.log

/-- The leg is changed in a way that has nothing to do with the observers. -/
theorem change (h : d.Alike b t t' d') (f : Leg → Leg)
    (hf : ∀ l os, f { l with observers := os } = { f l with observers := os }) :
    Alike b t t' { d with leg := f d.leg } { d' with leg := f d'.leg } := by
  refine { h with leg := ?_ }
  show f d'.leg = { f d.leg with observers := (f d'.leg).observers }
  rw [h.leg, hf]

/-- A notice to one recipient counts as given at both desks, taken or not. -/
theorem tell (h : d.Alike b t t' d') (r : Recipient) (n : Notice) :
    Alike b t t' (d.tell r n) (d'.tell r n) := by
  obtain ⟨es, htell, hes⟩ := tell_written b r n d
  obtain ⟨es', htell', hes'⟩ := tell_written b r n d'
  rw [htell, htell']
  exact h.write (hes'.trans hes.symm)

/-- The owning call is the same at both desks, so its notices are too. -/
theorem tellCall (h : d.Alike b t t' d') (n : Notice) :
    Alike b t t' (d.tellCall n) (d'.tellCall n) := by
  unfold Desk.tellCall
  rw [h.read Leg.call fun _ _ => rfl]
  cases d.leg.call with
  | none => exact h.log
  | some call => exact h.tell call n

/-- A broadcast goes to other observers, and does not count. -/
theorem broadcast (h : d.Alike b t t' d') {n : Notice} (hb : b n = true) :
    Alike b t t' (d.broadcast n) (d'.broadcast n) := by
  obtain ⟨es, htell, hes⟩ := broadcast_written hb d
  obtain ⟨es', htell', hes'⟩ := broadcast_written hb d'
  rw [htell, htell']
  exact h.write (hes'.trans hes.symm)

/-- What is outside has become the same. -/
theorem meet (h : d.Alike b t t' d') (outside : σ) :
    Alike b t t' { d with outside } { d' with outside } :=
  { h with outside := rfl }

variable (site : Site σ)

/-- Asking for something is asking the same thing of the same server, and gets one answer. -/
theorem create (h : d.Alike b t t' d') (what : Creation) :
    AlikeWith b t t' (d.create site what) (d'.create site what) := by
  unfold Desk.create
  rw [h.outside]
  exact ⟨_, _, _, rfl, rfl, (h.meet _).note _⟩

theorem perform (h : d.Alike b t t' d') (what : Command) :
    AlikeWith b t t' (d.perform site what) (d'.perform site what) := by
  unfold Desk.perform
  rw [h.outside]
  exact ⟨_, _, _, rfl, rfl, (h.meet _).note _⟩

theorem persist (h : d.Alike b t t' d') (store : String) (m : Recording.Metadata) :
    AlikeWith b t t' (d.persist site store m) (d'.persist site store m) := by
  unfold Desk.persist
  rw [h.outside]
  exact ⟨_, _, _, rfl, rfl, (h.meet _).note _⟩

/-- What becomes of a sink is decided by the server, and so in the same way at both desks. -/
theorem settleSink (h : d.Alike b t t' d') (sink : Sink) (fate : SinkFate) :
    Alike b t t' (d.settleSink sink fate) (d'.settleSink sink fate) := by
  cases fate with
  | completed outcome => exact { h with posted := congrArg (· ++ _) h.posted }
  | held => exact { h with sinks := congrArg (· ++ _) h.sinks }
  | dropped => exact h

/-- Starting an operation is one more question, and its sink goes the same way. -/
theorem startArmed (h : d.Alike b t t' d') (what : Operation) (sink : Sink) :
    AlikeWith b t t' (d.startArmed site what sink) (d'.startArmed site what sink) := by
  unfold Desk.startArmed
  rw [h.outside]
  exact ⟨_, _, _, rfl, rfl, ((h.meet _).note _).settleSink _ _⟩

/-- The slots are the same: they are no part of the register. -/
theorem slot (h : d.Alike b t t' d') (c : Category) : d'.leg.slot c = d.leg.slot c :=
  h.read (·.slot c) fun _ _ => rfl

theorem setSlot (h : d.Alike b t t' d') (c : Category) (s : Slot) :
    Alike b t t' (d.setSlot c s) (d'.setSlot c s) :=
  h.change (·.setSlot c s) fun _ _ => rfl

theorem bind (h : d.Alike b t t' d') (c : Category) (r : Recipient) :
    Alike b t t' (d.bind c r) (d'.bind c r) := by
  unfold Desk.bind
  rw [h.slot]
  exact h.setSlot c _

theorem disarm (h : d.Alike b t t' d') (c : Category) :
    Alike b t t' (d.disarm c) (d'.disarm c) := by
  unfold Desk.disarm
  rw [h.slot]
  exact h.setSlot c _

/-- An operation is launched at both desks, with one generation and one result, or at neither. -/
theorem launch (h : d.Alike b t t' d') (what : Operation) :
    AlikeWith b t t' (d.launch site what) (d'.launch site what) := by
  unfold Desk.launch
  dsimp only
  rw [h.slot, h.inboxOpen]
  -- nothing can be armed once the inbox is closed, and the inbox is open at both or at neither
  cases (d.leg.slot what.category).arm d.inboxOpen with
  | none => exact ⟨_, d, d', rfl, rfl, h⟩
  | some armed =>
    -- the slot is moved on before the server is asked, and disarmed again if the server refuses
    obtain ⟨result, d₁, d₁', hask, hask', h₁⟩ :=
      (h.setSlot what.category armed.2).startArmed site what ⟨what.category, armed.1⟩
    dsimp only
    rw [hask, hask']
    cases result with
    | ok u => exact ⟨_, d₁, d₁', rfl, rfl, h₁⟩
    | error e => exact ⟨_, _, _, rfl, rfl, h₁.disarm what.category⟩

/-! ## Session

The observers have no part in opening, renegotiating or releasing a session. -/

/-- A step of the negotiation is launched. -/
theorem negotiate (h : d.Alike b t t' d') (what : Operation) :
    AlikeWith b t t' (d.negotiate site what) (d'.negotiate site what) := by
  obtain ⟨result, d₁, d₁', hask, hask', h₁⟩ := h.launch site what
  unfold Desk.negotiate
  rw [hask, hask']
  cases result with
  | ok g => exact ⟨_, d₁, d₁', rfl, rfl, h₁⟩
  | error e => exact ⟨_, d₁, d₁', rfl, rfl, h₁⟩

/-- The first step depends on the direction and the description of the leg, not on its observers. -/
theorem firstExchange (h : d.Alike b t t' d') (connection : ConnectionHandle) :
    AlikeWith b t t' (d.firstExchange site connection) (d'.firstExchange site connection) := by
  have hbound : Alike b t t' d.callBound d'.callBound := by
    unfold callBound
    rw [h.read Leg.call fun _ _ => rfl]
    cases d.leg.call with
    | none => exact h
    | some call => exact h.bind .negotiation call
  unfold Desk.firstExchange
  rw [hbound.read (firstStep · connection) fun _ _ => rfl]
  exact hbound.negotiate site _

/-- A connection is allocated in the mode of the leg. -/
theorem connect (h : d.Alike b t t' d') (session : SessionHandle) :
    AlikeWith b t t' (d.connect site session) (d'.connect site session) := by
  unfold Desk.connect
  rw [h.read Leg.mode fun _ _ => rfl]
  obtain ⟨result, d₁, d₁', hask, hask', h₁⟩ := h.create site (.connection session d.leg.mode)
  rw [hask, hask']
  cases result with
  | error e => exact ⟨_, d₁, d₁', rfl, rfl, h₁⟩
  | ok name =>
    exact (h₁.change (fun l => { l with connection := some ⟨name⟩ }) fun _ _ => rfl).firstExchange
      site ⟨name⟩

/-- The three steps of opening a session, one after the other. -/
theorem openSession (h : d.Alike b t t' d') :
    AlikeWith b t t' (d.openSession site) (d'.openSession site) := by
  rw [openSession_eq, openSession_eq]
  obtain ⟨result, d₁, d₁', hask, hask', h₁⟩ := h.create site .session
  rw [hask, hask']
  cases result with
  | error e => exact ⟨_, d₁, d₁', rfl, rfl, h₁⟩
  | ok name =>
    exact (h₁.change (fun l => { l with session := some ⟨name⟩ }) fun _ _ => rfl).connect site ⟨name⟩

/-- A new description is answered on the connection there is, if there is one. -/
theorem renegotiate (h : d.Alike b t t' d') :
    AlikeWith b t t' (d.renegotiate site) (d'.renegotiate site) := by
  unfold Desk.renegotiate
  rw [h.read Leg.connection fun _ _ => rfl, h.read Leg.remoteSdp fun _ _ => rfl]
  cases d.leg.connection with
  | none => exact ⟨_, d, d', rfl, rfl, h⟩
  | some connection => exact h.negotiate site _

/-- Releasing a session asks the server once, and forgets the handles whatever it answers. -/
theorem release (h : d.Alike b t t' d') : Alike b t t' (d.release site) (d'.release site) := by
  have hreleased : ∀ {d d' : Desk σ}, Alike b t t' d d' →
      Alike b t t' { d with leg := d.leg.released } { d' with leg := d'.leg.released } :=
    fun h => h.change Leg.released fun _ _ => rfl
  unfold Desk.release
  rw [h.read Leg.session fun _ _ => rfl]
  cases d.leg.session with
  | none => exact hreleased h
  | some session =>
    obtain ⟨answer, d₁, d₁', hask, hask', h₁⟩ := h.perform site (.releaseSession session)
    dsimp only
    rw [hask, hask']
    cases answer with
    | ok u => exact hreleased h₁
    | error e => exact hreleased h₁.log

/-! ## Group

Making a group asks three things at most: for the group, for the connection to join it, and, where that
fails, for the group to be released again.  None of the questions depends on an observer. -/

/-- A group is allocated, and the connection joined to it. -/
theorem allocateGroup (h : d.Alike b t t' d') (session : SessionHandle) :
    AlikeWith b t t' (d.allocateGroup site session) (d'.allocateGroup site session) := by
  unfold Desk.allocateGroup
  rw [h.read Leg.connection fun _ _ => rfl]
  cases d.leg.connection with
  | none => exact ⟨_, d, d', rfl, rfl, h⟩
  | some connection =>
    obtain ⟨created, d₁, d₁', hask₁, hask₁', h₁⟩ := h.create site (.group session)
    dsimp only
    rw [hask₁, hask₁']
    cases created with
    | error e => exact ⟨_, d₁, d₁', rfl, rfl, h₁⟩
    | ok name =>
      obtain ⟨joined, d₂, d₂', hask₂, hask₂', h₂⟩ :=
        h₁.perform site (.join connection .duplex (.group ⟨name⟩))
      dsimp only
      rw [hask₂, hask₂']
      cases joined with
      | ok u =>
        exact ⟨_, _, _, rfl, rfl,
          h₂.log.change (fun l => { l with group := some ⟨name⟩ }) fun _ _ => rfl⟩
      | error e =>
        -- a group that cannot be joined is released again; that it stays behind is a line in the
        -- journal at most
        obtain ⟨answer, d₃, d₃', hask₃, hask₃', h₃⟩ := h₂.perform site (.releaseGroup ⟨name⟩)
        dsimp only
        rw [hask₃, hask₃']
        cases answer with
        | ok u => exact ⟨_, d₃, d₃', rfl, rfl, h₃⟩
        | error stuck => exact ⟨_, _, _, rfl, rfl, h₃.log⟩

/-- Whoever asked for the group is answered, and nobody else. -/
theorem createGroup (h : d.Alike b t t' d') (sender : Recipient) :
    Alike b t t' (d.createGroup site sender) (d'.createGroup site sender) := by
  unfold Desk.createGroup
  rw [h.read Leg.group fun _ _ => rfl, h.read Leg.session fun _ _ => rfl]
  split
  · exact h.log
  · cases d.leg.session with
    | none => exact h.tell _ _
    | some session =>
      obtain ⟨result, d₁, d₁', hask, hask', h₁⟩ := h.allocateGroup site session
      dsimp only
      rw [hask, hask']
      cases result with
      | ok u => exact h₁.tell _ _
      | error e => exact h₁.log.tell _ _

/-- The owning call hears that the group is gone, or whoever asked where there is no owning call. -/
theorem destroyGroup (h : d.Alike b t t' d') (sender : Recipient) :
    Alike b t t' (d.destroyGroup site sender) (d'.destroyGroup site sender) := by
  have hanswered : ∀ {d d' : Desk σ}, Alike b t t' d d' →
      Alike b t t' (d.tell (d.leg.call.getD sender) .groupDestroyed)
        (d'.tell (d'.leg.call.getD sender) .groupDestroyed) := by
    intro d d' h
    rw [h.read Leg.call fun _ _ => rfl]
    exact h.tell _ _
  unfold Desk.destroyGroup
  rw [h.read Leg.group fun _ _ => rfl]
  cases d.leg.group with
  | none => exact hanswered h
  | some group =>
    obtain ⟨answer, d₁, d₁', hask, hask', h₁⟩ :=
      (h.change (fun l => { l with group := none, active := none }) fun _ _ => rfl).perform site
        (.releaseGroup group)
    dsimp only
    rw [hask, hask']
    cases answer with
    | ok u => exact hanswered h₁
    | error e => exact hanswered h₁.log

/-! ## Activities

An activity that the media server refuses is reported to the observers, and this is the one notice to
them that depends on how a question was answered.  So the three lemmas about starting one assume that
`b` marks everything, as soon as the group is idle and a question is asked at all. -/

/-- What is made of the answer to a start: something is in flight, or the observers hear of the
    refusal. -/
theorem started (h : d.Alike b t t' d') {a : Activity}
    (hb : ∀ e, b (.operationResult a (.error e)) = true) (answer : Except Fault Nat) :
    AlikeWith b t t' (started a (answer, d)) (started a (answer, d')) := by
  unfold Desk.started
  cases answer with
  | ok g =>
    exact ⟨_, _, _, rfl, rfl, h.change (fun l => { l with active := some ⟨a, g⟩ }) fun _ _ => rfl⟩
  | error e => exact ⟨_, _, _, rfl, rfl, (h.log.disarm (.group a)).broadcast (hb e)⟩

/-- A refusal without a question goes to whoever asked. -/
theorem refuse (h : d.Alike b t t' d') (sender : Recipient) (a : Activity) (e : Fault) :
    Alike b t t' (d.refuse sender a e) (d'.refuse sender a e) :=
  h.tell _ _

/-- Whether the group is idle is the same at both desks. -/
theorem idleGroup (h : d.Alike b t t' d') (a : Activity) :
    d'.leg.idleGroup a = d.leg.idleGroup a :=
  h.read (·.idleGroup a) fun _ _ => rfl

theorem play (h : d.Alike b t t' d')
    (hb : ∀ group, d.leg.idleGroup .playback = .ok group → ∀ n, b n = true)
    (sender : Recipient) (order : PlayOrder) :
    Alike b t t' (d.play site sender order) (d'.play site sender order) := by
  unfold Desk.play
  rw [h.idleGroup]
  cases hidle : d.leg.idleGroup .playback with
  | error e => exact h.refuse sender .playback e
  | ok group =>
    obtain ⟨result, d₁, d₁', hask, hask', h₁⟩ :=
      (h.bind (.group .playback) sender).launch site (.play group order.request)
    dsimp only
    rw [hask, hask']
    exact (h₁.started (fun e => hb group hidle _) result).snd

/-- Collecting digits, where one question comes before the start. -/
theorem collect (h : d.Alike b t t' d')
    (hb : ∀ group, d.leg.idleGroup .digitCollection = .ok group → ∀ n, b n = true)
    (sender : Recipient) (order : CollectOrder) :
    Alike b t t' (d.collect site sender order) (d'.collect site sender order) := by
  unfold Desk.collect
  rw [h.idleGroup]
  cases hidle : d.leg.idleGroup .digitCollection with
  | error e => exact h.refuse sender .digitCollection e
  | ok group =>
    obtain ⟨answer, d₁, d₁', hask, hask', h₁⟩ :=
      (h.bind (.group .digitCollection) sender).perform site (.flushDigits group)
    dsimp only
    rw [hask, hask']
    cases answer with
    -- the digits could not be flushed: the start is given up, and reported as if refused
    | error e => exact (h₁.started (fun e => hb group hidle _) (.error e)).snd
    | ok u =>
      obtain ⟨result, d₂, d₂', hask₂, hask₂', h₂⟩ := h₁.launch site (.collect group order.request)
      dsimp only
      rw [hask₂, hask₂']
      exact (h₂.started (fun e => hb group hidle _) result).snd

/-- Recording, where the key that ends it is remembered first. -/
theorem record (h : d.Alike b t t' d')
    (hb : ∀ group, d.leg.idleGroup .recording = .ok group → ∀ n, b n = true)
    (sender : Recipient) (order : RecordOrder) :
    AlikeWith b t t' (d.record site sender order) (d'.record site sender order) := by
  unfold Desk.record
  rw [h.idleGroup]
  cases hidle : d.leg.idleGroup .recording with
  | error e => exact ⟨_, _, _, rfl, rfl, h.refuse sender .recording e⟩
  | ok group =>
    have hnoted := h.change (fun l => { l with endKey := order.endInputKey.getD "" }) fun _ _ => rfl
    obtain ⟨result, d₁, d₁', hask, hask', h₁⟩ := (hnoted.bind (.group .recording) sender).launch site
      (.record group (order.request site.settings.recordInterSignalTimeoutMs))
    dsimp only at hask hask' ⊢
    rw [hask, hask']
    exact h₁.started (fun e => hb group hidle _) result

/-- Recording the call is a recording that is remembered, once the media server has accepted it. -/
theorem startRecording (h : d.Alike b t t' d')
    (hb : ∀ group, d.leg.idleGroup .recording = .ok group → ∀ n, b n = true)
    (sender : Recipient) (order : CallRecordingOrder) :
    Alike b t t' (d.startRecording site sender order) (d'.startRecording site sender order) := by
  unfold Desk.startRecording
  have hnoted := (h.change (·.remember (some order.accountId) order.store) fun _ _ => rfl).info
    s!"Start recording call to {order.uri.text}"
  obtain ⟨result, d₁, d₁', hask, hask', h₁⟩ :=
    hnoted.record site hb sender (recordingOrder site.settings.callRecording order)
  dsimp only at hask hask' ⊢
  rw [hask, hask']
  cases result with
  | none => exact h₁
  | some generation =>
    -- the time of the start is read off the desk's clock, which is one and the same
    have hkept : ∀ clock, clock = d₁.clock → Alike b t t'
        { d₁ with leg := recordingSince order d₁.clock d₁.leg (some generation) }
        { d₁' with leg := recordingSince order clock d₁'.leg (some generation) } := by
      rintro clock rfl
      exact h₁.change (recordingSince order d₁.clock · (some generation)) fun _ _ => rfl
    exact hkept d₁'.clock h₁.clock

/-! ## Stopping

A stop is told to the observers only where the group as a whole is stopped; the other ways to stop are
silent, or speak to the owning call. -/

/-- What is in flight is stopped, and forgotten before the server answers. -/
theorem stopActive (h : d.Alike b t t' d') :
    AlikeWith b t t' (d.stopActive site) (d'.stopActive site) := by
  have hidle := h.change (fun l => { l with active := none }) fun _ _ => rfl
  have hgroup := h.read Leg.group fun _ _ => rfl
  have hactive := h.read Leg.active fun _ _ => rfl
  unfold Desk.stopActive
  dsimp only at hidle ⊢
  -- the two desks are given names, so that nothing is rewritten in them
  generalize ({ d with leg := { d.leg with active := none } } : Desk σ) = e at hidle ⊢
  generalize ({ d' with leg := { d'.leg with active := none } } : Desk σ) = e' at hidle ⊢
  rw [hgroup, hactive]
  cases d.leg.group with
  | none => exact ⟨_, _, _, rfl, rfl, hidle⟩
  | some group =>
    cases d.leg.active with
    | none => exact ⟨_, _, _, rfl, rfl, hidle⟩
    | some a =>
      obtain ⟨answer, d₁, d₁', hask, hask', h₁⟩ := hidle.perform site (.stop a.activity group)
      dsimp only
      rw [hask, hask']
      cases answer with
      | ok u => exact ⟨_, _, _, rfl, rfl, h₁.log⟩
      | error e => exact ⟨_, d₁, d₁', rfl, rfl, h₁⟩

/-- The group is stopped, and the observers hear of it. -/
theorem stopGroup (h : d.Alike b t t' d') (hb : ∀ n, b n = true) :
    Alike b t t' (d.stopGroup site) (d'.stopGroup site) := by
  obtain ⟨result, d₁, d₁', hask, hask', h₁⟩ := h.stopActive site
  unfold Desk.stopGroup
  rw [hask, hask']
  cases result with
  | ok was => exact h₁.broadcast (hb _)
  | error e => exact h₁.log.broadcast (hb _)

/-- A call recording is taken out at both desks, the same one. -/
theorem takeRecording (h : d.Alike b t t' d') (generation : Nat) :
    AlikeWith b t t' (d.takeRecording generation) (d'.takeRecording generation) := by
  have htake := fun l os => Leg.takeRecording_observers l os generation
  have hread := h.read (fun l => (l.takeRecording generation).1) fun l os => by rw [htake]
  refine ⟨_, _, _, rfl, congrArg (·, _) hread, ?_⟩
  exact h.change (fun l => (l.takeRecording generation).2) fun l os => by rw [htake]

/-- The metadata of a recording is built from the files and the clock, and handed over. -/
theorem fileRecording (h : d.Alike b t t' d') (r : CallRecording) (accountId store : String) :
    Alike b t t' (d.fileRecording site r accountId store)
      (d'.fileRecording site r accountId store) := by
  -- the lines about the length are written one after the other, the same at both desks
  have hlines : ∀ (lines : List Line) {d d' : Desk σ}, Alike b t t' d d' →
      Alike b t t' (lines.foldl (fun d line => d.note (.logged line)) d)
        (lines.foldl (fun d line => d.note (.logged line)) d') := by
    intro lines
    induction lines with
    | nil => exact fun h => h
    | cons line lines ih => exact fun h => ih (h.note _)
  unfold Desk.fileRecording
  rw [h.files, h.clock]
  have h₁ := hlines (Recording.durationLines d.files r.uri r.startedAt d.clock site.reader) h
  -- past this point only what has been written matters, not how the lines were made
  revert h₁
  generalize List.foldl _ d _ = d₁
  generalize List.foldl _ d' _ = d₁'
  intro h₁
  dsimp only
  rw [h₁.files, h₁.clock]
  cases r.finalize d₁.files accountId site.settings.apiVersion d₁.clock site.reader with
  | error e => exact h₁.log.tellCall _
  | ok m =>
    obtain ⟨answer, d₂, d₂', hask, hask', h₂⟩ := (h₁.info
      s!"Call wrapping up recording {m.recordingId} ({m.duration.fixed 3}s)").persist site store m
    dsimp only
    rw [hask, hask']
    cases answer with
    | ok u => exact h₂
    | error e => exact h₂.log.tellCall _

/-- A call recording is settled: what is known of account and store is the same at both desks. -/
theorem settleRecording (h : d.Alike b t t' d') (generation : Nat) :
    Alike b t t' (d.settleRecording site generation) (d'.settleRecording site generation) := by
  obtain ⟨taken, d₁, d₁', htake, htake', h₁⟩ := h.takeRecording generation
  unfold Desk.settleRecording
  rw [htake, htake']
  cases taken with
  | none => exact h₁.log
  | some r =>
    dsimp only
    rw [h₁.read Leg.accountId fun _ _ => rfl, h₁.read Leg.store fun _ _ => rfl]
    cases d₁.leg.accountId with
    | none => exact h₁.log
    | some accountId =>
      cases d₁.leg.store with
      | none => exact h₁.log
      | some store => exact h₁.fileRecording site r accountId store

/-- A stop follows what it stopped. -/
theorem stop (h : d.Alike b t t' d') (artifact : Bool) :
    Alike b t t' (d.stop site artifact) (d'.stop site artifact) := by
  obtain ⟨result, d₁, d₁', hask, hask', h₁⟩ := h.stopActive site
  unfold Desk.stop
  rw [hask, hask']
  match result with
  | .error e => exact h₁.log.tellCall _
  | .ok none => exact h₁
  | .ok (some ⟨.playback, g⟩) => exact h₁
  | .ok (some ⟨.digitCollection, g⟩) => exact h₁
  -- only here is there an artifact to be asked for
  | .ok (some ⟨.recording, g⟩) =>
    cases artifact with
    | true => exact h₁.settleRecording site g
    | false =>
      obtain ⟨taken, d₂, d₂', htake, htake', h₂⟩ := h₁.takeRecording g
      dsimp only
      rw [htake, htake']
      cases taken with
      | none => exact h₂
      | some r => exact h₂.log

/-- The stop that is meant for recordings alone keeps the desks alike. -/
theorem stopRecording (h : d.Alike b t t' d') (accountId store : Option String) :
    Alike b t t' (d.stopRecording site accountId store) (d'.stopRecording site accountId store) := by
  unfold Desk.stopRecording
  rw [h.read Leg.active fun _ _ => rfl]
  split
  · exact ((h.change (·.remember accountId store) fun _ _ => rfl).info _).stop site true
  · exact h

/-! ## Mixers

Joining is the one that broadcasts, if the media server refuses.  Leaving and rejoining speak to the
owning call and to the journal. -/

/-- A bridge or a conference is joined. -/
theorem joinMixer (h : d.Alike b t t' d') (hb : ∀ e, b (.failure e) = true) (sender : Recipient)
    (mixer : MixerHandle) (kind : String) :
    Alike b t t' (d.joinMixer site sender mixer kind) (d'.joinMixer site sender mixer kind) := by
  unfold Desk.joinMixer
  rw [h.read Leg.connection fun _ _ => rfl]
  cases d.leg.connection with
  | none => exact h.log
  | some connection =>
    obtain ⟨answer, d₁, d₁', hask, hask', h₁⟩ :=
      h.perform site (.join connection .duplex (.mixer mixer))
    dsimp only
    rw [hask, hask']
    cases answer with
    | ok u =>
      exact (h₁.log.change (fun l =>
        { l with mixer := some mixer, owner := some sender, conferencing := true }) fun _ _ => rfl
        ).tellCall .joinComplete
    | error e => exact h₁.log.broadcast (hb e)

/-- A mixer is left, if the leg confers. -/
theorem leaveMixer (h : d.Alike b t t' d') :
    Alike b t t' (d.leaveMixer site) (d'.leaveMixer site) := by
  unfold Desk.leaveMixer
  rw [h.read Leg.conferencing fun _ _ => rfl, h.read Leg.connection fun _ _ => rfl,
    h.read Leg.mixer fun _ _ => rfl]
  split
  · next connection mixer _ _ _ =>
    obtain ⟨answer, d₁, d₁', hask, hask', h₁⟩ := h.perform site (.unjoin connection (.mixer mixer))
    rw [hask, hask']
    cases answer with
    | ok u =>
      exact h₁.log.change (fun l =>
        { l with mixer := none, owner := none, conferencing := false }) fun _ _ => rfl
    | error e => exact h₁.log.tellCall _
  · exact h

/-- A mixer is rejoined, to mute the leg or to unmute it. -/
theorem rejoinMixer (h : d.Alike b t t' d') (direction : JoinDirection) (action : String) :
    Alike b t t' (d.rejoinMixer site direction action) (d'.rejoinMixer site direction action) := by
  unfold Desk.rejoinMixer
  rw [h.read Leg.connection fun _ _ => rfl, h.read Leg.mixer fun _ _ => rfl]
  split
  · next connection mixer _ _ =>
    obtain ⟨answer, d₁, d₁', hask, hask', h₁⟩ :=
      h.perform site (.join connection direction (.mixer mixer))
    rw [hask, hask']
    cases answer with
    | ok u => exact h₁
    | error e => exact h₁.log
  · exact h.log

/-! ## Outcomes

An outcome is reported to whoever asked, which is remembered in the slot and not in the register. -/

/-- The result of an activity goes to whoever asked for it, whose name is in the slot. -/
theorem report (h : d.Alike b t t' d') (a : Activity) (generation : Nat)
    (result : Except Fault String) :
    Alike b t t' (d.report a generation result) (d'.report a generation result) := by
  -- what is in flight is cleared only by its own generation
  have hcleared := h.change (·.clearActive ⟨a, generation⟩) fun l os => by
    unfold Leg.clearActive
    split <;> rfl
  have hreported : ∀ {d d' : Desk σ}, Alike b t t' d d' →
      Alike b t t'
        (match (d.leg.slot (.group a)).replyTo with
          | some r => d.tell r (.operationResult a result)
          | none => d)
        (match (d'.leg.slot (.group a)).replyTo with
          | some r => d'.tell r (.operationResult a result)
          | none => d') := by
    intro d d' h
    rw [h.slot]
    cases (d.leg.slot (.group a)).replyTo with
    | some r => exact h.tell _ _
    | none => exact h
  exact hreported hcleared

/-- A call recording that ends by itself is forgotten. -/
theorem recordingOver (h : d.Alike b t t' d') (generation : Nat) :
    Alike b t t' (d.recordingOver generation) (d'.recordingOver generation) := by
  unfold Desk.recordingOver
  rcases d.leg.takeRecording_cases generation with ⟨r, hr, hg, htake⟩ | ⟨hr, htake⟩
  · have htake' : d'.leg.takeRecording generation = (some r, { d'.leg with recording := none }) := by
      rw [h.leg, Leg.takeRecording_observers, htake]
    rw [htake, htake']
    exact (h.change (fun l => { l with recording := none }) fun _ _ => rfl).log
  · have htake' : d'.leg.takeRecording generation = (none, d'.leg) := by
      rw [h.leg, Leg.takeRecording_observers, htake]
    rw [htake, htake']
    exact h

/-- A playback that is over is reported. -/
theorem playEnded (h : d.Alike b t t' d') (generation : Nat) (o : PlayOutcome) :
    Alike b t t' (d.playEnded generation o) (d'.playEnded generation o) := by
  cases o with
  | completed => exact h.report _ _ _
  | failed reason => exact h.report _ _ _

/-- The digits that were collected are reported alike. -/
theorem collectEnded (h : d.Alike b t t' d') (generation : Nat) (o : CollectOutcome) :
    Alike b t t' (d.collectEnded generation o) (d'.collectEnded generation o) := by
  cases o with
  | completed digits => exact h.report _ _ _
  | failed reason => exact h.report _ _ _

/-- A recording is reported alike, with the digits that its end stands for. -/
theorem recordEnded (h : d.Alike b t t' d') (generation : Nat) (o : RecordOutcome) :
    Alike b t t' (d.recordEnded generation o) (d'.recordEnded generation o) := by
  cases o with
  | completed qualifier =>
    -- the key that ended the recording was remembered in the leg
    have hdigits := h.read (recordedDigits · qualifier) fun l os => by cases qualifier <;> rfl
    show Alike b t t'
      ((d.recordingOver generation).report .recording generation (.ok (recordedDigits d.leg qualifier)))
      ((d'.recordingOver generation).report .recording generation
        (.ok (recordedDigits d'.leg qualifier)))
    rw [hdigits]
    exact (h.recordingOver generation).report _ _ _
  | failed reason => exact (h.log.recordingOver generation).report _ _ _

/-! ## Phases

Each entry action is one of the works above, with a notice to the owning call. -/

/-- What is done on entering a phase. -/
theorem entry (h : d.Alike b t t' d') (trigger : Trigger) (target : Phase) :
    Alike b t t' ((lifecycle site).entry target trigger d)
      ((lifecycle site).entry target trigger d') := by
  cases target with
  | uninitialized => exact h
  | opening =>
    show Alike b t t' (d.enterOpening site trigger) (d'.enterOpening site trigger)
    obtain ⟨result, d₁, d₁', hask, hask', h₁⟩ := h.openSession site
    unfold Desk.enterOpening
    rw [hask, hask']
    cases result with
    | ok u => exact h₁
    | error e => exact h₁.log.tellCall _
  | updating =>
    show Alike b t t' (d.enterUpdating site trigger) (d'.enterUpdating site trigger)
    obtain ⟨result, d₁, d₁', hask, hask', h₁⟩ := h.renegotiate site
    unfold Desk.enterUpdating
    rw [hask, hask']
    cases result with
    | ok u => exact h₁
    | error e => exact h₁.log.tellCall _
  | active =>
    show Alike b t t' (d.enterActive site trigger) (d'.enterActive site trigger)
    -- the description is taken over in either case, and then announced
    have hannounced : ∀ {d d' : Desk σ}, Alike b t t' d d' →
        Alike b t t'
          ((d.log .info "Media session is active" []).tellCall
            (.sessionReady (d.leg.info site.server.address)))
          ((d'.log .info "Media session is active" []).tellCall
            (.sessionReady (d'.leg.info site.server.address))) := by
      intro d d' h
      rw [h.read (·.info site.server.address) fun _ _ => rfl]
      exact h.log.tellCall _
    unfold Desk.enterActive
    split
    · exact hannounced (h.change (fun l => { l with localSdp := some _ }) fun _ _ => rfl)
    · exact hannounced h
  -- the last two phases are entered with a release, or with nothing, and a notice to the call
  | inactive => exact ((h.release site).log).tellCall .sessionClosed
  | failed => exact h.log.tellCall _

end Alike

end Desk

/-! ## Controllers

A controller is a phase and a desk.  A phase is entered at both controllers or at neither, since the
phases are the same, and what is done there was dealt with above. -/

namespace Controller

variable {σ : Type} (site : Site σ)

/-- Two controllers in one phase, at desks that are alike. -/
def Alike (b : Notice → Bool) (t t' : List Effect) (c c' : Controller σ) : Prop :=
  c'.phase = c.phase ∧ c.desk.Alike b t t' c'.desk

namespace Alike

variable {b : Notice → Bool} {t t' : List Effect} {c c' : Controller σ}

/-- Work at the desk leaves the phase. -/
theorem atDesk (h : c.Alike b t t' c') {work work' : Desk σ → Desk σ}
    (hwork : (work c.desk).Alike b t t' (work' c'.desk)) :
    Alike b t t' (c.atDesk work) (c'.atDesk work') := ⟨h.1, hwork⟩

/-- Work that is done in an active session only is done at both or at neither. -/
theorem whenActive (h : c.Alike b t t' c') {work : Desk σ → Desk σ}
    (hwork : (work c.desk).Alike b t t' (work c'.desk)) :
    Alike b t t' (c.whenActive work) (c'.whenActive work) := by
  unfold Controller.whenActive
  rw [h.1]
  split
  · exact h.atDesk hwork
  · exact h

/-- A phase is entered if the machine allows it, and otherwise the journal says why not. -/
theorem enter (h : c.Alike b t t' c') (trigger : Trigger) (target : Phase) :
    Alike b t t' (c.enter site trigger target) (c'.enter site trigger target) := by
  unfold Controller.enter Machine.step
  rw [h.1]
  dsimp only
  cases (lifecycle site).allows c.phase target with
  | true => exact ⟨rfl, h.2.log.entry site trigger target⟩
  | false => exact h.atDesk h.2.log

/-- A session is created only where there is none yet. -/
theorem createSession (h : c.Alike b t t' c') (sender : Recipient) (outbound : Bool)
    (mode : ConnectionMode) (sdp : String) :
    Alike b t t' (c.createSession site sender outbound mode sdp)
      (c'.createSession site sender outbound mode sdp) := by
  unfold Controller.createSession
  rw [h.1]
  split
  · have howned := h.2.change (·.ownedBy sender outbound mode sdp) fun _ _ => rfl
    exact (h.atDesk howned).enter site _ _
  · exact h.atDesk h.2.log

/-- A session is closed in each of the three phases in which there is something to close. -/
theorem closeSession (h : c.Alike b t t' c') :
    Alike b t t' (c.closeSession site) (c'.closeSession site) := by
  unfold Controller.closeSession
  rw [h.1]
  split
  · exact h.enter site _ _
  · exact h.enter site _ _
  · exact h.enter site _ _
  · exact h

/-- A new description is taken up in an active session. -/
theorem updateSession (h : c.Alike b t t' c') (sdp : String) :
    Alike b t t' (c.updateSession site sdp) (c'.updateSession site sdp) := by
  unfold Controller.updateSession
  rw [h.1]
  split
  · have hnew := h.2.change (fun l => { l with remoteSdp := some sdp }) fun _ _ => rfl
    exact (h.atDesk hnew).enter site _ _
  · exact h

/-- A negotiation that fails ends the session, or is told to the owning call. -/
theorem negotiationFailed (h : c.Alike b t t' c') (fault : Fault) :
    Alike b t t' (c.negotiationFailed site fault) (c'.negotiationFailed site fault) := by
  unfold Controller.negotiationFailed
  rw [h.1]
  split
  · exact h.enter site _ _
  · exact h.atDesk (h.2.log.tellCall _)

/-- An outcome that is accepted leads on to a phase, or is reported. -/
theorem outcomeAccepted (h : c.Alike b t t' c') (generation : Nat) (o : Outcome) :
    Alike b t t' (c.outcomeAccepted site generation o) (c'.outcomeAccepted site generation o) := by
  cases o with
  | negotiation o =>
    cases o with
    | networkStreamFailure => exact h.negotiationFailed site _
    | failed reason => exact h.negotiationFailed site _
    | _ => exact h.enter site _ _
  | playback o => exact h.atDesk (h.2.playEnded generation o)
  | digitCollection o => exact h.atDesk (h.2.collectEnded generation o)
  | recording o => exact h.atDesk (h.2.recordEnded generation o)

/-- An outcome that arrives is accepted by the slot of its category at both, or at neither. -/
theorem arrive (h : c.Alike b t t' c') (e : Completion) :
    Alike b t t' (c.arrive site e) (c'.arrive site e) := by
  unfold Controller.arrive
  dsimp only
  rw [h.2.slot]
  split
  · exact (h.atDesk (h.2.setSlot _ _)).outcomeAccepted site _ _
  · exact h.atDesk h.2.log

end Alike

end Controller

end CallMedia
