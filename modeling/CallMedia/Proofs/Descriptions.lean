/-
  Whom a session belongs to and how it is described, over every run.

  Five things are known of a session (`Particulars`): the owning call, whether it is outbound, the mode
  of its connection, and the description of either side.  They are read off the turns so far (`known`):

    * call, direction and mode are those of the first request to create a session, for good;
    * the remote description is that of the last update handled in an active session, or before any
      update the one that came with the creation, unless it was empty;
    * the local description is that of the last offer or answer of the media server that was accepted.

  What is negotiated and what the call is told quotes them as they are at that moment, and nothing else
  (`Effect.Quotes`).  `Particulars.next` says what one item changes, and `Turned.particulars` that a turn
  does just that; the history is then followed item by item (`known_concat`).
-/
import CallMedia.Proofs.Run

namespace CallMedia

/-- What is known of a session. -/
structure Particulars where
  call : Option Recipient := none
  outbound : Bool := false
  mode : ConnectionMode := .standard
  localSdp : Option String := none
  remoteSdp : Option String := none

/-- What a leg knows of its session. -/
def Leg.particulars (l : Leg) : Particulars :=
  ⟨l.call, l.outbound, l.mode, l.localSdp, l.remoteSdp⟩

/-- The description that the media server made, if it made one. -/
def NegotiationOutcome.description? : NegotiationOutcome → Option String
  | offerGenerated sdp | answerGenerated sdp => some sdp
  | answerProcessed | networkStreamFailure | failed _ => none

/-- Whether a notice says that the session is ready. -/
def Notice.saysReady : Notice → Bool
  | sessionReady _ => true
  | _ => false

/-- Whether an effect agrees with what is known when it is done: a connection is asked for in the mode
    of the session, an offer is made for an outbound session and processed for an inbound one, what is
    processed is the remote description, and a session that is ready is reported to the call with both
    descriptions and the address of the server. -/
def Effect.Quotes (address : Address) (q : Particulars) : Effect → Prop
  | created (.connection _ mode) _ => mode = q.mode
  | started (.generateOffer _) _ _ => q.outbound = true
  | started (.processOffer _ sdp) _ _ => q.outbound = false ∧ sdp = q.remoteSdp.getD ""
  | started (.processAnswer _ sdp) _ _ => sdp = q.remoteSdp.getD ""
  | told r (.sessionReady info) _ =>
    q.call = some r ∧ info = ⟨true, address, q.localSdp.getD "", q.remoteSdp.getD ""⟩
  | _ => True

/-! ## One turn

Only three items bear on what is known: the creation of the session, an update while it is active, and
an accepted outcome of the negotiation.  `Particulars.next` has one case for each. -/

/-- What is known once an item is handled. -/
def Particulars.next (p : Phase) (l : Leg) : Item → Particulars
  | .message sender (.createSession outbound mode sdp) =>
    if p = .uninitialized then (l.ownedBy sender outbound mode sdp).particulars else l.particulars
  | .message _ (.updateSession sdp) =>
    if p = .active then { l.particulars with remoteSdp := some sdp } else l.particulars
  | .completion ⟨g, .negotiation o⟩ =>
    if ((l.slot .negotiation).accept g).1 then
      { l.particulars with localSdp := o.description?.or l.localSdp }
    else l.particulars
  | _ => l.particulars

/-- The description that a negotiation ends with is the one that the media server made. -/
theorem NegotiationOutcome.description_of_verdict {o : NegotiationOutcome} {localSdp : Option String}
    (h : o.verdict = .ok localSdp) : o.description? = localSdp := by
  cases o <;> cases h <;> rfl

/-- A failed negotiation comes without a description. -/
theorem NegotiationOutcome.description_of_fault {o : NegotiationOutcome} {e : Fault}
    (h : o.verdict = .error e) : o.description? = none := by
  cases o <;> cases h <;> rfl

/-- What is known once an outcome of the negotiation is accepted. -/
theorem Particulars.next_awaited {p : Phase} {l : Leg} {g : Nat} (h : l.Awaits .negotiation g)
    (o : NegotiationOutcome) :
    Particulars.next p l (.completion ⟨g, .negotiation o⟩) =
      { l.particulars with localSdp := o.description?.or l.localSdp } :=
  if_pos ((Slot.accept_iff _ g).2 h)

/-- What is out of place brings nothing new. -/
theorem OutOfPlace.particulars {p : Phase} {l : Leg} {item : Item} (h : OutOfPlace p l item) :
    Particulars.next p l item = l.particulars := by
  cases item with
  | query caller => rfl
  | message sender m =>
    cases m with
    -- a creation is out of place in every phase but the first, an update in every phase but `active`
    | createSession outbound mode sdp => exact if_neg h
    | updateSession sdp => exact if_neg h
    | _ => rfl
  | completion e =>
    obtain ⟨g, o⟩ := e
    cases o with
    | negotiation o => exact if_neg fun ha => h ((Slot.accept_iff _ g).1 ha)
    | _ => rfl

section

variable {w : Surroundings} {l l₀ l' : Leg} {es : List Effect}

/-- The negotiation changes nothing that is known. -/
theorem Negotiates.particulars {what : Operation} (h : Negotiates w l what l' es) :
    l'.particulars = l.particulars := by
  rcases h.leg with rfl | ⟨b, rfl⟩
  · rfl
  · rfl

/-- As long as the inbox is open, a step of the negotiation is asked of the media server. -/
theorem Negotiates.starts {what : Operation} (h : Negotiates w l what l' es)
    (hopen : w.inboxOpen = true) : ∃ sink answer, .started what sink answer ∈ es := by
  cases h with
  | begun g l' es hl =>
    cases hl with
    | accepted fate _ => exact ⟨_, _, List.mem_cons_self⟩
  | failed e l' es hl =>
    cases hl with
    | closed hclosed => rw [hopen] at hclosed; cases hclosed
    | refused e fate _ => exact ⟨_, _, List.mem_cons_self⟩

/-- Opening a session acquires handles, and changes nothing that is known. -/
theorem Opened.particulars (h : Opened w l l' es) : l'.particulars = l.particulars := by
  cases h with
  | noSession e => rfl
  | noConnection name e => rfl
  | negotiates name name' l' es hn => exact hn.particulars

/-- An activity changes nothing that is known, if what is noted for it does not. -/
theorem Attempted.particulars {a : Activity} {what : GroupHandle → Operation} {sender : Recipient}
    {r : Option Nat} (h : Attempted w a what sender l l₀ r l' es)
    (hsame : l₀.particulars = l.particulars) : l'.particulars = l.particulars := by
  cases h with
  | unfit e idle => rfl
  | unprepared group e idle digits => exact hsame
  | closed group idle hopen => exact hsame
  | refused group e fate idle hopen => exact hsame
  | accepted group fate idle hopen => exact hsame

end

section

variable {σ : Type} {site : Site σ} {w : Surroundings} {p p' : Phase} {l l' : Leg} {item : Item}
  {es : List Effect}

/-- A turn changes what is known as its item says. -/
theorem Turned.particulars (h : Turned site w p l item p' l' es) :
    l'.particulars = Particulars.next p l item := by
  cases h with
  | ignored item hout => exact hout.particulars.symm
  | opened sender outbound mode sdp l' es hp ho =>
    rw [ho.particulars]
    exact (if_pos hp).symm
  | closed sender es hp hr => rfl
  | updated sender sdp k l' es hp hk hn =>
    rw [hn.particulars]
    exact (if_pos hp).symm
  | agreed g o localSdp hp awaited ho =>
    -- agreed: the description that the media server made, if any, is taken over
    rw [Particulars.next_awaited awaited, NegotiationOutcome.description_of_verdict ho]
    rfl
  | broke g o fault hp awaited ho =>
    -- broken: there is none, and the old one stays
    rw [Particulars.next_awaited awaited, NegotiationOutcome.description_of_fault ho]
    rfl
  | groupCreated sender l' es hg hc => cases hc <;> rfl
  | groupDestroyed sender l' es hd => cases hd <;> rfl
  | groupStopped sender es hs => rfl
  | attempted sender m k r l' es hp hm ht =>
    -- an activity changes its slot, what is in flight, and what is remembered of a recording
    obtain ⟨recording, hkept⟩ := k.kept_cases w.clock l' r
    rw [hkept]
    have hsame : l'.particulars = l.particulars := ht.particulars rfl
    cases m <;> first | exact hsame | cases hm
  | stopped sender artifact l' es ha hs => rcases hs.leg with rfl | rfl <;> rfl
  | stoppedRecording sender accountId store g l' es hp ha hs =>
    rcases hs.leg with rfl | rfl <;> rfl
  | joined sender m mixer l' es hp hm hj => rcases hm with rfl | rfl <;> cases hj <;> rfl
  | left sender l' es hp hc hl => cases hl <;> rfl
  | rejoined sender m direction k mixer answer hp hd hk hm =>
    rcases hd with ⟨rfl, -⟩ | ⟨rfl, -⟩ <;> rfl
  | observed sender observer => rfl
  | unobserved sender observer => rfl
  | finished e a result hcat awaited hr =>
    obtain ⟨g, o⟩ := e
    cases o with
    | negotiation o => cases hcat
    | _ => rfl

/-- Notices other than that the session is ready quote nothing. -/
theorem Surroundings.quotes_telling (w : Surroundings) (rs : List Recipient) {n : Notice}
    (h : n.saysReady = false) (address : Address) (q : Particulars) :
    ∀ e ∈ rs.map fun r => w.telling r n, e.Quotes address q := by
  intro e he
  obtain ⟨r, -, rfl⟩ := List.mem_map.1 he
  cases n with
  | sessionReady info => cases h
  | _ => trivial

section

variable {address : Address} {q : Particulars}

/-- Starting a step of the negotiation quotes what the step hands over. -/
theorem Negotiates.quotes {w : Surroundings} {l l' : Leg} {what : Operation} {es : List Effect}
    (h : Negotiates w l what l' es)
    (hwhat : ∀ sink answer, (Effect.started what sink answer).Quotes address q) :
    ∀ e ∈ es, e.Quotes address q := by
  cases h with
  | begun g l' es hl =>
    cases hl with
    | accepted fate hopen => exact List.forall_mem_singleton.2 (hwhat _ _)
  | failed e l' es hl =>
    have htold := w.quotes_telling l'.call.toList (n := .failure e) rfl address q
    cases hl with
    | closed hopen => exact htold
    | refused e fate hopen => exact List.forall_mem_cons.2 ⟨hwhat _ _, htold⟩

/-- The first step is an offer for an outbound session, and for an inbound one the processing of the
    remote description. -/
theorem Desk.quotes_firstStep {l : Leg} (k : ConnectionHandle) (sink : Sink) (answer : Answer) :
    (Effect.started (firstStep l k) sink answer).Quotes address l.particulars := by
  unfold firstStep
  by_cases ho : l.outbound = true
  · rw [if_pos ho]
    exact ho
  · rw [if_neg ho]
    exact ⟨Bool.eq_false_iff.2 ho, rfl⟩

/-- Opening a session asks for a connection in its mode, and for the first step of the negotiation. -/
theorem Opened.quotes {w : Surroundings} {l l' : Leg} {es : List Effect} (h : Opened w l l' es) :
    ∀ e ∈ es, e.Quotes address l.particulars := by
  have htold : ∀ e, ∀ e' ∈ w.tellingCall l (.failure e), e'.Quotes address l.particulars :=
    fun e => w.quotes_telling l.call.toList rfl address _
  cases h with
  | noSession e => exact List.forall_mem_cons.2 ⟨trivial, htold e⟩
  | noConnection name e =>
    exact List.forall_mem_cons.2 ⟨trivial, List.forall_mem_cons.2 ⟨rfl, htold e⟩⟩
  | negotiates name name' l' es hn =>
    have hfirst : ∀ e ∈ es, e.Quotes address l.particulars :=
      hn.quotes fun sink answer => Desk.quotes_firstStep _ sink answer
    exact List.forall_mem_cons.2 ⟨trivial, List.forall_mem_cons.2 ⟨rfl, hfirst⟩⟩

theorem ActiveStopped.quotes {l : Leg} {result : Except Fault (Option Active)} {es : List Effect}
    (h : ActiveStopped l result es) : ∀ e ∈ es, e.Quotes address q := by
  cases h with
  | idle ha => exact List.forall_mem_nil _
  | groupless a ha hg => exact List.forall_mem_nil _
  | stopped a group ha hg => exact List.forall_mem_singleton.2 trivial
  | refused a group e ha hg => exact List.forall_mem_singleton.2 trivial

theorem Stopped.quotes {reader : Recording.Reader} {apiVersion : String} {w : Surroundings}
    {artifact : Bool} {l l' : Leg}
    {es : List Effect} (h : Stopped reader apiVersion w artifact l l' es) :
    ∀ e ∈ es, e.Quotes address q := by
  have htold : ∀ e, ∀ e' ∈ w.tellingCall l (.failure e), e'.Quotes address q :=
    fun e => w.quotes_telling l.call.toList rfl address q
  cases h with
  | other was es hs hw => exact hs.quotes
  | plain g es hs hr => exact hs.quotes
  | dropped g r es hs hr hg hd => exact hs.quotes
  | failed e es hs => exact List.forall_mem_append.2 ⟨hs.quotes, htold e⟩
  | filed g r accountId store m es hs hr hg ha haccount hstore hm =>
    exact List.forall_mem_append.2 ⟨hs.quotes, List.forall_mem_singleton.2 trivial⟩
  | unfiled g r accountId store m e es hs hr hg ha haccount hstore hm =>
    exact List.forall_mem_append.2 ⟨hs.quotes, List.forall_mem_cons.2 ⟨trivial, htold e⟩⟩

theorem GroupStopped.quotes {w : Surroundings} {l : Leg} {es : List Effect}
    (h : GroupStopped w l es) : ∀ e ∈ es, e.Quotes address q := by
  cases h with
  | quiet was es hs =>
    exact List.forall_mem_append.2 ⟨hs.quotes, w.quotes_telling _ rfl address q⟩
  | failed e es hs =>
    exact List.forall_mem_append.2 ⟨hs.quotes, w.quotes_telling _ rfl address q⟩

theorem Attempted.quotes {settings : Settings} {w : Surroundings} {m : Message} {k : Ask}
    {sender : Recipient} {l l₀ l' : Leg} {r : Option Nat} {es : List Effect}
    (hm : m.ask? settings = some k)
    (h : Attempted w k.activity k.operation sender l l₀ r l' es) : ∀ e ∈ es, e.Quotes address q := by
  -- none of the three operations is one of the negotiation
  have hstarted : ∀ group sink answer,
      (Effect.started (k.operation group) sink answer).Quotes address q := by
    intro group sink answer
    cases m <;> cases hm <;> trivial
  have hprepared : ∀ group, ∀ e ∈ prepared k.activity group, e.Quotes address q := by
    intro group
    unfold prepared
    split
    · exact List.forall_mem_singleton.2 trivial
    · exact List.forall_mem_nil _
  have htold : ∀ result, ∀ e ∈ w.tellingAll l₀ (.operationResult k.activity result),
      e.Quotes address q := fun result => w.quotes_telling _ rfl address q
  cases h with
  | unfit e idle => exact List.forall_mem_singleton.2 trivial
  | unprepared group e idle digits => exact List.forall_mem_cons.2 ⟨trivial, htold _⟩
  | closed group idle hopen => exact List.forall_mem_append.2 ⟨hprepared group, htold _⟩
  | refused group e fate idle hopen =>
    exact List.forall_mem_append.2
      ⟨hprepared group, List.forall_mem_cons.2 ⟨hstarted _ _ _, htold _⟩⟩
  | accepted group fate idle hopen =>
    exact List.forall_mem_append.2
      ⟨hprepared group, List.forall_mem_singleton.2 (hstarted _ _ _)⟩

end

/-- Whatever is done in a turn agrees with what is known after it. -/
theorem Turned.quotes (h : Turned site w p l item p' l' es) :
    ∀ e ∈ es, e.Quotes site.server.address l'.particulars := by
  have htold : ∀ (rs : List Recipient) (n : Notice), n.saysReady = false →
      ∀ e ∈ rs.map fun r => w.telling r n, e.Quotes site.server.address l'.particulars :=
    fun rs n hn => w.quotes_telling rs hn _ _
  cases h with
  | ignored item hout => exact List.forall_mem_nil _
  | opened sender outbound mode sdp l' es hp ho =>
    -- the request itself has set what is known, and opening the session changes none of it
    rw [ho.particulars]
    exact ho.quotes
  | closed sender es hp hr =>
    refine List.forall_mem_append.2 ⟨?_, htold l.call.toList _ rfl⟩
    cases hr with
    | nothing hs => exact List.forall_mem_nil _
    | released s answer hs => exact List.forall_mem_singleton.2 trivial
  | updated sender sdp k l' es hp hk hn =>
    rw [hn.particulars]
    -- the new description has replaced the old one by the time it is processed
    exact hn.quotes fun sink answer => rfl
  | agreed g o localSdp hp awaited ho =>
    intro e he
    -- the one notice that quotes: it goes to the owning call, with the leg as it is after the turn
    obtain ⟨r, hr, rfl⟩ := List.mem_map.1 he
    exact ⟨Option.mem_toList.1 hr, rfl⟩
  | broke g o fault hp awaited ho => exact htold l.call.toList _ rfl
  | groupCreated sender l' es hg hc =>
    cases hc with
    | noSession hs => exact htold [sender] _ rfl
    | noConnection s hs hk => exact htold [sender] _ rfl
    | refused s k e hs hk => exact List.forall_mem_cons.2 ⟨trivial, htold [sender] _ rfl⟩
    | unjoined s k name e answer hs hk =>
      exact List.forall_mem_cons.2 ⟨trivial, List.forall_mem_cons.2 ⟨trivial,
        List.forall_mem_cons.2 ⟨trivial, htold [sender] _ rfl⟩⟩⟩
    | joined s k name hs hk =>
      exact List.forall_mem_cons.2 ⟨trivial,
        List.forall_mem_cons.2 ⟨trivial, htold [sender] _ rfl⟩⟩
  | groupDestroyed sender l' es hd =>
    cases hd with
    | absent hg => exact htold [l.call.getD sender] _ rfl
    | released group answer hg =>
      exact List.forall_mem_cons.2 ⟨trivial, htold [l.call.getD sender] _ rfl⟩
  | groupStopped sender es hs => exact hs.quotes
  | attempted sender m k r l' es hp hm ht => exact ht.quotes hm
  | stopped sender artifact l' es ha hs => exact hs.quotes
  | stoppedRecording sender accountId store g l' es hp ha hs => exact hs.quotes
  | joined sender m mixer l' es hp hm hj =>
    cases hj with
    | joined k hk => exact List.forall_mem_cons.2 ⟨trivial, htold l.call.toList _ rfl⟩
    | refused k e hk => exact List.forall_mem_cons.2 ⟨trivial, htold l.observers.toList _ rfl⟩
  | left sender l' es hp hc hl =>
    cases hl with
    | left k mixer hk hm => exact List.forall_mem_singleton.2 trivial
    | refused k mixer e hk hm =>
      exact List.forall_mem_cons.2 ⟨trivial, htold l.call.toList _ rfl⟩
  | rejoined sender m direction k mixer answer hp hd hk hm =>
    exact List.forall_mem_singleton.2 trivial
  | observed sender observer => exact htold [observer] _ rfl
  | unobserved sender observer => exact List.forall_mem_nil _
  | finished e a result hcat awaited hr => exact htold _ _ rfl

/-- A session that is given its connection goes on to the first step of the negotiation on it, as long
    as the inbox is open. -/
theorem Turned.first_step {sender : Recipient} {outbound : Bool} {mode : ConnectionMode}
    {sdp : String}
    (h : Turned site w .uninitialized l (.message sender (.createSession outbound mode sdp)) p' l' es)
    (hs : Sound .uninitialized l) (hopen : w.inboxOpen = true) {k : ConnectionHandle}
    (hk : l'.connection = some k) :
    ∃ sink answer, .started (Desk.firstStep l' k) sink answer ∈ es := by
  -- before the session is created no connection is held, so one that is held afterwards is new
  have hbare : l.connection = none := (hs.nothing_held (hs.bare (.inl rfl)).1).1
  obtain ⟨-, ho⟩ := h.of_create
  cases ho with
  | noSession e => exact absurd (hbare.symm.trans hk) nofun
  | noConnection name e => exact absurd (hbare.symm.trans hk) nofun
  | negotiates name name' l' es hn =>
    obtain ⟨sink, answer, hstart⟩ := hn.starts hopen
    have hname : l'.connection = some ⟨name'⟩ := by
      rcases hn.leg with rfl | ⟨b, rfl⟩
      · rfl
      · rfl
    -- launching the step moves a slot on, and the first step is chosen by other fields
    have hstep : Desk.firstStep l' ⟨name'⟩ =
        Desk.firstStep (l.ownedBy sender outbound mode sdp) ⟨name'⟩ := by
      rcases hn.leg with rfl | ⟨b, rfl⟩
      · rfl
      · rfl
    rw [hname] at hk
    cases hk
    rw [hstep]
    exact ⟨sink, answer, List.mem_cons_of_mem _ (List.mem_cons_of_mem _ hstart)⟩

end

/-! ## The history of a session

What is known is a function of the turns alone, without the leg: the first creation, and the last
update and the last accepted description.  The theorem below the definitions then compares this with
what the leg has, one turn at a time. -/

/-- How a session was asked for. -/
structure SessionOrder where
  sender : Recipient
  outbound : Bool
  mode : ConnectionMode
  sdp : String

namespace Turn

variable {σ : Type} (t : Turn σ)

/-- The session that is asked for in a turn. -/
def creation? : Option SessionOrder :=
  match t.item with
  | .message sender (.createSession outbound mode sdp) => some ⟨sender, outbound, mode, sdp⟩
  | _ => none

/-- The description that an update brings to an active session. -/
def update? : Option String :=
  match t.item with
  | .message _ (.updateSession sdp) => if t.before.phase = .active then some sdp else none
  | _ => none

/-- The description of an offer or an answer of the media server that is accepted. -/
def localSdp? : Option String :=
  match t.item with
  | .completion ⟨g, .negotiation o⟩ =>
    if ((t.before.desk.leg.slot .negotiation).accept g).1 then o.description? else none
  | _ => none

end Turn

section

variable {σ : Type}

/-- The last of the values that turns bring. -/
def latest? {α : Type} (f : Turn σ → Option α) (ts : List (Turn σ)) : Option α :=
  ts.reverse.findSome? f

/-- The last turn's value is the latest, if it brings one. -/
theorem latest?_concat {α : Type} (f : Turn σ → Option α) (ts : List (Turn σ)) (t : Turn σ) :
    latest? f (ts ++ [t]) = (f t).or (latest? f ts) := by
  unfold latest?
  rw [List.reverse_append, List.findSome?_append]
  exact congrArg (Option.or · _) List.findSome?_singleton

/-- The first session that was asked for. -/
def firstCreation (ts : List (Turn σ)) : Option SessionOrder := ts.findSome? Turn.creation?

/-- A later creation does not count. -/
theorem firstCreation_concat (ts : List (Turn σ)) (t : Turn σ) :
    firstCreation (ts ++ [t]) = (firstCreation ts).or t.creation? := by
  unfold firstCreation
  rw [List.findSome?_append, List.findSome?_singleton]

/-- What the turns so far let know of the session. -/
def known (ts : List (Turn σ)) : Particulars where
  call := (firstCreation ts).map SessionOrder.sender
  outbound := (firstCreation ts).elim false SessionOrder.outbound
  mode := (firstCreation ts).elim .standard SessionOrder.mode
  localSdp := latest? Turn.localSdp? ts
  remoteSdp := (latest? Turn.update? ts).or
    ((firstCreation ts).bind fun order => given (some order.sdp))

/-- What one turn more lets know. -/
theorem known_concat (ts : List (Turn σ)) (t : Turn σ) :
    known (ts ++ [t]) =
      { call := ((firstCreation ts).or t.creation?).map SessionOrder.sender
        outbound := ((firstCreation ts).or t.creation?).elim false SessionOrder.outbound
        mode := ((firstCreation ts).or t.creation?).elim .standard SessionOrder.mode
        localSdp := t.localSdp?.or (latest? Turn.localSdp? ts)
        remoteSdp := (t.update?.or (latest? Turn.update? ts)).or
          (((firstCreation ts).or t.creation?).bind fun order => given (some order.sdp)) } := by
  unfold known
  rw [firstCreation_concat, latest?_concat, latest?_concat]

/-- Unless a session is asked for and none was before, only the descriptions may be new. -/
theorem known_later {ts : List (Turn σ)} {t : Turn σ}
    (h : (firstCreation ts).or t.creation? = firstCreation ts) :
    known (ts ++ [t]) = { known ts with
      localSdp := t.localSdp?.or (known ts).localSdp
      remoteSdp := t.update?.or (known ts).remoteSdp } := by
  rw [known_concat, h, Option.or_assoc]
  rfl

/-- What is known changes with each turn as its item says. -/
theorem known_next {ts : List (Turn σ)} {t : Turn σ}
    (hnone : t.before.phase = .uninitialized →
      firstCreation ts = none ∧ latest? Turn.update? ts = none)
    (hsome : t.before.phase ≠ .uninitialized → firstCreation ts ≠ none)
    (hknown : t.before.desk.leg.particulars = known ts) :
    Particulars.next t.before.phase t.before.desk.leg t.item = known (ts ++ [t]) := by
  obtain ⟨before, item⟩ := t
  dsimp only at hnone hsome hknown ⊢
  have hlocal : before.desk.leg.localSdp = (known ts).localSdp := congrArg Particulars.localSdp hknown
  have hremote : before.desk.leg.remoteSdp = (known ts).remoteSdp :=
    congrArg Particulars.remoteSdp hknown
  -- what brings nothing
  have hquiet : Turn.creation? ⟨before, item⟩ = none → Turn.update? ⟨before, item⟩ = none →
      Turn.localSdp? ⟨before, item⟩ = none →
      before.desk.leg.particulars = known (ts ++ [⟨before, item⟩]) := by
    intro hc hu hl
    rw [known_later (by rw [hc, Option.or_none]), hu, hl, hknown]
    rfl
  -- the cases of `Particulars.next`: three items that bring something, and the rest
  cases item with
  | query caller => exact hquiet rfl rfl rfl
  | message sender m =>
    cases m with
    | createSession outbound mode sdp =>
      by_cases hp : before.phase = .uninitialized
      · -- the first session that is asked for: the other side was not described before
        obtain ⟨hfirst, hupdate⟩ := hnone hp
        have hblank : (known ts).remoteSdp = none := by
          unfold known
          rw [hfirst, hupdate]
          rfl
        have hgiven : (if sdp = "" then before.desk.leg.remoteSdp else some sdp) =
            given (some sdp) := by
          by_cases hs : sdp = ""
          · rw [if_pos hs, hremote, hblank, hs]
            rfl
          · rw [if_neg hs, given, Option.filter_some, if_pos (decide_eq_true hs)]
        show (if before.phase = .uninitialized then
          (before.desk.leg.ownedBy sender outbound mode sdp).particulars else _) = _
        rw [if_pos hp, known_concat, hfirst, hupdate, Leg.particulars, Leg.ownedBy]
        dsimp only
        rw [hlocal, hgiven]
        rfl
      · -- a later one, which is ignored
        obtain ⟨order, horder⟩ := Option.ne_none_iff_exists'.1 (hsome hp)
        show (if before.phase = .uninitialized then _ else before.desk.leg.particulars) = _
        rw [if_neg hp, hknown, known_later (by rw [horder, Option.some_or])]
        rfl
    | updateSession sdp =>
      by_cases hp : before.phase = .active
      · have hupdate : Turn.update? ⟨before, .message sender (.updateSession sdp)⟩ = some sdp :=
          if_pos hp
        show (if before.phase = .active then
          { before.desk.leg.particulars with remoteSdp := some sdp } else _) = _
        rw [if_pos hp, hknown, known_later (Option.or_none), hupdate]
        rfl
      · show (if before.phase = .active then _ else before.desk.leg.particulars) = _
        rw [if_neg hp]
        exact hquiet rfl (if_neg hp) rfl
    | _ => exact hquiet rfl rfl rfl
  | completion e =>
    obtain ⟨g, o⟩ := e
    cases o with
    | negotiation o =>
      -- an outcome that is not accepted is stale, whatever description it has
      by_cases ha : ((before.desk.leg.slot .negotiation).accept g).1 = true
      · have hdescribed : Turn.localSdp? ⟨before, .completion ⟨g, .negotiation o⟩⟩ =
            o.description? := if_pos ha
        show (if _ then { before.desk.leg.particulars with localSdp := _ } else _) = _
        rw [if_pos ha, hlocal, hknown, known_later (Option.or_none), hdescribed]
        rfl
      · show (if _ then _ else before.desk.leg.particulars) = _
        rw [if_neg ha]
        exact hquiet rfl rfl (if_neg ha)
    | _ => exact hquiet rfl rfl rfl

end

/-- What is known stays known: the first session that was asked for is never asked for anew. -/
theorem firstCreation_append {σ : Type} {ts ts' : List (Turn σ)} {order : SessionOrder}
    (h : firstCreation ts = some order) : firstCreation (ts ++ ts') = some order := by
  have hfirst : ts.findSome? Turn.creation? = some order := h
  unfold firstCreation
  rw [List.findSome?_append, hfirst, Option.some_or]

/-! ## Every run -/

namespace Run

variable {σ : Type} {site : Site σ} {ts : List (Turn σ)} {c : Controller σ}
  {queued : List Completion}

/-- What the leg knows is what the turns so far let know, and before a session is asked for the other
    side is not described. -/
theorem particulars (h : Run site ts c queued) :
    c.desk.leg.particulars = known ts ∧
      (firstCreation ts = none → latest? Turn.update? ts = none) := by
  -- by induction on the run; the second half is what tells the first creation
  -- from later ones, since the first one may find no update before it
  refine h.invariant (P := fun ts _ l => l.particulars = known ts ∧
    (firstCreation ts = none → latest? Turn.update? ts = none)) ⟨rfl, fun _ => rfl⟩ ?_
  intro ts t queued hbefore ⟨hknown, hblank⟩
  obtain ⟨hturned, -, -⟩ := Turn.turned (t := t) site hbefore.sound
  -- a session has been asked for exactly if there is an owning call
  have hcall : t.before.desk.leg.call = (firstCreation ts).map SessionOrder.sender :=
    congrArg Particulars.call hknown
  have hphase : t.before.phase = .uninitialized ↔ firstCreation ts = none := by
    rw [← hbefore.sound.owned, hcall, Option.map_eq_none_iff]
  refine ⟨?_, fun hnone => ?_⟩
  · rw [hturned.particulars]
    exact known_next (fun hp => ⟨hphase.1 hp, hblank (hphase.1 hp)⟩) (fun hp => mt hphase.2 hp) hknown
  · rw [firstCreation_concat, Option.or_eq_none_iff] at hnone
    -- an update counts in an active session only, and before the first creation there is none
    have hupdate : t.update? = none := by
      unfold Turn.update?
      split
      · rw [if_neg]
        rw [hphase.2 hnone.1]
        decide
      · rfl
    rw [latest?_concat, hupdate, Option.none_or]
    exact hblank hnone.1

end Run

/-- In every run, whom the session belongs to and how it is described is what the turns so far let know.
    Once a session has been asked for, the owning call, the direction and the mode are those of that
    order and stay so.  Whatever is done in a turn agrees with what is known by then, and the turn that
    creates the session, if it is given a connection, starts to negotiate on it: with an offer of its own
    if it is outbound, and with the description that came along if it is not. -/
theorem descriptions_current {σ : Type} {site : Site σ} {ts : List (Turn σ)} {c : Controller σ}
    {queued : List Completion} (h : Run site ts c queued) :
    c.desk.leg.particulars = known ts ∧
    (∀ pre post order, ts = pre ++ post → firstCreation pre = some order →
      c.desk.leg.call = some order.sender ∧ c.desk.leg.outbound = order.outbound ∧
        c.desk.leg.mode = order.mode) ∧
    (∀ pre t post, ts = pre ++ t :: post →
      (∀ e ∈ t.effects site, e.Quotes site.server.address (known (pre ++ [t]))) ∧
      (firstCreation pre = none → t.creation?.isSome = true → t.before.desk.inboxOpen = true →
        ∀ k, (t.after site).desk.leg.connection = some k → ∃ sink answer,
          .started (if (known (pre ++ [t])).outbound then .generateOffer k
            else .processOffer k ((known (pre ++ [t])).remoteSdp.getD "")) sink answer ∈
              t.effects site)) := by
  refine ⟨h.particulars.1, ?_, ?_⟩
  · -- of what the whole run lets know, what the first creation has decided is not changed later
    rintro pre post order rfl hfirst
    have hknown := h.particulars.1
    unfold known at hknown
    rw [firstCreation_append hfirst] at hknown
    exact ⟨congrArg Particulars.call hknown, congrArg Particulars.outbound hknown,
      congrArg Particulars.mode hknown⟩
  · -- up to any turn of it a run is a run, and what is done in the turn quotes what is known after it
    rintro pre t post rfl
    obtain ⟨queued', hbefore, hitem⟩ := h.before
    obtain ⟨hturned, -, -⟩ := Turn.turned (t := t) site hbefore.sound
    have hafter : (t.after site).desk.leg.particulars = known (pre ++ [t]) :=
      (Run.turn pre t.before queued' t.item hbefore hitem).particulars.1
    refine ⟨fun e he => ?_, fun hfirst hcreates hopen k hk => ?_⟩
    · by_cases hv : e.visible = true
      · rw [← hafter]
        exact hturned.quotes e ((t.mem_shown site).2 ⟨he, hv⟩)
      · cases e with
        | logged line => trivial
        | _ => exact absurd rfl hv
    · -- nothing was created before, so there is no owning call, and the phase is the first one
      have hknown := hbefore.particulars.1
      have hcall : t.before.desk.leg.call = (firstCreation pre).map SessionOrder.sender :=
        congrArg Particulars.call hknown
      rw [hfirst] at hcall
      have hp : t.before.phase = .uninitialized := hbefore.sound.owned.1 hcall
      obtain ⟨before, item⟩ := t
      unfold Turn.creation? at hcreates
      dsimp only at hcreates hp hturned hk hopen
      split at hcreates
      · rename_i sender outbound mode sdp
        have hs := hbefore.sound
        dsimp only at hs
        rw [hp] at hturned hs
        obtain ⟨sink, answer, hstart⟩ := hturned.first_step hs hopen hk
        rw [← hafter]
        exact ⟨sink, answer, ((Turn.mem_shown site _).1 hstart).1⟩
      · cases hcreates

namespace Sample

def answer : Item := .message call (.updateSession "answer")

/-- The offer is made, and the other side answers it. -/
theorem run_answered :
    Run site [⟨fresh, create⟩, ⟨offered, .completion offer⟩, ⟨active, answer⟩]
      (handled active answer) [] :=
  .turn _ active [] answer run_active nofun

end Sample

/-- The offer of the media server and the answer to it are the two descriptions, and the answer is what
    is processed. -/
theorem descriptions_current_answered :
    Run Sample.site [⟨Sample.fresh, Sample.create⟩, ⟨Sample.offered, .completion Sample.offer⟩,
      ⟨Sample.active, Sample.answer⟩] (Sample.handled Sample.active Sample.answer) [] ∧
    (Sample.handled Sample.active Sample.answer).desk.leg.particulars =
      ⟨some Sample.call, true, .sendRecv, some "offer", some "answer"⟩ ∧
    ∀ e ∈ Turn.effects Sample.site ⟨Sample.active, Sample.answer⟩,
      e.Quotes Sample.site.server.address
        ⟨some Sample.call, true, .sendRecv, some "offer", some "answer"⟩ := by
  obtain ⟨hknown, -, hquotes⟩ := descriptions_current Sample.run_answered
  obtain ⟨hanswer, -⟩ := hquotes
    [⟨Sample.fresh, Sample.create⟩, ⟨Sample.offered, .completion Sample.offer⟩]
    ⟨Sample.active, Sample.answer⟩ [] rfl
  exact ⟨Sample.run_answered, hknown, hanswer⟩

end CallMedia
