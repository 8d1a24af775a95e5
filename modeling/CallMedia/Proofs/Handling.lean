/-
  Handling an item is a turn.

  The handlers are functions on desks, and `Turned` is a relation; this file ties the two together, one
  message after the other.  What each handler comes to has been shown beside the relation for it, so that
  here only the guards are left: where a guard fails the item is out of place, and where it holds, what
  is sound supplies the call, the connection or the mixer that the handler goes on to use.
-/
import CallMedia.Proofs.Sound

namespace CallMedia

namespace Controller

variable {σ : Type} (site : Site σ)

/-- An item leads from one controller to another, as a turn does. -/
def Turns (c : Controller σ) (item : Item) (c' : Controller σ) : Prop :=
  ∃ shown,
    Turned site c.desk.surroundings c.phase c.desk.leg item c'.phase c'.desk.leg shown ∧
    c.desk.Goes shown c'.desk

variable (c : Controller σ)

/-- What is out of place leaves the controller as it is. -/
theorem turns_ignored {item : Item} (h : OutOfPlace c.phase c.desk.leg item) :
    c.Turns site item c :=
  ⟨[], .ignored item h, .refl c.desk⟩

/-! ## Session

A session changes its phase, and the entry action of the new phase does the work. -/

/-- One lemma for each message follows: handling it is the turn that `Turned` describes.  Here a
    session is created, or the message is out of place. -/
theorem createSession_turns (sender : Recipient) (outbound : Bool) (mode : ConnectionMode)
    (sdp : String) :
    c.Turns site (.message sender (.createSession outbound mode sdp))
      (c.createSession site sender outbound mode sdp) := by
  by_cases hp : c.phase = .uninitialized
  · -- `c₁` remembers the call and the mode before its phase changes
    obtain ⟨c₁, hphase, hleg, hgo, hcreate⟩ : ∃ c₁ : Controller σ, c₁.phase = .uninitialized ∧
        c₁.desk.leg = c.desk.leg.ownedBy sender outbound mode sdp ∧ c.desk.Goes [] c₁.desk ∧
        c.createSession site sender outbound mode sdp =
          c₁.enter site (.control "CreateMediaSession") .opening :=
      ⟨⟨c.phase, { c.desk with leg := c.desk.leg.ownedBy sender outbound mode sdp }⟩, hp, rfl,
        c.desk.goes_leg _, if_pos hp⟩
    have hlegal : (c₁.phase, .opening) ∈ Phase.legalTransitions := by rw [hphase]; decide
    obtain ⟨d, hlog, hsame, henter⟩ := c₁.enter_legal site (.control "CreateMediaSession") hlegal
    have hcall : d.leg.call = some sender := by rw [hsame, hleg]; rfl
    obtain ⟨shown, hopen, hgo'⟩ := d.enterOpening_opened site hcall (.control "CreateMediaSession")
    -- what has happened so far is not shown, so that the surroundings are the same
    have hall := hgo.trans hlog
    rw [hall.surroundings rfl, hsame, hleg] at hopen
    rw [hcreate, henter]
    exact ⟨shown, .opened sender outbound mode sdp _ shown hp hopen, hall.trans hgo'⟩
  · unfold createSession
    rw [if_neg hp]
    exact ⟨[], .ignored _ hp, c.desk.goes_log (Line.ordinary_debug (by simp))⟩

variable {c}

/-- A session is closed in each of the three phases in which there is one to close. -/
theorem closeSession_turns (h : Sound c.phase c.desk.leg) (sender : Recipient) :
    c.Turns site (.message sender .closeSession) (c.closeSession site) := by
  by_cases hp : c.phase = .opening ∨ c.phase = .active ∨ c.phase = .updating
  · -- each of the three phases may change to the inactive one
    have hlegal : (c.phase, .inactive) ∈ Phase.legalTransitions := by
      rcases hp with hp | hp | hp <;> rw [hp] <;> decide
    have hclose : c.closeSession site = c.enter site (.control "CloseMediaSession") .inactive := by
      unfold closeSession
      rcases hp with hp | hp | hp <;> rw [hp]
    obtain ⟨call, hcall⟩ := h.call_of_ne (by rcases hp with hp | hp | hp <;> rw [hp] <;> decide)
    obtain ⟨d, hlog, hsame, henter⟩ := c.enter_legal site (.control "CloseMediaSession") hlegal
    obtain ⟨shown, hrel, hleg, hgo⟩ := d.enterInactive_released site (hsame ▸ hcall)
      (.control "CloseMediaSession")
    rw [hlog.surroundings rfl] at hgo
    rw [hsame] at hrel hleg hgo
    rw [hclose, henter]
    refine ⟨_, ?_, hlog.trans hgo⟩
    show Turned _ _ _ _ _ _ (d.enterInactive site (.control "CloseMediaSession")).leg _
    rw [hleg]
    exact .closed sender shown hp hrel
  · -- in the other phases the message is dropped without a line
    have hclose : c.closeSession site = c := by
      unfold closeSession
      split
      · next hactive => exact absurd (.inr (.inl hactive)) hp
      · next hopening => exact absurd (.inl hopening) hp
      · next hupdating => exact absurd (.inr (.inr hupdating)) hp
      · rfl
    rw [hclose]
    exact c.turns_ignored site hp

/-- A new description is taken up only while nothing is being negotiated. -/
theorem updateSession_turns (h : Sound c.phase c.desk.leg) (sender : Recipient) (sdp : String) :
    c.Turns site (.message sender (.updateSession sdp)) (c.updateSession site sdp) := by
  by_cases hp : c.phase = .active
  · obtain ⟨call, hcall⟩ := h.call_of_ne (by rw [hp]; decide)
    -- an active session has a connection, on which the answer is processed
    obtain ⟨k, hk⟩ := Option.ne_none_iff_exists'.1 (h.established (.inl hp))
    -- `c₁` remembers the new description before its phase changes
    obtain ⟨c₁, hphase, hleg, hgo, hupdate⟩ : ∃ c₁ : Controller σ, c₁.phase = .active ∧
        c₁.desk.leg = { c.desk.leg with remoteSdp := some sdp } ∧ c.desk.Goes [] c₁.desk ∧
        c.updateSession site sdp = c₁.enter site (.control "UpdateMediaSession") .updating :=
      ⟨⟨c.phase, { c.desk with leg := { c.desk.leg with remoteSdp := some sdp } }⟩, hp, rfl,
        c.desk.goes_leg _, if_pos hp⟩
    have hlegal : (c₁.phase, .updating) ∈ Phase.legalTransitions := by rw [hphase]; decide
    obtain ⟨d, hlog, hsame, henter⟩ := c₁.enter_legal site (.control "UpdateMediaSession") hlegal
    have hsame' := hsame.trans hleg
    have hcall' : d.leg.call = some call := by rw [hsame']; exact hcall
    have hk' : d.leg.connection = some k := by rw [hsame']; exact hk
    obtain ⟨shown, hneg, hgo'⟩ :=
      d.enterUpdating_negotiates site hcall' hk' (.control "UpdateMediaSession")
    have hall := hgo.trans hlog
    rw [hall.surroundings rfl, hsame'] at hneg
    rw [hupdate, henter]
    exact ⟨shown, .updated sender sdp k _ shown hp hk hneg, hall.trans hgo'⟩
  · unfold updateSession
    rw [if_neg hp]
    exact c.turns_ignored site hp

/-! ## Group

The group has no phase of its own: whether it is there decides. -/

/-- A group is made in an active session, and only one. -/
theorem createGroup_turns (sender : Recipient) :
    c.Turns site (.message sender .createGroup) (c.atDesk (·.createGroup site sender)) := by
  cases hg : c.desk.leg.group with
  | none =>
    obtain ⟨shown, hrel, hgo⟩ := c.desk.createGroup_created site sender hg
    exact ⟨shown, .groupCreated sender _ shown hg hrel, hgo⟩
  | some group =>
    -- a group that is there is used again, which only the journal tells
    have hreuse : c.desk.createGroup site sender =
        c.desk.log .debug "Reusing existing media group" [] := by
      unfold Desk.createGroup
      rw [hg]
      rfl
    have hout : OutOfPlace c.phase c.desk.leg (.message sender .createGroup) := by
      show c.desk.leg.group ≠ none
      rw [hg]
      exact Option.some_ne_none group
    show c.Turns site _ ⟨c.phase, c.desk.createGroup site sender⟩
    rw [hreuse]
    exact ⟨[], .ignored _ hout, c.desk.goes_log (Line.ordinary_debug (by simp))⟩

/-- A group is destroyed in any phase. -/
theorem destroyGroup_turns (sender : Recipient) :
    c.Turns site (.message sender .destroyGroup) (c.atDesk (·.destroyGroup site sender)) := by
  obtain ⟨shown, hrel, hgo⟩ := c.desk.destroyGroup_destroyed site sender
  exact ⟨shown, .groupDestroyed sender _ shown hrel, hgo⟩

/-- A group is stopped in any phase. -/
theorem stopGroup_turns (sender : Recipient) :
    c.Turns site (.message sender .stopGroup) (c.atDesk (·.stopGroup site)) := by
  obtain ⟨shown, hrel, hleg, hgo⟩ := c.desk.stopGroup_stopped site
  refine ⟨shown, ?_, hgo⟩
  show Turned _ _ _ _ _ _ (c.desk.stopGroup site).leg _
  rw [hleg]
  exact .groupStopped sender shown hrel

/-! ## Activities

Four messages, one guard, and one relation for what comes of them. -/

/-- A message that counts only in an active session. -/
theorem whenActive_turns {item : Item} {work : Desk σ → Desk σ}
    (hout : c.phase ≠ .active → OutOfPlace c.phase c.desk.leg item)
    (hwork : c.phase = .active → c.Turns site item (c.atDesk work)) :
    c.Turns site item (c.whenActive work) := by
  unfold whenActive
  by_cases hp : c.phase = .active
  · rw [if_pos hp]
    exact hwork hp
  · rw [if_neg hp]
    exact c.turns_ignored site (hout hp)

/-- Playing, collecting and recording pass if the session is active, and are then attempted. -/
theorem play_turns (sender : Recipient) (order : PlayOrder) :
    c.Turns site (.message sender (.play order)) (c.whenActive (·.play site sender order)) := by
  refine whenActive_turns site (fun hp => hp) (fun hp => ?_)
  obtain ⟨r, shown, hrel, hgo⟩ := c.desk.play_attempted site sender order
  refine ⟨shown, .attempted sender (.play order) _ r _ shown hp rfl ?_, hgo⟩
  -- playing names neither account nor store nor key
  rw [Ask.noted_eq rfl rfl, Ask.begun_eq rfl rfl rfl]
  exact hrel

/-- Collecting digits differs from playing only in what is asked for. -/
theorem collect_turns (sender : Recipient) (order : CollectOrder) :
    c.Turns site (.message sender (.collect order))
      (c.whenActive (·.collect site sender order)) := by
  refine whenActive_turns site (fun hp => hp) (fun hp => ?_)
  obtain ⟨r, shown, hrel, hgo⟩ := c.desk.collect_attempted site sender order
  refine ⟨shown, .attempted sender (.collect order) _ r _ shown hp rfl ?_, hgo⟩
  rw [Ask.noted_eq rfl rfl, Ask.begun_eq rfl rfl rfl]
  exact hrel

/-- Recording remembers its key besides. -/
theorem record_turns (sender : Recipient) (order : RecordOrder) :
    c.Turns site (.message sender (.record order))
      (c.whenActive (fun d => (d.record site sender order).2)) := by
  refine whenActive_turns site (fun hp => hp) (fun hp => ?_)
  obtain ⟨shown, hrel, hgo⟩ := c.desk.record_attempted site sender order
  refine ⟨shown, .attempted sender (.record order) _ (c.desk.record site sender order).1 _ shown hp
    rfl ?_, hgo⟩
  rw [Ask.noted_eq rfl rfl, Ask.begun_eq rfl rfl rfl]
  exact hrel

/-- Recording the call is a recording that is remembered. -/
theorem startRecording_turns (sender : Recipient) (order : CallRecordingOrder) :
    c.Turns site (.message sender (.startRecording order))
      (c.whenActive (·.startRecording site sender order)) := by
  refine whenActive_turns site (fun hp => hp) (fun hp => ?_)
  obtain ⟨r, l, shown, hrel, hleg, hgo⟩ := c.desk.startRecording_attempted site sender order
  refine ⟨shown, ?_, hgo⟩
  -- the leg is the one that the attempt leaves, with the call recording remembered
  show Turned _ _ _ _ _ _ (c.desk.startRecording site sender order).leg _
  rw [hleg]
  exact .attempted sender (.startRecording order) _ r l shown hp rfl hrel

/-! ## Stopping

Here the guards look at what is in flight. -/

/-- A stop needs something in flight, and there is an owning call then. -/
theorem stop_turns (h : Sound c.phase c.desk.leg) (sender : Recipient) (artifact : Bool) :
    c.Turns site (.message sender (.stop artifact)) (c.atDesk (·.stop site artifact)) := by
  -- the handler looks at what is in flight itself, so that the guard is read off its outcome
  obtain ⟨shown, hrel, hgo⟩ := c.desk.stop_stopped site artifact h.call_of_active
  cases ha : c.desk.leg.active with
  | some a =>
    have hbusy : c.desk.leg.active ≠ none := by
      rw [ha]
      exact Option.some_ne_none a
    exact ⟨shown, .stopped sender artifact _ shown hbusy hrel, hgo⟩
  | none =>
    obtain ⟨hleg, hes⟩ := hrel.idle ha
    have hout : OutOfPlace c.phase c.desk.leg (.message sender (.stop artifact)) := ha
    subst hes
    refine ⟨[], ?_, hgo⟩
    show Turned _ _ _ _ _ _ (c.desk.stop site artifact).leg _
    rw [hleg]
    exact .ignored _ hout

/-- Stopping a recording needs a recording in flight, in an active session. -/
theorem stopRecording_turns (h : Sound c.phase c.desk.leg) (sender : Recipient)
    (accountId store : Option String) :
    c.Turns site (.message sender (.stopRecording accountId store))
      (c.whenActive (·.stopRecording site accountId store)) := by
  refine whenActive_turns site (fun hp => .inl hp) (fun hp => ?_)
  by_cases ha : ∃ g, c.desk.leg.active = some ⟨.recording, g⟩
  · obtain ⟨g, ha⟩ := ha
    obtain ⟨shown, hrel, hgo⟩ := c.desk.stopRecording_stopped site accountId store ha
      h.call_of_active
    exact ⟨shown, .stoppedRecording sender accountId store g _ shown hp ha hrel, hgo⟩
  · -- a stop that is out of place here leaves no line
    have hnone : c.desk.stopRecording site accountId store = c.desk := by
      unfold Desk.stopRecording
      split
      · next g hg => exact absurd ⟨g, hg⟩ ha
      · rfl
    show c.Turns site _ ⟨c.phase, c.desk.stopRecording site accountId store⟩
    rw [hnone]
    exact c.turns_ignored site (.inr fun g hg => ha ⟨g, hg⟩)

/-! ## Mixers

These need a connection, and leaving or muting needs a mixer besides. -/

/-- Bridges and conferences are joined alike. -/
theorem joinMixer_turns (h : Sound c.phase c.desk.leg) (sender : Recipient) (m : Message)
    (mixer : MixerHandle) (kind : String) (hm : m = .joinBridge mixer ∨ m = .joinConference mixer) :
    c.Turns site (.message sender m) (c.whenActive (·.joinMixer site sender mixer kind)) := by
  refine whenActive_turns site ?_ (fun hp => ?_)
  · intro hp
    rcases hm with rfl | rfl <;> exact hp
  · obtain ⟨call, hcall⟩ := h.call_of_ne (by rw [hp]; decide)
    obtain ⟨k, hk⟩ := Option.ne_none_iff_exists'.1 (h.established (.inl hp))
    obtain ⟨shown, hrel, hgo⟩ := c.desk.joinMixer_joined site hcall sender mixer kind hk
    exact ⟨shown, .joined sender m mixer _ shown hp hm hrel, hgo⟩

/-- A mixer is left by a leg that confers; that has a connection and a mixer then. -/
theorem leaveMixer_turns (h : Sound c.phase c.desk.leg) (sender : Recipient) :
    c.Turns site (.message sender .leave) (c.whenActive (·.leaveMixer site)) := by
  refine whenActive_turns site (fun hp => .inl hp) (fun hp => ?_)
  cases hc : c.desk.leg.conferencing with
  | true =>
    -- what is sound supplies the call, the connection and the mixer
    obtain ⟨call, hcall⟩ := h.call_of_ne (by rw [hp]; decide)
    obtain ⟨k, hk⟩ := Option.ne_none_iff_exists'.1 (h.conferring hc)
    obtain ⟨mixer, hm⟩ := Option.isSome_iff_exists.1 (h.mixed.trans hc)
    obtain ⟨shown, hrel, hgo⟩ := c.desk.leaveMixer_left site hcall hc hk hm
    exact ⟨shown, .left sender _ shown hp hc hrel, hgo⟩
  | false =>
    have hnone : c.desk.leaveMixer site = c.desk := by
      unfold Desk.leaveMixer
      rw [hc]
    show c.Turns site _ ⟨c.phase, c.desk.leaveMixer site⟩
    rw [hnone]
    exact c.turns_ignored site (.inr hc)

/-- Muting and unmuting are one thing in two directions. -/
theorem rejoinMixer_turns (h : Sound c.phase c.desk.leg) (sender : Recipient) (m : Message)
    (direction : JoinDirection) (action : String)
    (hd : m = .mute ∧ direction = .recv ∨ m = .unmute ∧ direction = .duplex)
    (haction : action = "mute" ∨ action = "unmute") :
    c.Turns site (.message sender m) (c.whenActive (·.rejoinMixer site direction action)) := by
  have hout : c.phase ≠ .active ∨ c.desk.leg.mixer = none →
      OutOfPlace c.phase c.desk.leg (.message sender m) := by
    intro hn
    rcases hd with ⟨rfl, -⟩ | ⟨rfl, -⟩ <;> exact hn
  refine whenActive_turns site (fun hp => hout (.inl hp)) (fun hp => ?_)
  obtain ⟨k, hk⟩ := Option.ne_none_iff_exists'.1 (h.established (.inl hp))
  cases hm : c.desk.leg.mixer with
  | some mixer =>
    obtain ⟨answer, hleg, hgo⟩ := c.desk.rejoinMixer_goes site direction haction hk hm
    refine ⟨_, ?_, hgo⟩
    show Turned _ _ _ _ _ _ (c.desk.rejoinMixer site direction action).leg _
    rw [hleg]
    exact .rejoined sender m direction k mixer answer hp hd hk hm
  | none =>
    -- without a mixer there is only a line in the journal
    have hlog : c.desk.rejoinMixer site direction action =
        c.desk.log .debug s!"No mixer to {action}" [] := by
      unfold Desk.rejoinMixer
      rw [hk, hm]
    show c.Turns site _ ⟨c.phase, c.desk.rejoinMixer site direction action⟩
    rw [hlog]
    exact ⟨[], .ignored _ (hout (.inr hm)), c.desk.goes_log (Line.ordinary_debug (by simp [toString]))⟩

/-! ## Every message, every completion, every item

Now the cases are put together, one for each constructor. -/

/-- Whoever registers is told so. -/
theorem observe_turns (sender observer : Recipient) :
    c.Turns site (.message sender (.observe observer)) (c.atDesk (observe observer)) := by
  have hleg : (observe observer c.desk).leg =
      { c.desk.leg with observers := c.desk.leg.observers.insert observer } := by
    show ({ (c.desk.tell observer .observing).leg with observers := _ } : Leg) = _
    rw [Desk.leg_tell]
  refine ⟨_, ?_, (c.desk.goes_tell observer .observing).leg _⟩
  show Turned _ _ _ _ _ _ (observe observer c.desk).leg _
  rw [hleg]
  exact .observed sender observer

/-- Every message has its turn. -/
theorem receive_turns (h : Sound c.phase c.desk.leg) (sender : Recipient) (m : Message) :
    c.Turns site (.message sender m) (c.receive site sender m) := by
  cases m with
  | createSession outbound mode sdp => exact c.createSession_turns site sender outbound mode sdp
  | closeSession => exact closeSession_turns site h sender
  | updateSession sdp => exact updateSession_turns site h sender sdp
  | createGroup => exact createGroup_turns site sender
  | destroyGroup => exact destroyGroup_turns site sender
  | stopGroup => exact stopGroup_turns site sender
  | mute => exact rejoinMixer_turns site h sender _ _ _ (.inl ⟨rfl, rfl⟩) (.inl rfl)
  | unmute => exact rejoinMixer_turns site h sender _ _ _ (.inr ⟨rfl, rfl⟩) (.inr rfl)
  | startRecording order => exact startRecording_turns site sender order
  | stopRecording accountId store => exact stopRecording_turns site h sender accountId store
  | play order => exact play_turns site sender order
  | collect order => exact collect_turns site sender order
  | record order => exact record_turns site sender order
  | stop artifact => exact stop_turns site h sender artifact
  | joinBridge mixer => exact joinMixer_turns site h sender _ mixer "bridge" (.inl rfl)
  | joinConference mixer => exact joinMixer_turns site h sender _ mixer "conference" (.inr rfl)
  | leave => exact leaveMixer_turns site h sender
  | observe observer => exact observe_turns site sender observer
  | stopObserving observer => exact ⟨[], .unobserved sender observer, c.desk.goes_leg _⟩

/-- Every completion has its turn: stale, of the negotiation, or of an activity. -/
theorem arrive_turns (h : Sound c.phase c.desk.leg) (e : Completion) :
    c.Turns site (.completion e) (c.arrive site e) := by
  by_cases hw : c.desk.leg.Awaits e.category e.generation
  · rw [arrive_awaited site hw]
    -- `c₁` is the controller with the slot disarmed, which acts on the outcome
    obtain ⟨c₁, hc₁⟩ : ∃ c₁ : Controller σ, c₁ = c.atDesk (·.disarm e.category) := ⟨_, rfl⟩
    have hphase : c₁.phase = c.phase := by rw [hc₁]; rfl
    have hleg : c₁.desk.leg = c.desk.leg.disarmed e.category := by rw [hc₁]; rfl
    have hgo : c.desk.Goes [] c₁.desk := by rw [hc₁]; exact c.desk.goes_setSlot _ _
    rw [← hc₁]
    cases hcat : e.category with
    | group a =>
      rw [hcat] at hw hleg
      obtain ⟨result, hr, hphase', hleg', hgo'⟩ := outcomeAccepted_goes site hcat e.generation hleg
      rw [hgo.surroundings rfl] at hgo'
      refine ⟨_, ?_, hgo.trans hgo'⟩
      rw [hphase', hphase, hleg']
      exact .finished e a result hcat hw hr
    | negotiation =>
      rw [hcat] at hw hleg
      obtain ⟨g, o⟩ := e
      cases o with
      | playback o => cases hcat
      | digitCollection o => cases hcat
      | recording o => cases hcat
      | negotiation o =>
        have hp := (h.negotiating hw.1).1
        obtain ⟨call, hcall⟩ := h.call_of_ne (by rcases hp with hp | hp <;> rw [hp] <;> decide)
        have hcall₁ : c₁.desk.leg.call = some call := by rw [hleg]; exact hcall
        rcases c₁.negotiationEnded_goes site (hphase ▸ hp) hcall₁ o with
          ⟨localSdp, ho, hphase', hleg', hgo'⟩ | ⟨fault, ho, hphase', hleg', hgo'⟩
        · rw [hgo.surroundings rfl, hleg] at hgo'
          refine ⟨_, ?_, hgo.trans hgo'⟩
          show Turned _ _ _ _ _ (c₁.negotiationEnded site o).phase
            (c₁.negotiationEnded site o).desk.leg _
          rw [hphase', hleg', hleg]
          exact .agreed g o localSdp hp hw ho
        · rw [hgo.surroundings rfl, hleg] at hgo'
          refine ⟨_, ?_, hgo.trans hgo'⟩
          show Turned _ _ _ _ _ (c₁.negotiationEnded site o).phase
            (c₁.negotiationEnded site o).desk.leg _
          rw [hphase', hleg', hleg]
          exact .broke g o fault hp hw ho
  · obtain ⟨hphase, hleg, hgo⟩ := arrive_stale site hw
    refine ⟨[], ?_, hgo⟩
    rw [hphase, hleg]
    exact .ignored _ hw

/-- Handling an item is a turn. -/
theorem handle_turns (h : Sound c.phase c.desk.leg) (item : Item) :
    c.Turns site item (c.handle site item) := by
  -- the line that says what is handled comes first, and changes nothing that a turn looks at
  have hnote : ∀ what c', (c.noteHandling what).Turns site item c' → c.Turns site item c' := by
    intro what c' hturn
    have hline : Line.Ordinary ⟨.debug, s!"Processing {what}", [("state", c.phase.name)]⟩ :=
      Line.ordinary_debug (by simp [toString])
    have hgo : c.desk.Goes [] (c.noteHandling what).desk := c.desk.goes_log hline
    obtain ⟨shown, hrel, hgo'⟩ := hturn
    rw [hgo.surroundings rfl] at hrel
    exact ⟨shown, hrel, hgo.trans hgo'⟩
  cases item with
  | message sender m =>
    have hsound : Sound (c.noteHandling s!"message {m.name}").phase
        (c.noteHandling s!"message {m.name}").desk.leg := h
    exact hnote _ _ (receive_turns site hsound sender m)
  | completion e =>
    have hsound : Sound (c.noteHandling s!"{e.category.name} event {e.outcome.describe}").phase
        (c.noteHandling s!"{e.category.name} event {e.outcome.describe}").desk.leg := h
    exact hnote _ _ (arrive_turns site hsound e)
  -- a query is answered outside the controller
  | query caller => exact c.turns_ignored site trivial

end Controller

end CallMedia
