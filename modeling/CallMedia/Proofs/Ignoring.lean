/-
  What is out of place is ignored.

  Each handler looks at what it needs before it does anything: the phase, the group, the mixer, the
  activity in flight, the generation that a slot awaits.  Where that is missing the item is out of place
  (`OutOfPlace`), and nothing comes of it but lines of the journal (`Unmoved`).

  This is read off the handlers themselves and holds of every controller, whether a run leads to it or
  not (`handle_unmoved`).  What is ignored leaves the controller where it was, so any number of items
  that are out of place are ignored one after the other (`foldl_unmoved`).

  On the way back (`outOfPlace_of_unmoved`) the controller has to be one that a run leads to, with an
  inbox that is open: there an item of which nothing comes is out of place, unless it stops the group or
  ends an observation, which may find nothing to do.
-/
import CallMedia.Proofs.Silence

namespace CallMedia

variable {σ : Type}

/-! ## More lines in the journal

Handlers write lines before they find out that there is nothing to do, and some after.  So that nothing
was done is stated up to the journal. -/

namespace Desk

/-- The desk with lines added to the journal. -/
def journal (d : Desk σ) (lines : List Line) : Desk σ :=
  { d with trace := d.trace ++ lines.map .logged }

/-- Nothing was done at a desk: at most the journal has grown. -/
def Unmoved (d d' : Desk σ) : Prop := ∃ lines, d' = d.journal lines

/-- Where not even the journal has grown, nothing was done. -/
theorem Unmoved.refl (d : Desk σ) : d.Unmoved d := ⟨[], by simp [journal]⟩

/-- Nothing done twice is nothing done. -/
theorem Unmoved.trans {d d' d'' : Desk σ} (h : d.Unmoved d') (h' : d'.Unmoved d'') :
    d.Unmoved d'' := by
  obtain ⟨lines, rfl⟩ := h
  obtain ⟨lines', rfl⟩ := h'
  exact ⟨lines ++ lines', by simp [journal]⟩

/-- To write a line is to do nothing. -/
theorem unmoved_log (d : Desk σ) (level : Level) (sentence : String)
    (facts : List (String × String)) : d.Unmoved (d.log level sentence facts) :=
  ⟨[⟨level, sentence, facts⟩], rfl⟩

/-! ## Desks at which nothing is done

One lemma for each handler that looks at the leg itself, with what it misses there. -/

variable {d : Desk σ} (site : Site σ)

theorem createGroup_unmoved (sender : Recipient) (h : d.leg.group ≠ none) :
    d.Unmoved (d.createGroup site sender) := by
  unfold createGroup
  rw [if_pos (Option.isSome_iff_ne_none.2 h)]
  exact d.unmoved_log _ _ _

theorem rejoinMixer_unmoved (direction : JoinDirection) (action : String)
    (h : d.leg.mixer = none) : d.Unmoved (d.rejoinMixer site direction action) := by
  unfold rejoinMixer
  rw [h]
  cases d.leg.connection with
  | none => exact d.unmoved_log _ _ _
  | some k => exact d.unmoved_log _ _ _

theorem leaveMixer_unmoved (h : d.leg.conferencing = false) : d.Unmoved (d.leaveMixer site) := by
  unfold leaveMixer
  rw [h]
  exact .refl d

theorem stop_unmoved (artifact : Bool) (h : d.leg.active = none) :
    d.Unmoved (d.stop site artifact) := by
  have hsame : ({ d with leg := { d.leg with active := none } } : Desk σ) = d := by rw [← h]
  have hidle : d.stopActive site = (.ok none, d) := by
    unfold stopActive
    rw [hsame]
    cases hg : d.leg.group with
    | none => simp only [h, hg]
    | some group => simp only [h, hg]
  unfold stop
  rw [hidle]
  exact .refl d

theorem stopRecording_unmoved (accountId store : Option String)
    (h : ∀ g, d.leg.active ≠ some ⟨.recording, g⟩) :
    d.Unmoved (d.stopRecording site accountId store) := by
  unfold stopRecording
  split
  · next g hactive => exact absurd hactive (h g)
  · exact .refl d

end Desk

/-! ## Items of which nothing comes

The other handlers look at the phase first.  A handler whose item is out of place either finds the
wrong phase, or is one of those above. -/

namespace Controller

/-- Nothing was done by a controller: at most the journal has grown. -/
def Unmoved (c c' : Controller σ) : Prop := c'.phase = c.phase ∧ c.desk.Unmoved c'.desk

theorem Unmoved.refl (c : Controller σ) : c.Unmoved c := ⟨rfl, .refl c.desk⟩

theorem Unmoved.trans {c c' c'' : Controller σ} (h : c.Unmoved c') (h' : c'.Unmoved c'') :
    c.Unmoved c'' := ⟨h'.1.trans h.1, h.2.trans h'.2⟩

/-- What is unmoved has the leg that it had. -/
theorem Unmoved.leg {c c' : Controller σ} (h : c.Unmoved c') : c'.desk.leg = c.desk.leg := by
  obtain ⟨-, lines, hdesk⟩ := h
  rw [hdesk]
  rfl

/-- What is unmoved differs in its journal at most. -/
theorem unmoved_iff {c c' : Controller σ} :
    c.Unmoved c' ↔ ∃ lines, c' = c.atDesk (·.journal lines) := by
  constructor
  · rintro ⟨hphase, lines, hdesk⟩
    refine ⟨lines, ?_⟩
    cases c'
    cases hphase
    cases hdesk
    rfl
  · rintro ⟨lines, rfl⟩
    exact ⟨rfl, lines, rfl⟩

variable (site : Site σ) {c : Controller σ}

/-- What counts only in an active session, and there only where the desk finds something to do. -/
theorem whenActive_unmoved {work : Desk σ → Desk σ}
    (h : c.phase ≠ .active ∨ c.desk.Unmoved (work c.desk)) : c.Unmoved (c.whenActive work) := by
  unfold whenActive
  by_cases hp : c.phase = .active
  · rw [if_pos hp]
    exact ⟨rfl, h.resolve_left (absurd hp)⟩
  · rw [if_neg hp]
    exact .refl c

theorem closeSession_unmoved (h : ¬ (c.phase = .opening ∨ c.phase = .active ∨ c.phase = .updating)) :
    c.Unmoved (c.closeSession site) := by
  unfold closeSession
  split
  · next hp => exact absurd (.inr (.inl hp)) h
  · next hp => exact absurd (.inl hp) h
  · next hp => exact absurd (.inr (.inr hp)) h
  · exact .refl c

/-- A message that is out of place moves nothing. -/
theorem receive_unmoved {sender : Recipient} {m : Message}
    (h : OutOfPlace c.phase c.desk.leg (.message sender m)) : c.Unmoved (c.receive site sender m) := by
  -- one case for each message: what `OutOfPlace` says of it is what its handler looks at
  cases m with
  | createSession outbound mode sdp =>
    show c.Unmoved (c.createSession site sender outbound mode sdp)
    unfold createSession
    rw [if_neg h]
    exact ⟨rfl, c.desk.unmoved_log _ _ _⟩
  | closeSession => exact closeSession_unmoved site h
  | updateSession sdp =>
    show c.Unmoved (c.updateSession site sdp)
    unfold updateSession
    rw [if_neg h]
    exact .refl c
  | createGroup => exact ⟨rfl, Desk.createGroup_unmoved site sender h⟩
  | destroyGroup => exact absurd h id
  | stopGroup => exact absurd h id
  | mute => exact whenActive_unmoved (h.imp_right (Desk.rejoinMixer_unmoved site _ _))
  | unmute => exact whenActive_unmoved (h.imp_right (Desk.rejoinMixer_unmoved site _ _))
  | startRecording order => exact whenActive_unmoved (.inl h)
  | stopRecording accountId store =>
    exact whenActive_unmoved (h.imp_right (Desk.stopRecording_unmoved site accountId store))
  | play order => exact whenActive_unmoved (.inl h)
  | collect order => exact whenActive_unmoved (.inl h)
  | record order => exact whenActive_unmoved (.inl h)
  | stop artifact => exact ⟨rfl, Desk.stop_unmoved site artifact h⟩
  | joinBridge mixer => exact whenActive_unmoved (.inl h)
  | joinConference mixer => exact whenActive_unmoved (.inl h)
  | leave => exact whenActive_unmoved (h.imp_right (Desk.leaveMixer_unmoved site))
  | observe observer => exact absurd h id
  | stopObserving observer => exact absurd h id

/-- An outcome that is not awaited is only written down. -/
theorem arrive_unmoved {e : Completion} (h : ¬ c.desk.leg.Awaits e.category e.generation) :
    c.Unmoved (c.arrive site e) := by
  have hrefused : ((c.desk.leg.slot e.category).accept e.generation).1 = false := by
    rw [← Bool.not_eq_true, Slot.accept_iff]
    exact h
  unfold arrive
  -- the slot is the same whether the outcome is accepted or not; what counts is the answer
  rcases hacc : (c.desk.leg.slot e.category).accept e.generation with ⟨accepted, slot⟩
  rw [hacc] at hrefused
  cases hrefused
  simp only [hacc]
  exact ⟨rfl, c.desk.unmoved_log _ _ _⟩

/-- What is out of place adds lines to the journal, and does nothing else. -/
theorem handle_unmoved {item : Item} (h : OutOfPlace c.phase c.desk.leg item) :
    c.Unmoved (c.handle site item) := by
  -- the line that says what is handled comes first; phase and leg stay
  have hnote : ∀ what, c.Unmoved (c.noteHandling what) := fun what =>
    ⟨rfl, c.desk.unmoved_log _ _ _⟩
  cases item with
  | message sender m =>
    exact (hnote _).trans (receive_unmoved site (c := c.noteHandling s!"message {m.name}") h)
  | completion e =>
    exact (hnote _).trans (arrive_unmoved site
      (c := c.noteHandling s!"{e.category.name} event {e.outcome.describe}") h)
  | query caller => exact .refl c

/-- Any number of items that are out of place are ignored one after the other. -/
theorem foldl_unmoved {items : List Item}
    (h : ∀ item ∈ items, OutOfPlace c.phase c.desk.leg item) :
    c.Unmoved (items.foldl (fun c item => c.handle site item) c) := by
  -- by induction on the items, from a controller that varies
  induction items generalizing c with
  | nil => exact .refl c
  | cons item items ih =>
    obtain ⟨hitem, hitems⟩ := List.forall_mem_cons.1 h
    have hfirst := handle_unmoved site hitem
    refine hfirst.trans (ih fun item' hmem => ?_)
    -- what was out of place still is, since phase and leg stayed
    rw [hfirst.1, hfirst.leg]
    exact hitems item' hmem

end Controller

/-- Where nothing was done, nothing but lines of the journal was written down. -/
theorem Turn.logged_of_unmoved {site : Site σ} {t : Turn σ} (h : t.before.Unmoved (t.after site)) :
    ∀ e ∈ t.effects site, ∃ line, e = .logged line := by
  obtain ⟨-, lines, hdesk⟩ := h
  have htrace : (t.after site).desk.trace = t.before.desk.trace ++ lines.map .logged := by
    rw [hdesk]
    rfl
  rw [Turn.effects_eq htrace]
  intro e he
  obtain ⟨line, -, rfl⟩ := List.mem_map.1 he
  exact ⟨line, rfl⟩

/-- A message or a completion that is out of place is ignored: the controller is the same afterwards,
    phase, leg, and all that surrounds it, with lines added to the journal; neither the media server nor
    a store is asked for anything, and nobody is told anything. -/
theorem out_of_place_ignored (site : Site σ) (c : Controller σ) {item : Item}
    (h : OutOfPlace c.phase c.desk.leg item) :
    (∃ lines, c.handle site item = c.atDesk (·.journal lines)) ∧
    (c.handle site item).phase = c.phase ∧ (c.handle site item).desk.leg = c.desk.leg ∧
    ∀ e ∈ Turn.effects site ⟨c, item⟩, e.asks = false ∧ e.notice? = none := by
  have hsame := Controller.handle_unmoved site h
  refine ⟨Controller.unmoved_iff.1 hsame, hsame.1, hsame.leg, fun e he => ?_⟩
  obtain ⟨line, rfl⟩ := Turn.logged_of_unmoved hsame e he
  exact ⟨rfl, rfl⟩

/-- A play that is asked for once the session is closed, and an outcome of the play that was in flight
    then. -/
theorem out_of_place_ignored_closed :
    (OutOfPlace Sample.closed.phase Sample.closed.desk.leg Sample.play ∧
      (Sample.closed.handle Sample.site Sample.play).desk.leg = Sample.closed.desk.leg) ∧
    (OutOfPlace Sample.closed.phase Sample.closed.desk.leg (.completion Sample.playEnd) ∧
      (Sample.closed.handle Sample.site (.completion Sample.playEnd)).desk.leg =
        Sample.closed.desk.leg) := by
  have hplay : OutOfPlace Sample.closed.phase Sample.closed.desk.leg Sample.play := by
    show Sample.closed.phase ≠ .active
    decide
  have hend : OutOfPlace Sample.closed.phase Sample.closed.desk.leg (.completion Sample.playEnd) :=
    fun hawaited => nomatch hawaited.1
  obtain ⟨-, -, hleg, -⟩ := out_of_place_ignored Sample.site Sample.closed hplay
  obtain ⟨-, -, hleg', -⟩ := out_of_place_ignored Sample.site Sample.closed hend
  exact ⟨⟨hplay, hleg⟩, hend, hleg'⟩

/-! ## On the way back -/

/-- With an inbox that is open, nothing comes of an item only if it is out of place, or stops the group,
    or ends an observation. -/
theorem Turned.outOfPlace {site : Site σ} {w : Surroundings} {p p' : Phase} {l l' : Leg}
    {item : Item} {es : List Effect} (h : Turned site w p l item p' l' es)
    (hopen : w.inboxOpen = true) (hphase : p' = p) (hleg : l' = l) (hes : es = []) :
    OutOfPlace p l item ∨ (∃ sender, item = .message sender .stopGroup) ∨
      ∃ sender observer, item = .message sender (.stopObserving observer) := by
  -- each of the other kinds of turn changes the phase, or the leg, or does something that shows
  cases h with
  | ignored item hout => exact .inl hout
  | groupStopped sender es hstop => exact .inr (.inl ⟨sender, rfl⟩)
  | unobserved sender observer => exact .inr (.inr ⟨sender, observer, rfl⟩)
  | opened sender outbound mode sdp l' es hp ho => rw [hp] at hphase; cases hphase
  | closed sender es hp hr => rcases hp with hp | hp | hp <;> rw [hp] at hphase <;> cases hphase
  | updated sender sdp k l' es hp hk hn => rw [hp] at hphase; cases hphase
  | agreed g o localSdp hp awaited ho =>
    rcases hp with hp | hp <;> rw [hp] at hphase <;> cases hphase
  | broke g o fault hp awaited ho =>
    rcases hp with hp | hp <;> rw [hp] at hphase <;> cases hphase
  | groupCreated sender l' es hg hc => cases hc <;> cases hes
  | groupDestroyed sender l' es hd => cases hd <;> cases hes
  | joined sender m mixer l' es hp hm hj => cases hj <;> cases hes
  | left sender l' es hp hc hl => cases hl <;> cases hes
  | rejoined sender m direction k mixer answer hp hd hk hm => cases hes
  | observed sender observer => cases hes
  | attempted sender m k r l' es hp hm ht =>
    cases ht with
    | unfit e idle => cases hes
    | unprepared group e idle digits => cases hes
    | closed group idle hclosed => rw [hopen] at hclosed; cases hclosed
    | refused group e fate idle hopen =>
      exact absurd hes (List.append_ne_nil_of_right_ne_nil _ (List.cons_ne_nil _ _))
    | accepted group fate idle hopen =>
      exact absurd hes (List.append_ne_nil_of_right_ne_nil _ (List.cons_ne_nil _ _))
  | stopped sender artifact l' es ha hstop =>
    refine absurd ?_ ha
    rw [← hleg]
    rcases hstop.leg with hl | hl <;> rw [hl]
  | stoppedRecording sender accountId store g l' es hp ha hstop =>
    have hnone : l.active = none := by
      rw [← hleg]
      rcases hstop.leg with hl | hl <;> rw [hl]
    rw [ha] at hnone
    cases hnone
  | finished e a result hcat awaited hr =>
    have hpending := awaited.1
    rw [← hleg, Leg.slot_finished, if_pos rfl] at hpending
    cases hpending

/-- In a state that a run leads to, an item of which nothing comes is out of place, or is one of the
    two that may find nothing to do. -/
theorem outOfPlace_of_unmoved {site : Site σ} {c : Controller σ} (h : Reachable site c)
    (hopen : c.desk.inboxOpen = true) {item : Item} (hsame : c.Unmoved (c.handle site item)) :
    OutOfPlace c.phase c.desk.leg item ∨ (∃ sender, item = .message sender .stopGroup) ∨
      ∃ sender observer, item = .message sender (.stopObserving observer) := by
  obtain ⟨hturned, -, -⟩ := Turn.turned (t := ⟨c, item⟩) site h.sound
  refine hturned.outOfPlace hopen hsame.1 hsame.leg ?_
  refine List.filter_eq_nil_iff.2 fun e he => ?_
  obtain ⟨line, rfl⟩ := Turn.logged_of_unmoved (t := ⟨c, item⟩) hsame e he
  exact Bool.false_ne_true

end CallMedia
