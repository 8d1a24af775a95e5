/-
  What comes of opening, renegotiating and releasing a session.

  Opening fails at one of its allocations, or gets as far as starting the negotiation (`Opened`);
  renegotiating starts it at once (`Negotiates`).  Wherever either stops short the owning call is told
  the fault of the failing step, once.  Releasing gives at most one command and cannot fail
  (`Released`).

  A legal change of phase runs the entry action of the new phase and nothing else (`enter_legal`).
-/
import CallMedia.Proofs.Starting

namespace CallMedia

namespace Leg

/-- The leg with a session and a connection, the outcome of the negotiation bound to the call. -/
def connected (l : Leg) (s : SessionHandle) (k : ConnectionHandle) : Leg :=
  { l with session := some s, connection := some k }.setSlot .negotiation
    { l.slot .negotiation with replyTo := l.call }

/-- The leg with the description that the media server made, if it made one. -/
def described (l : Leg) (localSdp : Option String) : Leg :=
  { l with localSdp := localSdp.or l.localSdp }

end Leg

/-- What comes of starting a step of the negotiation; the call is told if it fails. -/
inductive Negotiates (w : Surroundings) (l : Leg) (what : Operation) : Leg → List Effect → Prop
  /-- The step is started, and its outcome awaited. -/
  | begun (g : Nat) (l' : Leg) (es : List Effect)
      (hl : Launched w l .negotiation what (.ok g) l' es) : Negotiates w l what l' es
  /-- It could not be started. -/
  | failed (e : Fault) (l' : Leg) (es : List Effect)
      (hl : Launched w l .negotiation what (.error e) l' es) :
      Negotiates w l what l' (es ++ w.tellingCall l' (.failure e))

/-- What comes of opening a session. -/
inductive Opened (w : Surroundings) (l : Leg) : Leg → List Effect → Prop
  /-- No session is to be had. -/
  | noSession (e : Fault) :
      Opened w l l (.created .session (.error e) :: w.tellingCall l (.failure e))
  /-- There is a session, and it stays, but no connection. -/
  | noConnection (name : String) (e : Fault) :
      Opened w l { l with session := some ⟨name⟩ }
        (.created .session (.ok name) :: .created (.connection ⟨name⟩ l.mode) (.error e) ::
          w.tellingCall l (.failure e))
  /-- Both are there, and the first step is started or fails. -/
  | negotiates (name name' : String) (l' : Leg) (es : List Effect)
      (hn : Negotiates w (l.connected ⟨name⟩ ⟨name'⟩) (Desk.firstStep l ⟨name'⟩) l' es) :
      Opened w l l'
        (.created .session (.ok name) :: .created (.connection ⟨name⟩ l.mode) (.ok name') :: es)

/-- What comes of releasing the session. -/
inductive Released (l : Leg) : List Effect → Prop
  /-- There is no session to release. -/
  | nothing (hs : l.session = none) : Released l []
  /-- There is one, and it is gone whatever the media server answers. -/
  | released (s : SessionHandle) (answer : Except Fault Unit) (hs : l.session = some s) :
      Released l [.performed (.releaseSession s) answer]

namespace Desk

variable {σ : Type} (site : Site σ) (d : Desk σ)

/-- Whichever side makes the offer, the first step is one of the negotiation. -/
theorem firstStep_category (l : Leg) (k : ConnectionHandle) :
    (firstStep l k).category = .negotiation := by
  unfold firstStep
  split <;> rfl

variable {d} in
/-- Starting a step of the negotiation from a desk reached with `before` shown. -/
theorem negotiate_negotiates {d₁ : Desk σ} {before : List Effect} {call : Recipient}
    {what : Operation} {sentence : Fault → String} (hcat : what.category = .negotiation)
    (hgo : d.Goes before d₁) (hb : before.filterMap Effect.held? = [])
    (hcall : d₁.leg.call = some call)
    (hline : ∀ e, Line.Ordinary ⟨.error, sentence e, []⟩) :
    ∃ shown,
      Negotiates d.surroundings d₁.leg what
        (match d₁.negotiate site what with
          | (.ok (), d) => d
          | (.error e, d) => (d.log .error (sentence e) []).tellCall (.failure e)).leg shown ∧
      d.Goes (before ++ shown)
        (match d₁.negotiate site what with
          | (.ok (), d) => d
          | (.error e, d) => (d.log .error (sentence e) []).tellCall (.failure e)) := by
  unfold negotiate
  obtain ⟨shown, hl, hgo'⟩ := d₁.launched site what
  rw [hgo.surroundings hb, hcat] at hl
  have hall := hgo.trans hgo'
  rcases hd : d₁.launch site what with ⟨result, d₂⟩
  rw [hd] at hl hall
  dsimp only at hl hall
  cases result with
  -- nothing is told of a step that was started
  | ok g => exact ⟨shown, .begun g _ shown hl, hall⟩
  | error e =>
    dsimp only
    -- a launch that failed has changed no more than a slot
    have hcall₂ : d₂.leg.call = some call := by
      generalize d₂.leg = l₂ at hl ⊢
      cases hl with
      | closed _ => exact hcall
      | refused _ _ _ => exact hcall
    have htell := (hall.log (hline e)).tellCall hcall₂ (.failure e)
    rw [List.append_assoc] at htell
    refine ⟨_, ?_, htell⟩
    rw [leg_tellCall, leg_log]
    exact .failed e _ shown hl

/-! ## The entry actions -/

/-- A session is opened as `Opened` says. -/
theorem enterOpening_opened {call : Recipient} (hcall : d.leg.call = some call) (t : Trigger) :
    ∃ shown,
      Opened d.surroundings d.leg (d.enterOpening site t).leg shown ∧
      d.Goes shown (d.enterOpening site t) := by
  have hline : ∀ e : Fault,
      Line.Ordinary ⟨.error, s!"Could not open media session: {e.message}", []⟩ :=
    fun e => Line.ordinary_error (by simp [toString])
  unfold enterOpening openSession
  rcases hs : d.create site .session with ⟨created, d₁⟩
  obtain ⟨hgo₁, hleg₁⟩ := goes_create site hs
  cases created with
  | error e =>
    have hcall₁ : (d₁.log .error s!"Could not open media session: {e.message}" []).leg.call =
        some call := by rw [leg_log, hleg₁, hcall]
    have htell := (hgo₁.log (hline e)).tellCall hcall₁ (.failure e)
    rw [leg_log, hleg₁] at htell
    refine ⟨_, ?_, htell⟩
    rw [leg_tellCall, leg_log, hleg₁]
    exact .noSession e
  | ok name =>
    dsimp only
    rw [hleg₁]
    -- `d₂` is the desk that holds the session
    have hgo₂ := hgo₁.leg { d.leg with session := some ⟨name⟩ }
    generalize hd₂ : ({ d₁ with leg := { d.leg with session := some ⟨name⟩ } } : Desk σ) = d₂
      at hgo₂ ⊢
    have hleg₂ : d₂.leg = { d.leg with session := some ⟨name⟩ } := by rw [← hd₂]
    rcases hk : d₂.create site (.connection ⟨name⟩ d.leg.mode) with ⟨created, d₃⟩
    obtain ⟨hgo₃, hleg₃⟩ := goes_create site hk
    have hall := hgo₂.trans hgo₃
    cases created with
    | error e =>
      have hcall₃ : (d₃.log .error s!"Could not open media session: {e.message}" []).leg.call =
          some call := by rw [leg_log, hleg₃, hleg₂, hcall]
      have htell := (hall.log (hline e)).tellCall hcall₃ (.failure e)
      rw [leg_log, hleg₃, hleg₂] at htell
      refine ⟨_, ?_, htell⟩
      rw [leg_tellCall, leg_log, hleg₃, hleg₂]
      exact .noConnection name e
    | ok name' =>
      dsimp only
      -- `d₄` is the desk that holds the connection as well, with the call bound
      have hcall₃ : d₃.leg.call = some call := by rw [hleg₃, hleg₂, hcall]
      rw [hcall₃]
      dsimp only
      generalize hd₄ : bind _ .negotiation call = d₄
      have hgo₄ : d.Goes [.created .session (.ok name),
          .created (.connection ⟨name⟩ d.leg.mode) (.ok name')] d₄ := by
        rw [← hd₄]
        exact hall.leg _
      have hleg₄ : d₄.leg = d.leg.connected ⟨name⟩ ⟨name'⟩ := by
        rw [← hd₄]
        show ({ d₃.leg with call := _, connection := _ } : Leg).setSlot _ _ = _
        rw [hleg₃, hleg₂, Leg.connected, hcall]
        rfl
      have hfirst : firstStep d₄.leg ⟨name'⟩ = firstStep d.leg ⟨name'⟩ := by
        rw [hleg₄]
        rfl
      obtain ⟨shown, hneg, hgo⟩ := negotiate_negotiates site (firstStep_category d₄.leg ⟨name'⟩)
        hgo₄ rfl (by rw [hleg₄]; exact hcall) hline
      refine ⟨_, .negotiates name name' _ shown ?_, hgo⟩
      rw [← hleg₄, ← hfirst]
      exact hneg

/-- A new description is answered by one step of the negotiation. -/
theorem enterUpdating_negotiates {call : Recipient} (hcall : d.leg.call = some call)
    {k : ConnectionHandle} (hk : d.leg.connection = some k) (t : Trigger) :
    ∃ shown,
      Negotiates d.surroundings d.leg (.processAnswer k (d.leg.remoteSdp.getD ""))
        (d.enterUpdating site t).leg shown ∧
      d.Goes shown (d.enterUpdating site t) := by
  have hline : ∀ e : Fault,
      Line.Ordinary ⟨.error, s!"Could not update media session: {e.message}", []⟩ :=
    fun e => Line.ordinary_error (by simp [toString])
  unfold enterUpdating renegotiate
  rw [hk]
  exact negotiate_negotiates site rfl (.refl d) rfl hcall hline

/-- What a session holds is released as `Released` says, and the leg is bare afterwards. -/
theorem release_released :
    ∃ shown, Released d.leg shown ∧ (d.release site).leg = d.leg.released ∧
      d.Goes shown (d.release site) := by
  unfold release
  cases hs : d.leg.session with
  | none => exact ⟨[], .nothing hs, rfl, d.goes_leg _⟩
  | some session =>
    dsimp only
    rcases hp : d.perform site (.releaseSession session) with ⟨answer, d₁⟩
    obtain ⟨hgo, hleg⟩ := goes_perform site hp
    cases answer with
    | ok u =>
      refine ⟨_, .released session (.ok ()) hs, ?_, hgo.leg _⟩
      dsimp only
      rw [hleg]
    | error e =>
      have hline : Line.Ordinary
          ⟨.warn, s!"Could not release media session {session.name}: {e.message}", []⟩ :=
        Line.ordinary_warn (by simp [toString])
      refine ⟨_, .released session (.error e) hs, ?_, (hgo.log hline).leg _⟩
      dsimp only
      rw [leg_log, hleg]

/-- Closing releases the session and tells the owning call. -/
theorem enterInactive_released {call : Recipient} (hcall : d.leg.call = some call) (t : Trigger) :
    ∃ shown, Released d.leg shown ∧ (d.enterInactive site t).leg = d.leg.released ∧
      d.Goes (shown ++ d.surroundings.tellingCall d.leg .sessionClosed) (d.enterInactive site t) := by
  unfold enterInactive
  obtain ⟨shown, hrel, hleg, hgo⟩ := d.release_released site
  have hlog := hgo.info "Media session closed"
  have hcall' : ((d.release site).log .info "Media session closed" []).leg.call = some call := by
    rw [leg_log, hleg]
    exact hcall
  have htell := hlog.tellCall hcall' .sessionClosed
  refine ⟨shown, hrel, ?_, ?_⟩
  · rw [leg_tellCall, leg_log, hleg]
  · rw [leg_log, hleg] at htell
    exact htell

/-- Agreement is told to the owning call, with the descriptions as they are now. -/
theorem enterActive_goes {call : Recipient} (hcall : d.leg.call = some call)
    (localSdp : Option String) :
    (d.enterActive site (.negotiated localSdp)).leg = d.leg.described localSdp ∧
      d.Goes (d.surroundings.tellingCall d.leg
          (.sessionReady ((d.leg.described localSdp).info site.server.address)))
        (d.enterActive site (.negotiated localSdp)) := by
  unfold enterActive
  -- without a new description the one so far stays
  cases localSdp with
  | none =>
    have hlog := (Goes.refl d).info "Media session is active"
    refine ⟨?_, hlog.tellCall hcall _⟩
    rw [leg_tellCall]
    rfl
  | some sdp =>
    have hlog := (d.goes_leg (d.leg.described (some sdp))).info "Media session is active"
    refine ⟨?_, hlog.tellCall hcall _⟩
    rw [leg_tellCall]
    rfl

/-- A failed negotiation is told to the owning call, and nothing is given up for it. -/
theorem enterFailed_goes {call : Recipient} (hcall : d.leg.call = some call) (fault : Fault) :
    (d.enterFailed (.negotiationFailed fault)).leg = d.leg ∧
      d.Goes (d.surroundings.tellingCall d.leg (.failure fault))
        (d.enterFailed (.negotiationFailed fault)) := by
  unfold enterFailed
  have hline : Line.Ordinary
      ⟨.warn, s!"Media server returned error: {fault.message}. Failing call", []⟩ :=
    Line.ordinary_warn (by simp [toString])
  exact ⟨leg_tellCall _ _, ((Goes.refl d).log hline).tellCall hcall _⟩

end Desk

/-- A legal change runs the entry action of the phase that is entered, after a line of the trace. -/
theorem Controller.enter_legal {σ : Type} (site : Site σ) (c : Controller σ) (t : Trigger)
    {target : Phase} (h : (c.phase, target) ∈ Phase.legalTransitions) :
    ∃ d, c.desk.Goes [] d ∧ d.leg = c.desk.leg ∧
      c.enter site t target = ⟨target, (lifecycle site).entry target t d⟩ := by
  refine ⟨c.desk.log .trace s!"FSM transition {c.phase.label} -> {target.label}" [],
    c.desk.goes_log Line.ordinary_trace, rfl, ?_⟩
  unfold enter
  have hstep := ((lifecycle site).step_eq_ok_iff
    ⟨c.phase, c.desk.log .trace s!"FSM transition {c.phase.label} -> {target.label}" []⟩ _ t
    target).2 ⟨h, rfl⟩
  simp only [hstep]

end CallMedia
