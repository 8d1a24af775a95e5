/-
  The life of a session, over every run.

  The phase after an item is a function of the phase before it, of the item, and for an outcome of the
  negotiation of whether it is awaited (`Phase.next`).  The table of legal changes has more in it than
  ever happens: `uninitialized` to `active` is legal, and never taken.

  A change that is not legal would leave a line in the journal (`enter_refused`), and so would a failed
  negotiation that comes too late (`negotiationFailed_late`).  Neither line is ever written: an outcome
  of the negotiation is awaited only while the session is opened or renegotiated.
-/
import CallMedia.Proofs.Run

namespace CallMedia

/-- The phase that an outcome of the negotiation leads to. -/
def NegotiationOutcome.leadsTo : NegotiationOutcome → Phase
  | .offerGenerated _ | .answerGenerated _ | .answerProcessed => .active
  | .networkStreamFailure | .failed _ => .failed

/-- The phase that handling an item leads to. -/
def Phase.next (p : Phase) (l : Leg) : Item → Phase
  | .message _ (.createSession ..) => if p = .uninitialized then .opening else p
  | .message _ .closeSession =>
    if p = .opening ∨ p = .active ∨ p = .updating then .inactive else p
  | .message _ (.updateSession _) => if p = .active then .updating else p
  | .completion ⟨g, .negotiation o⟩ =>
    if ((l.slot .negotiation).accept g).1 then o.leadsTo else p
  | _ => p

/-- An outcome of the negotiation leads on if it is awaited. -/
theorem Phase.next_negotiation (p : Phase) (l : Leg) (g : Nat) (o : NegotiationOutcome) :
    p.next l (.completion ⟨g, .negotiation o⟩) =
      if ((l.slot .negotiation).accept g).1 then o.leadsTo else p := rfl

/-- What the owning call is told on entering a phase. -/
inductive Announces : Phase → Notice → Prop
  | active (info : SessionInfo) : Announces .active (.sessionReady info)
  | inactive : Announces .inactive .sessionClosed
  | failed (reason : String) : Announces .failed (.failure (.negotiation reason))

/-! ## What a refused change would leave

Both lines would be in the trace whenever their branch is taken, whatever else the branch does.  So
that a line is never in the trace is as much as to say that its branch is never taken. -/

namespace Controller

variable {σ : Type} (site : Site σ) (c : Controller σ)

/-- A change that the table does not allow leaves its line. -/
theorem enter_refused (t : Trigger) {target : Phase}
    (h : (c.phase, target) ∉ Phase.legalTransitions) :
    ∃ l : Line, l.RefusesChange ∧ .logged l ∈ (c.enter site t target).desk.trace := by
  unfold enter
  have hstep := ((lifecycle site).step_eq_error_iff
    ⟨c.phase, c.desk.log .trace s!"FSM transition {c.phase.label} -> {target.label}" []⟩ t
    target _).2 ⟨h, rfl⟩
  simp only [hstep]
  refine ⟨_, ⟨rfl, ?_⟩, List.mem_append_right _ (List.mem_singleton_self _)⟩
  simp [toString]

/-- A failed negotiation in a phase from which `failed` cannot be entered leaves its own. -/
theorem negotiationFailed_late (fault : Fault) (h : (c.phase, .failed) ∉ Phase.legalTransitions) :
    ∃ l : Line, l.FailsLate ∧ .logged l ∈ (c.negotiationFailed site fault).desk.trace := by
  have hrefused : (lifecycle site).allows c.phase .failed = false :=
    Bool.eq_false_iff.2 fun ha => h (List.contains_iff_mem.1 ha)
  unfold negotiationFailed
  rw [hrefused, Bool.and_false, if_neg Bool.false_ne_true]
  -- the line comes first, and what is told after it stays behind it
  have hkeep : ∀ (d : Desk σ) (n : Notice) (e : Effect), e ∈ d.trace → e ∈ (d.tellCall n).trace := by
    intro d n e he
    unfold Desk.tellCall
    split
    · unfold Desk.tell
      split
      · exact List.mem_append_left _ (List.mem_append_left _ he)
      · exact List.mem_append_left _ he
    · exact List.mem_append_left _ he
  refine ⟨⟨.error, s!"Media session error: {fault.message}", []⟩, ⟨rfl, ?_⟩, ?_⟩
  · simp [toString]
  · exact hkeep _ _ _ (List.mem_append_right _ (List.mem_singleton_self _))

end Controller

/-! ## One turn -/

/-- What is out of place leads nowhere. -/
theorem OutOfPlace.next {p : Phase} {l : Leg} {item : Item} (h : OutOfPlace p l item) :
    p.next l item = p := by
  cases item with
  | query caller => rfl
  | message sender m =>
    cases m with
    | createSession outbound mode sdp => exact if_neg h
    | closeSession => exact if_neg h
    | updateSession sdp => exact if_neg h
    | _ => rfl
  | completion e =>
    obtain ⟨g, o⟩ := e
    cases o with
    | negotiation o => exact if_neg fun ha => h ((Slot.accept_iff _ g).1 ha)
    | _ => rfl

variable {σ : Type} {site : Site σ} {w : Surroundings} {p p' : Phase} {l l' : Leg} {item : Item}
  {es : List Effect}

/-- The phase changes as its item says. -/
theorem Turned.next (h : Turned site w p l item p' l' es) : p' = p.next l item := by
  cases h with
  | ignored item hout => exact hout.next.symm
  | opened sender outbound mode sdp l' es hp ho => exact (if_pos hp).symm
  | closed sender es hp hr => exact (if_pos hp).symm
  | updated sender sdp k l' es hp hk hn => exact (if_pos hp).symm
  | agreed g o localSdp hp awaited ho =>
    -- the outcome is awaited, so it is accepted, and its verdict says whether it leads to `active`
    have haccept := (Slot.accept_iff _ g).2 awaited
    rw [Phase.next_negotiation, if_pos haccept]
    cases o with
    | networkStreamFailure => cases ho
    | failed reason => cases ho
    | _ => rfl
  | broke g o fault hp awaited ho =>
    -- accepted too, and the verdict says that it leads to `failed`
    have haccept := (Slot.accept_iff _ g).2 awaited
    rw [Phase.next_negotiation, if_pos haccept]
    cases o with
    | networkStreamFailure => rfl
    | failed reason => rfl
    | _ => cases ho
  | groupCreated sender l' es hg hc => rfl
  | groupDestroyed sender l' es hd => rfl
  | groupStopped sender es hs => rfl
  | attempted sender m k r l' es hp hm ht => cases m <;> first | rfl | cases hm
  | stopped sender artifact l' es ha hs => rfl
  | stoppedRecording sender accountId store g l' es hp ha hs => rfl
  | joined sender m mixer l' es hp hm hj => rcases hm with rfl | rfl <;> rfl
  | left sender l' es hp hc hl => rfl
  | rejoined sender m direction k mixer answer hp hd hk hm =>
    rcases hd with ⟨rfl, -⟩ | ⟨rfl, -⟩ <;> rfl
  | observed sender observer => rfl
  | unobserved sender observer => rfl
  | finished e a result hcat awaited hr =>
    obtain ⟨g, o⟩ := e
    cases o with
    | negotiation o => cases hcat
    | _ => rfl

/-- Whatever enters `active`, `inactive` or `failed` gives the owning call the notice of that phase, and
    nobody any other notice. -/
theorem Turned.announces (h : Turned site w p l item p' l' es) (hs : Sound p l) (hne : p' ≠ p)
    (hp' : p' = .active ∨ p' = .inactive ∨ p' = .failed) :
    ∃ call n, l.call = some call ∧ Announces p' n ∧ noticesOf es = [(call, n)] := by
  -- four kinds of turn change the phase into one of the three, and none of the others can
  cases h with
  | opened sender outbound mode sdp l' es hp ho => rcases hp' with hp' | hp' | hp' <;> cases hp'
  | updated sender sdp k l' es hp hk hn => rcases hp' with hp' | hp' | hp' <;> cases hp'
  | closed sender es hp hr =>
    obtain ⟨call, hcall⟩ := hs.call_of_ne (by rcases hp with hp | hp | hp <;> rw [hp] <;> decide)
    refine ⟨call, .sessionClosed, hcall, .inactive, ?_⟩
    have hquiet : noticesOf es = [] := by
      cases hr with
      | nothing hn => rfl
      | released s answer hn => rfl
    rw [noticesOf_append, hquiet, w.noticesOf_tellingCall hcall, List.nil_append]
  | agreed g o localSdp hp awaited ho =>
    obtain ⟨call, hcall⟩ := hs.call_of_ne (by rcases hp with hp | hp <;> rw [hp] <;> decide)
    exact ⟨call, _, hcall, .active _, w.noticesOf_tellingCall hcall _⟩
  | broke g o fault hp awaited ho =>
    obtain ⟨call, hcall⟩ := hs.call_of_ne (by rcases hp with hp | hp <;> rw [hp] <;> decide)
    obtain ⟨reason, rfl⟩ := NegotiationOutcome.fault_of_verdict ho
    exact ⟨call, _, hcall, .failed reason, w.noticesOf_tellingCall hcall _⟩
  | _ => exact absurd rfl hne

/-! ## Every run -/

/-- In every reachable state and for every item the phase changes as `Phase.next` says and not
    otherwise: an outcome of the negotiation is accepted only while the session is opened or
    renegotiated, no change of phase is refused, no negotiation fails too late, nothing goes from
    `uninitialized` to `active`, and entering `active`, `inactive` or `failed` gives the owning call one
    notice, the one of that phase, and nobody any other. -/
theorem phase_changes {σ : Type} {site : Site σ} {c : Controller σ} (h : Reachable site c)
    (item : Item) :
    (c.handle site item).phase = c.phase.next c.desk.leg item ∧
    (∀ g o, item = .completion ⟨g, .negotiation o⟩ →
      ((c.desk.leg.slot .negotiation).accept g).1 = true →
      c.phase = .opening ∨ c.phase = .updating) ∧
    (∀ line, .logged line ∈ Turn.effects site ⟨c, item⟩ →
      ¬ line.RefusesChange ∧ ¬ line.FailsLate) ∧
    (c.phase = .uninitialized → (c.handle site item).phase ≠ .active) ∧
    (∀ q, q = .active ∨ q = .inactive ∨ q = .failed → c.phase ≠ q →
      (c.handle site item).phase = q →
      ∃ call n, c.desk.leg.call = some call ∧ Announces q n ∧
        noticesOf (Turn.effects site ⟨c, item⟩) = [(call, n)]) := by
  have hs := h.sound
  obtain ⟨hturned, -, hlines⟩ := Turn.turned (t := ⟨c, item⟩) site hs
  -- an outcome is accepted only where one is awaited, and the invariant says when that is
  have hpending : ∀ g, ((c.desk.leg.slot .negotiation).accept g).1 = true →
      c.phase = .opening ∨ c.phase = .updating :=
    fun g hg => (hs.negotiating ((Slot.accept_iff _ g).1 hg).1).1
  refine ⟨hturned.next, fun g o _ hg => hpending g hg, ?_, ?_, ?_⟩
  · intro line hline
    obtain ⟨hrefuses, hlate, -⟩ := hlines line hline
    exact ⟨hrefuses, hlate⟩
  · intro hp hactive
    have hnext : (c.handle site item).phase = c.phase.next c.desk.leg item := hturned.next
    rw [hnext, hp] at hactive
    cases item with
    | query caller => cases hactive
    | message sender m => cases m <;> cases hactive
    | completion e =>
      obtain ⟨g, o⟩ := e
      cases o with
      | negotiation o =>
        have hrefused : ((c.desk.leg.slot .negotiation).accept g).1 = false := by
          refine Bool.eq_false_iff.2 fun hg => ?_
          rcases hpending g hg with hq | hq <;> rw [hp] at hq <;> cases hq
        rw [Phase.next_negotiation, hrefused, if_neg Bool.false_ne_true] at hactive
        cases hactive
      | playback o => cases hactive
      | digitCollection o => cases hactive
      | recording o => cases hactive
  · intro q hq hne hafter
    subst hafter
    rw [Turn.noticesOf_effects]
    exact hturned.announces hs (fun heq => hne heq.symm) hq

/-- Once the offer is made the session is active, and the call hears of it. -/
theorem phase_changes_offered :
    Reachable Sample.site Sample.offered ∧
    (Sample.offered.handle Sample.site (.completion Sample.offer)).phase = .active ∧
    ∃ call n, Sample.offered.desk.leg.call = some call ∧ Announces .active n ∧
      noticesOf (Turn.effects Sample.site ⟨Sample.offered, .completion Sample.offer⟩) =
        [(call, n)] := by
  have hreach : Reachable Sample.site Sample.offered := ⟨_, _, Sample.run_offered⟩
  obtain ⟨hnext, -, -, -, hannounce⟩ := phase_changes hreach (.completion Sample.offer)
  have hactive : (Sample.offered.handle Sample.site (.completion Sample.offer)).phase = .active :=
    hnext.trans rfl
  exact ⟨hreach, hactive, hannounce .active (.inl rfl) (by decide) hactive⟩

end CallMedia
