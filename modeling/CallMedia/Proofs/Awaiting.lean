/-
  Whether a session that is opened or renegotiated gets anywhere.

  Entering `opening` or `updating` starts the negotiation, and that can break at any of its steps: at one of
  the two allocations, at the slot, which cannot be armed once the inbox is gone, or at the media server,
  which may refuse the operation even after it has reported an outcome of it.  Two things can come of it
  (`Undertaken`): a sink was handed over and its generation is awaited, or the owning call heard of the
  fault and nothing is awaited.

  Whichever it was stays so until the phase changes, since within the phase no turn touches the slot of the
  negotiation (`Turned.undisturbed`).  So there is no third case, in which a call would wait for ever and
  had heard of nothing.
-/
import CallMedia.Proofs.Generations
import CallMedia.Proofs.PhaseChanges

namespace CallMedia

/-! ## Where a negotiation breaks

A negotiation is undertaken in up to three requests, and stops at the first that is refused.  So the
fault that it stops at is the only one among the effects, and is read off them. -/

/-- The fault that a request was refused with. -/
def Effect.fault? : Effect → Option Fault
  | created _ (.error e) | performed _ (.error e) | started _ _ ⟨.error e, _⟩
  | stored _ _ (.error e) => some e
  | _ => none

/-- The faults that requests were refused with, in order. -/
def faultsOf (es : List Effect) : List Fault := es.filterMap Effect.fault?

theorem faultsOf_append (es es' : List Effect) : faultsOf (es ++ es') = faultsOf es ++ faultsOf es' :=
  List.filterMap_append

theorem faultsOf_telling (w : Surroundings) (rs : List Recipient) (n : Notice) :
    faultsOf (rs.map fun r => w.telling r n) = [] :=
  w.filterMap_telling (fun _ _ _ => rfl) rs n

/-- The fault of the step that the work stopped at. -/
inductive StopsAt (w : Surroundings) (es : List Effect) : Fault → Prop
  /-- One request was refused. -/
  | refused (e : Fault) (hfaults : faultsOf es = [e]) : StopsAt w es e
  /-- No request was refused, and the inbox was gone, so that no sink could be handed over. -/
  | unarmed (hopen : w.inboxOpen = false) (hfaults : faultsOf es = []) (hsinks : sinksOf es = []) :
      StopsAt w es .channelClosed

/-- What comes of starting the negotiation. -/
inductive Undertaken (w : Surroundings) (l : Leg) (es : List Effect) : Prop
  /-- A sink was handed over, and its outcome is awaited. -/
  | underway (g : Nat) (hsinks : sinksOf es = [⟨.negotiation, g⟩]) (hw : l.Awaits .negotiation g)
  /-- A step failed, and the owning call was told why. -/
  | broken (call : Recipient) (e : Fault) (hcall : l.call = some call)
      (htold : noticesOf es = [(call, .failure e)]) (hstops : StopsAt w es e)
      (hslot : (l.slot .negotiation).pending = false)

section

variable {w : Surroundings} {l l' : Leg} {es : List Effect} {call : Recipient}

/-- A step of the negotiation is undertaken, from a slot that awaits nothing. -/
theorem Negotiates.undertaken {what : Operation} (h : Negotiates w l what l' es)
    (hslot : (l.slot .negotiation).pending = false) (hcall : l.call = some call) :
    Undertaken w l' es := by
  have htold : ∀ {l : Leg} {e : Fault}, l.call = some call →
      noticesOf (w.tellingCall l (.failure e)) = [(call, .failure e)] :=
    fun hcall => w.noticesOf_tellingCall hcall _
  have hdisarmed : ((l.begun .negotiation false).slot .negotiation).pending = false := by
    rw [Leg.slot_begun, if_pos rfl]
  have hawaits : (l.begun .negotiation true).Awaits .negotiation
      ((l.slot .negotiation).generation + 1) := by
    unfold Leg.Awaits
    rw [Leg.slot_begun, if_pos rfl]
    exact ⟨rfl, rfl⟩
  cases h with
  | begun g l' es hl =>
    cases hl with
    | accepted fate hopen => exact .underway _ rfl hawaits
  | failed e l' es hl =>
    cases hl with
    | closed hopen =>
      exact .broken call .channelClosed hcall (htold hcall)
        (.unarmed hopen (faultsOf_telling w _ _) (sinksOf_telling w _ _)) hslot
    | refused e fate hopen =>
      -- the slot was armed for it, and is disarmed again
      refine .broken call e hcall (htold hcall) (.refused e ?_) hdisarmed
      rw [faultsOf_append]
      exact congrArg (List.cons e) (faultsOf_telling w _ _)

/-- Opening a session undertakes it, once the two allocations are made. -/
theorem Opened.undertaken (h : Opened w l l' es) (hslot : (l.slot .negotiation).pending = false)
    (hcall : l.call = some call) : Undertaken w l' es := by
  have htold := w.noticesOf_tellingCall hcall
  have hnone : ∀ e, faultsOf (w.tellingCall l (.failure e)) = [] := fun e => faultsOf_telling w _ _
  cases h with
  | noSession e =>
    exact .broken call e hcall (htold _) (.refused e (congrArg (List.cons e) (hnone e))) hslot
  | noConnection name e =>
    exact .broken call e hcall (htold _) (.refused e (congrArg (List.cons e) (hnone e))) hslot
  | negotiates name name' l' es hn =>
    have hconnected : ((l.connected ⟨name⟩ ⟨name'⟩).slot .negotiation).pending = false := by
      rw [Leg.connected, Leg.slot_setSlot, if_pos rfl]
      exact hslot
    -- what was allocated before hands over no sink, tells nobody and was not refused
    cases hn.undertaken hconnected hcall with
    | underway g hsinks hw => exact .underway g hsinks hw
    | broken call e hcall htold hstops hslot =>
      refine .broken call e hcall htold ?_ hslot
      cases hstops with
      | refused e hfaults => exact .refused e hfaults
      | unarmed hopen hfaults hsinks => exact .unarmed hopen hfaults hsinks

/-- Only the slot of the negotiation and the owning call count. -/
theorem Undertaken.of_same (h : Undertaken w l es)
    (hsame : l'.slot .negotiation = l.slot .negotiation ∧ l'.call = l.call) : Undertaken w l' es := by
  obtain ⟨hslot', hcall'⟩ := hsame
  cases h with
  | underway g hsinks hw =>
    refine .underway g hsinks ?_
    unfold Leg.Awaits
    rw [hslot']
    exact hw
  | broken call e hcall htold hstops hslot =>
    refine .broken call e (hcall'.trans hcall) htold hstops ?_
    rw [hslot']
    exact hslot

end

/-! ## One turn -/

section

variable {σ : Type} {site : Site σ} {w : Surroundings} {p p' : Phase} {l l₀ l' : Leg} {item : Item}
  {es : List Effect}

/-- Whatever enters `opening` or `updating` is a message, and starts the negotiation. -/
theorem Turned.undertakes (h : Turned site w p l item p' l' es) (hs : Sound p l) (hne : p ≠ p')
    (hp' : p' = .opening ∨ p' = .updating) :
    (∃ sender m, item = .message sender m) ∧ Undertaken w l' es := by
  -- only a creation enters `opening`, and only an update enters `updating`
  cases h with
  | opened sender outbound mode sdp l' es hp ho =>
    exact ⟨⟨_, _, rfl⟩, ho.undertaken ((hs.bare (.inl hp)).2.2 .negotiation) rfl⟩
  | updated sender sdp k l' es hp hk hn =>
    subst hp
    obtain ⟨call, hcall⟩ := hs.call_of_ne (by decide)
    refine ⟨⟨_, _, rfl⟩, hn.undertaken ?_ hcall⟩
    -- an active session awaits no negotiation
    refine Bool.eq_false_iff.2 fun hw => ?_
    obtain ⟨hp | hp, -⟩ := hs.negotiating hw <;> cases hp
  | closed sender es hp hr => rcases hp' with hp' | hp' <;> cases hp'
  | agreed g o localSdp hp awaited ho => rcases hp' with hp' | hp' <;> cases hp'
  | broke g o fault hp awaited ho => rcases hp' with hp' | hp' <;> cases hp'
  | _ => exact absurd rfl hne

/-- An attempt leaves the negotiation and the owning call alone. -/
theorem Attempted.undisturbed {a : Activity} {what : GroupHandle → Operation} {sender : Recipient}
    {r : Option Nat} (h : Attempted w a what sender l l₀ r l' es) (hslots : l₀.slots = l.slots)
    (hcall : l₀.call = l.call) :
    l'.slot .negotiation = l.slot .negotiation ∧ l'.call = l.call := by
  have hasked : ∀ g b, (l₀.askedBy a sender g b).slot .negotiation = l.slot .negotiation := by
    intro g b
    rw [Leg.askedBy, Leg.slot_setSlot, if_neg (Category.group_ne_negotiation a).symm]
    unfold Leg.slot
    rw [hslots]
  cases h with
  | unfit e idle => exact ⟨rfl, rfl⟩
  | unprepared group e idle digits => exact ⟨hasked _ _, hcall⟩
  | closed group idle hopen => exact ⟨hasked _ _, hcall⟩
  | refused group e fate idle hopen => exact ⟨hasked _ _, hcall⟩
  | accepted group fate idle hopen => exact ⟨hasked _ _, hcall⟩

/-- Within a phase no turn touches the negotiation. -/
theorem Turned.undisturbed (h : Turned site w p l item p l' es) :
    l'.slot .negotiation = l.slot .negotiation ∧ l'.call = l.call := by
  -- the six kinds of turn that change the phase are excluded,
  -- since it stays; the rest have slots of their own
  cases h with
  | ignored item hout => exact ⟨rfl, rfl⟩
  | opened sender outbound mode sdp l' es hp ho => cases hp
  | updated sender sdp k l' es hp hk hn => cases hp
  | closed sender es hp hr => rcases hp with hp | hp | hp <;> cases hp
  | agreed g o localSdp hp awaited ho => rcases hp with hp | hp <;> cases hp
  | broke g o fault hp awaited ho => rcases hp with hp | hp <;> cases hp
  | groupCreated sender l' es hg hc => cases hc <;> exact ⟨rfl, rfl⟩
  | groupDestroyed sender l' es hd => cases hd <;> exact ⟨rfl, rfl⟩
  | groupStopped sender es hstop => exact ⟨rfl, rfl⟩
  | attempted sender m k r l' es hp hm ht =>
    obtain ⟨recording, hkept⟩ := k.kept_cases w.clock l' r
    rw [hkept]
    exact ht.undisturbed rfl rfl
  | stopped sender artifact l' es ha hstop => rcases hstop.leg with rfl | rfl <;> exact ⟨rfl, rfl⟩
  | stoppedRecording sender accountId store g l' es hp ha hstop =>
    rcases hstop.leg with rfl | rfl <;> exact ⟨rfl, rfl⟩
  | joined sender m mixer l' es hp hm hj => cases hj <;> exact ⟨rfl, rfl⟩
  | left sender l' es hp hc hl => cases hl <;> exact ⟨rfl, rfl⟩
  | rejoined sender m direction k mixer answer hp hd hk hm => exact ⟨rfl, rfl⟩
  | observed sender observer => exact ⟨rfl, rfl⟩
  | unobserved sender observer => exact ⟨rfl, rfl⟩
  | finished e a result hcat awaited hr =>
    exact ⟨by rw [Leg.slot_finished, if_neg (Category.group_ne_negotiation a).symm], rfl⟩

/-- Where the session is opened or renegotiated and no outcome is awaited, only closing it leads on. -/
theorem Phase.next_ne_iff (hp : p = .opening ∨ p = .updating)
    (hslot : (l.slot .negotiation).pending = false) :
    p.next l item ≠ p ↔ ∃ sender, item = .message sender .closeSession := by
  -- what else leads on elsewhere wants another phase, or an outcome that is awaited
  constructor
  · intro hne
    cases item with
    | query caller => exact absurd rfl hne
    | completion e =>
      obtain ⟨g, o⟩ := e
      cases o with
      | negotiation o =>
        refine absurd (if_neg fun hg => ?_) hne
        rw [((Slot.accept_iff _ g).1 hg).1] at hslot
        cases hslot
      | _ => exact absurd rfl hne
    | message sender m =>
      cases m with
      | closeSession => exact ⟨sender, rfl⟩
      | createSession outbound mode sdp =>
        exact absurd (if_neg (by rcases hp with rfl | rfl <;> decide)) hne
      | updateSession sdp => exact absurd (if_neg (by rcases hp with rfl | rfl <;> decide)) hne
      | _ => exact absurd rfl hne
  · rintro ⟨sender, rfl⟩
    have hnext : p.next l (.message sender .closeSession) = .inactive :=
      if_pos (hp.imp_right .inr)
    rw [hnext]
    rcases hp with rfl | rfl <;> decide

/-- An outcome that is awaited leads out of the phase. -/
theorem NegotiationOutcome.leadsTo_ne (o : NegotiationOutcome) (hp : p = .opening ∨ p = .updating) :
    o.leadsTo ≠ p := by
  have hends : o.leadsTo = .active ∨ o.leadsTo = .failed := by
    cases o <;> first | exact .inl rfl | exact .inr rfl
  rcases hp with rfl | rfl <;> rcases hends with ho | ho <;> rw [ho] <;> decide

end

/-! ## Runs -/

namespace Turn

variable {σ : Type} (site : Site σ) (t : Turn σ)

/-- Whether a turn enters a phase, by handling a message. -/
def Enters (p : Phase) : Prop :=
  (∃ sender m, t.item = .message sender m) ∧ t.before.phase ≠ p ∧ (t.after site).phase = p

/-- The negotiation that a turn started is awaited at `c`: of the one sink that was handed over then, the
    generation is the one that is awaited now, and its outcome, whatever it is, leads out of the phase. -/
structure Awaited (c : Controller σ) (g : Nat) : Prop where
  sink : sinksOf (t.effects site) = [⟨.negotiation, g⟩]
  awaits : c.desk.leg.Awaits .negotiation g
  leads : ∀ o, (c.handle site (.completion ⟨g, .negotiation o⟩)).phase = o.leadsTo ∧
    o.leadsTo ≠ c.phase

/-- The negotiation that a turn started has broken at `c`: the owning call was told the fault of the step
    that it broke at, and nothing else was told to anybody, and only closing the session leads out of the
    phase. -/
structure Stalled (c : Controller σ) (e : Fault) : Prop where
  told : ∃ call, c.desk.leg.call = some call ∧ noticesOf (t.effects site) = [(call, .failure e)]
  stops : StopsAt t.before.desk.surroundings (t.effects site) e
  leads : ∀ item, (c.handle site item).phase ≠ c.phase ↔ ∃ sender, item = .message sender .closeSession

variable {t}

/-- What was undertaken does not look at the journal. -/
theorem undertaken_effects {w : Surroundings} {l : Leg} (h : Undertaken w l (t.shown site)) :
    Undertaken w l (t.effects site) := by
  have hsinks : sinksOf (t.effects site) = sinksOf (t.shown site) :=
    t.filterMap_effects site _ fun _ => rfl
  have hfaults : faultsOf (t.effects site) = faultsOf (t.shown site) :=
    t.filterMap_effects site _ fun _ => rfl
  cases h with
  | underway g hs hw => exact .underway g (hsinks.trans hs) hw
  | broken call e hcall htold hstops hslot =>
    refine .broken call e hcall ((t.noticesOf_effects site).trans htold) ?_ hslot
    cases hstops with
    | refused e hf => exact .refused e (hfaults.trans hf)
    | unarmed hopen hf hs => exact .unarmed hopen (hfaults.trans hf) (hsinks.trans hs)

end Turn

namespace Run

variable {σ : Type} {site : Site σ} {ts : List (Turn σ)} {c : Controller σ}
  {queued : List Completion}

/-- In a session that is opened or renegotiated, the negotiation is where the turn that entered the phase
    left it. -/
theorem undertaken (h : Run site ts c queued) (hp : c.phase = .opening ∨ c.phase = .updating) :
    ∃ pre t post, ts = pre ++ t :: post ∧ t.Enters site c.phase ∧
      (∀ u ∈ post, u.before.phase = c.phase) ∧
      Undertaken t.before.desk.surroundings c.desk.leg (t.effects site) := by
  -- by induction on the run: the turn that entered the phase last is remembered, with the turns since
  refine h.invariant (P := fun ts p l => p = .opening ∨ p = .updating →
    ∃ pre t post, ts = pre ++ t :: post ∧ t.Enters site p ∧ (∀ u ∈ post, u.before.phase = p) ∧
      Undertaken t.before.desk.surroundings l (t.effects site)) ?_ ?_ hp
  · intro hp
    rcases hp with hp | hp <;> cases hp
  · intro ts u queued hbefore ih hp
    obtain ⟨hturned, -, -⟩ := u.turned site hbefore.sound
    by_cases hsame : u.before.phase = (u.after site).phase
    · -- the phase stays, and with it the negotiation
      rw [← hsame] at hp hturned ⊢
      obtain ⟨pre, t, post, rfl, henters, hpost, hundertaken⟩ := ih hp
      refine ⟨pre, t, post ++ [u], ?_, henters, ?_, hundertaken.of_same hturned.undisturbed⟩
      · rw [List.append_assoc, List.cons_append]
      · exact List.forall_mem_append.2 ⟨hpost, List.forall_mem_singleton.2 rfl⟩
    · -- the phase is entered
      obtain ⟨hmessage, hundertaken⟩ := hturned.undertakes hbefore.sound hsame hp
      exact ⟨ts, u, [], rfl, ⟨hmessage, hsame, rfl⟩, List.forall_mem_nil _,
        u.undertaken_effects site hundertaken⟩

end Run

section

variable {σ : Type} {site : Site σ} {ts : List (Turn σ)} {c : Controller σ}
  {queued : List Completion}

/-- A session that is opened or renegotiated never waits in silence.  Take the turn that entered the phase;
    then either the negotiation it started is awaited, with the generation of the sink that was handed
    over, and any outcome of it leads on; or the owning call was told in that turn, once, the fault of the
    step that failed, and only closing the session leads on.  It is never both. -/
theorem awaited_or_stalled (h : Run site ts c queued)
    (hp : c.phase = .opening ∨ c.phase = .updating) :
    ∃ pre t post, ts = pre ++ t :: post ∧ t.Enters site c.phase ∧
      (∀ u ∈ post, u.before.phase = c.phase) ∧
      ((∃ g, t.Awaited site c g) ∨ ∃ e, t.Stalled site c e) ∧
      ¬ ((∃ g, t.Awaited site c g) ∧ ∃ e, t.Stalled site c e) := by
  obtain ⟨pre, t, post, hts, henters, hpost, hundertaken⟩ := h.undertaken hp
  -- what leads on from here is a matter of the phase, of the slot, and of the item
  have hnext : ∀ item, (c.handle site item).phase = c.phase.next c.desk.leg item :=
    fun item => (Turn.turned (t := ⟨c, item⟩) site h.sound).1.next
  refine ⟨pre, t, post, hts, henters, hpost, ?_, ?_⟩
  · cases hundertaken with
    | underway g hsinks hw =>
      refine .inl ⟨g, hsinks, hw, fun o => ⟨?_, o.leadsTo_ne hp⟩⟩
      rw [hnext, Phase.next_negotiation, if_pos ((Slot.accept_iff _ g).2 hw)]
    | broken call e hcall htold hstops hslot =>
      refine .inr ⟨e, ⟨call, hcall, htold⟩, hstops, fun item => ?_⟩
      rw [hnext]
      exact Phase.next_ne_iff hp hslot
  · -- an outcome would lead on, and it is not a request to close the session
    rintro ⟨⟨g, hawaited⟩, e, hstalled⟩
    obtain ⟨hleads, hne⟩ := hawaited.leads .answerProcessed
    obtain ⟨sender, heq⟩ := (hstalled.leads (.completion ⟨g, .negotiation .answerProcessed⟩)).1
      (by rw [hleads]; exact hne)
    cases heq

/-- With the offer asked for, the outcome of that very sink is awaited. -/
theorem awaited_or_stalled_offered :
    Sample.offered.phase = .opening ∧
    ∃ pre t post, [⟨Sample.fresh, Sample.create⟩] = pre ++ t :: post ∧
      Turn.Enters Sample.site t Sample.offered.phase ∧
      ((∃ g, Turn.Awaited Sample.site t Sample.offered g) ∨
        ∃ e, Turn.Stalled Sample.site t Sample.offered e) := by
  obtain ⟨pre, t, post, hts, henters, -, hor, -⟩ := awaited_or_stalled Sample.run_offered (.inl rfl)
  exact ⟨rfl, pre, t, post, hts, henters, hor⟩

end

end CallMedia
