/-
  What comes of the arrival of an outcome.

  A slot awaits at most one generation (`Leg.Awaits`).  An outcome of any other generation is stale: it
  is dropped, and neither the leg nor anybody outside learns of it (`arrive_stale`).

  An awaited outcome of an activity is reported to whoever asked for it, and to nobody else; the slot
  awaits nothing more, and the activity in flight and the call recording are cleared if they are of that
  very generation (`Leg.finished`).  Whoever asked is read from the slot itself, so that nothing but the
  slot decides who hears of an outcome.

  An awaited outcome of the negotiation is its success or its failure (`NegotiationOutcome.verdict`), and
  moves the session to `active` or to `failed`.
-/
import CallMedia.Proofs.Filing
import CallMedia.Proofs.Negotiating

namespace CallMedia

/-! ## What an outcome says

An outcome is looked at twice: for what it makes of the operation, and for what there is to tell. -/

/-- How the negotiation went: the description that the media server made, if it made one, or the fault
    that the session fails with. -/
def NegotiationOutcome.verdict : NegotiationOutcome → Except Fault (Option String)
  | offerGenerated sdp | answerGenerated sdp => .ok (some sdp)
  | answerProcessed => .ok none
  | networkStreamFailure => .error (.negotiation "Network stream failure")
  | failed reason => .error (.negotiation reason)

/-- The result that the outcome of an activity reports, where `endKey` is the key that ends a
    recording. -/
def Outcome.result? (endKey : String) : Outcome → Option (Except Fault String)
  | negotiation _ => none
  | playback .completed => some (.ok playCompleted)
  | playback (.failed reason) => some (.error (.provider reason))
  | digitCollection (.completed digits) => some (.ok digits)
  | digitCollection (.failed reason) => some (.error (.provider reason))
  | recording (.completed .stopped) => some (.ok endKey)
  | recording (.completed _) => some (.ok "")
  | recording (.failed reason) => some (.error (.provider reason))

/-- A negotiation fails for no other reason than that it failed. -/
theorem NegotiationOutcome.fault_of_verdict {o : NegotiationOutcome} {e : Fault}
    (h : o.verdict = .error e) : ∃ reason, e = .negotiation reason := by
  cases o with
  | offerGenerated sdp => cases h
  | answerGenerated sdp => cases h
  | answerProcessed => cases h
  | networkStreamFailure => cases h; exact ⟨_, rfl⟩
  | failed reason => cases h; exact ⟨_, rfl⟩

namespace Leg

/-- Whether the leg awaits the outcome of a generation. -/
def Awaits (l : Leg) (c : Category) (g : Nat) : Prop :=
  (l.slot c).pending = true ∧ g = (l.slot c).generation

/-- The leg once it awaits nothing of a category. -/
def disarmed (l : Leg) (c : Category) : Leg := l.setSlot c (l.slot c).disarm

/-- The leg once the outcome of a generation of an activity was taken. -/
def finished (l : Leg) (a : Activity) (g : Nat) : Leg :=
  { l.disarmed (.group a) with
    active := if l.active = some ⟨a, g⟩ then none else l.active
    recording :=
      if a = .recording ∧ l.recording.map CallRecording.generation = some g then none
      else l.recording }

variable (l : Leg) (c c' : Category) (a : Activity) (g : Nat)

/-- Disarming a category leaves the slots of the others. -/
theorem slot_disarmed :
    (l.disarmed c).slot c' = if c' = c then (l.slot c).disarm else l.slot c' := slot_setSlot l c c' _

/-- Finishing an activity disarms its slot, and no other. -/
theorem slot_finished :
    (l.finished a g).slot c' = if c' = .group a then (l.slot (.group a)).disarm else l.slot c' :=
  slot_disarmed l (.group a) c'

/-- Only the activity in flight can be cleared, and only if it is the one that is over. -/
theorem clearActive_eq (completed : Active) :
    l.clearActive completed =
      { l with active := if l.active = some completed then none else l.active } := by
  unfold clearActive
  split <;> rfl

/-- A call recording is forgotten if it is the one that the generation writes. -/
theorem takeRecording_snd :
    (l.takeRecording g).2 =
      { l with recording :=
          if l.recording.map CallRecording.generation = some g then none else l.recording } := by
  cases l.takeRecording_cases g with
  | inl h =>
    obtain ⟨r, hr, hg, ht⟩ := h
    rw [ht, hr, Option.map_some, if_pos (congrArg some hg)]
  | inr h =>
    obtain ⟨hr, ht⟩ := h
    have hother : l.recording.map CallRecording.generation ≠ some g := by
      intro hsome
      obtain ⟨r, hr', hg⟩ := Option.map_eq_some_iff.1 hsome
      exact hr r hr' hg
    rw [ht, if_neg hother]

/-- Of an activity other than recording, only the activity in flight can end. -/
theorem clearActive_disarmed (h : a ≠ .recording) :
    (l.disarmed (.group a)).clearActive ⟨a, g⟩ = l.finished a g := by
  have hnot : ¬ (a = .recording ∧ l.recording.map CallRecording.generation = some g) :=
    fun hr => h hr.1
  rw [clearActive_eq, finished, if_neg hnot]
  rfl

/-- A recording ends together with the call recording that it writes. -/
theorem clearActive_takeRecording :
    ((l.disarmed (.group .recording)).takeRecording g).2.clearActive ⟨.recording, g⟩ =
      l.finished .recording g := by
  rw [clearActive_eq, takeRecording_snd, finished]
  simp only [true_and]
  rfl

end Leg

/-- Giving the result of an activity to whoever asked for it. -/
def Surroundings.reporting (w : Surroundings) (l : Leg) (a : Activity)
    (result : Except Fault String) : List Effect :=
  (l.slot (.group a)).replyTo.toList.map (fun r => w.telling r (.operationResult a result))

namespace Desk

variable {σ : Type} (d : Desk σ)

/-- A result is reported to whoever asked, and then to the observers. -/
theorem report_goes (a : Activity) (g : Nat) (result : Except Fault String) :
    (d.report a g result).leg = d.leg.clearActive ⟨a, g⟩ ∧
      d.Goes (d.surroundings.reporting d.leg a result) (d.report a g result) := by
  unfold report Surroundings.reporting
  have hslot : (d.leg.clearActive ⟨a, g⟩).slot (.group a) = d.leg.slot (.group a) := by
    unfold Leg.clearActive
    split <;> rfl
  dsimp only
  rw [hslot]
  have hgo := d.goes_leg (d.leg.clearActive ⟨a, g⟩)
  cases (d.leg.slot (.group a)).replyTo with
  | none => exact ⟨rfl, hgo⟩
  | some r => exact ⟨leg_tell _ _ _, hgo.tell r _⟩

/-- The end of a recording also ends the call recording that it writes. -/
theorem recordingOver_goes (g : Nat) :
    (d.recordingOver g).leg = (d.leg.takeRecording g).2 ∧ d.Goes [] (d.recordingOver g) := by
  unfold recordingOver
  rcases d.leg.takeRecording_cases g with ⟨r, -, -, ht⟩ | ⟨-, ht⟩
  · rw [ht]
    exact ⟨rfl, (d.goes_leg _).log Line.ordinary_info⟩
  · rw [ht]
    exact ⟨rfl, .refl d⟩

end Desk

namespace Controller

variable {σ : Type} (site : Site σ) (c : Controller σ)

/-! ## Activities

The three kinds differ in how their results are told, and a recording in that it may be one of a
call. -/

variable {c} in
/-- What comes of an outcome of an activity, once its slot has been disarmed at `c`. -/
theorem outcomeAccepted_goes {o : Outcome} {a : Activity} (ho : o.category = .group a) (g : Nat)
    {l : Leg} (hl : c.desk.leg = l.disarmed (.group a)) :
    ∃ result, o.result? l.endKey = some result ∧
      (c.outcomeAccepted site g o).phase = c.phase ∧
      (c.outcomeAccepted site g o).desk.leg = l.finished a g ∧
      c.desk.Goes (c.desk.surroundings.reporting l a result)
        (c.outcomeAccepted site g o).desk := by
  -- disarming does not change whom the slot reports to
  have hsame : ∀ d : Desk σ, d.leg.slot (.group a) = (l.slot (.group a)).disarm →
      ∀ w : Surroundings, ∀ result, w.reporting d.leg a result = w.reporting l a result := by
    intro d hd w result
    unfold Surroundings.reporting
    rw [hd]
    rfl
  have hslot : c.desk.leg.slot (.group a) = (l.slot (.group a)).disarm := by
    rw [hl, Leg.slot_disarmed, if_pos rfl]
  have hplain : ∀ result, a ≠ .recording →
      (c.desk.report a g result).leg = l.finished a g ∧
      c.desk.Goes (c.desk.surroundings.reporting l a result) (c.desk.report a g result) := by
    intro result ha
    obtain ⟨hleg, hgo⟩ := c.desk.report_goes a g result
    rw [hsame c.desk hslot] at hgo
    refine ⟨?_, hgo⟩
    rw [hleg, hl, Leg.clearActive_disarmed l a g ha]
  cases o with
  | negotiation o => cases ho
  | playback o =>
    cases ho
    cases o with
    | completed => exact ⟨_, rfl, rfl, hplain _ (by decide)⟩
    | failed reason => exact ⟨_, rfl, rfl, hplain _ (by decide)⟩
  | digitCollection o =>
    cases ho
    cases o with
    | completed digits => exact ⟨_, rfl, rfl, hplain _ (by decide)⟩
    | failed reason => exact ⟨_, rfl, rfl, hplain _ (by decide)⟩
  | recording o =>
    cases ho
    have hover : ∀ d : Desk σ, d.leg = c.desk.leg → c.desk.Goes [] d → ∀ result,
        ((d.recordingOver g).report .recording g result).leg = l.finished .recording g ∧
        c.desk.Goes (c.desk.surroundings.reporting l .recording result)
          ((d.recordingOver g).report .recording g result) := by
      intro d hd hgo result
      obtain ⟨hleg₁, hgo₁⟩ := d.recordingOver_goes g
      obtain ⟨hleg₂, hgo₂⟩ := (d.recordingOver g).report_goes .recording g result
      have hslot₁ : (d.recordingOver g).leg.slot (.group .recording) =
          (l.slot (.group .recording)).disarm := by
        rw [hleg₁, Leg.takeRecording_snd, ← hslot, ← hd]
        rfl
      have hall := hgo.trans hgo₁
      rw [hall.surroundings rfl, hsame _ hslot₁] at hgo₂
      refine ⟨?_, hall.trans hgo₂⟩
      rw [hleg₂, hleg₁, hd, hl, Leg.clearActive_takeRecording]
    have hkey : c.desk.leg.endKey = l.endKey := by
      rw [hl]
      rfl
    cases o with
    | completed qualifier =>
      refine ⟨.ok (Desk.recordedDigits c.desk.leg qualifier), ?_, rfl, hover c.desk rfl (.refl _) _⟩
      cases qualifier <;> simp [Outcome.result?, Desk.recordedDigits, hkey]
    | failed reason =>
      have hline : Line.Ordinary ⟨.error, s!"Recording event failed: {reason}", []⟩ :=
        Line.ordinary_error (by simp [toString])
      have hlog := c.desk.goes_log hline
      exact ⟨.error (.provider reason), rfl, rfl, hover (c.desk.log .error _ []) rfl hlog _⟩

/-! ## The negotiation

Only here does an outcome change the phase. -/

/-- A negotiation that ends while it is awaited moves the session and tells the call, once. -/
theorem negotiationEnded_goes (hp : c.phase = .opening ∨ c.phase = .updating) {call : Recipient}
    (hcall : c.desk.leg.call = some call) (o : NegotiationOutcome) :
    (∃ localSdp, o.verdict = .ok localSdp ∧ (c.negotiationEnded site o).phase = .active ∧
      (c.negotiationEnded site o).desk.leg = c.desk.leg.described localSdp ∧
      c.desk.Goes (c.desk.surroundings.tellingCall c.desk.leg
        (.sessionReady ((c.desk.leg.described localSdp).info site.server.address)))
        (c.negotiationEnded site o).desk) ∨
    (∃ fault, o.verdict = .error fault ∧ (c.negotiationEnded site o).phase = .failed ∧
      (c.negotiationEnded site o).desk.leg = c.desk.leg ∧
      c.desk.Goes (c.desk.surroundings.tellingCall c.desk.leg (.failure fault))
        (c.negotiationEnded site o).desk) := by
  have hactive : ∀ localSdp,
      (c.enter site (.negotiated localSdp) .active).phase = .active ∧
      (c.enter site (.negotiated localSdp) .active).desk.leg = c.desk.leg.described localSdp ∧
      c.desk.Goes (c.desk.surroundings.tellingCall c.desk.leg
        (.sessionReady ((c.desk.leg.described localSdp).info site.server.address)))
        (c.enter site (.negotiated localSdp) .active).desk := by
    intro localSdp
    have hlegal : (c.phase, .active) ∈ Phase.legalTransitions := by
      rcases hp with hp | hp <;> rw [hp] <;> decide
    obtain ⟨d, hlog, hsame, henter⟩ := c.enter_legal site (.negotiated localSdp) hlegal
    obtain ⟨hleg, hgo⟩ := d.enterActive_goes site (hsame ▸ hcall) localSdp
    rw [henter, ← hsame, ← hlog.surroundings rfl]
    exact ⟨rfl, hleg, hlog.trans hgo⟩
  have hfailed : ∀ reason,
      (c.negotiationFailed site (.negotiation reason)).phase = .failed ∧
      (c.negotiationFailed site (.negotiation reason)).desk.leg = c.desk.leg ∧
      c.desk.Goes (c.desk.surroundings.tellingCall c.desk.leg (.failure (.negotiation reason)))
        (c.negotiationFailed site (.negotiation reason)).desk := by
    intro reason
    have hlegal : (c.phase, .failed) ∈ Phase.legalTransitions := by
      rcases hp with hp | hp <;> rw [hp] <;> decide
    have hallowed : (lifecycle site).allows c.phase .failed = true :=
      List.contains_iff_mem.2 hlegal
    have hfatal : (Fault.negotiation reason).isFatal = true := rfl
    obtain ⟨d, hlog, hsame, henter⟩ :=
      c.enter_legal site (.negotiationFailed (.negotiation reason)) hlegal
    obtain ⟨hleg, hgo⟩ := d.enterFailed_goes (hsame ▸ hcall) (.negotiation reason)
    unfold negotiationFailed
    rw [hfatal, hallowed, Bool.and_self, if_pos rfl, henter, ← hsame, ← hlog.surroundings rfl]
    exact ⟨rfl, hleg, hlog.trans hgo⟩
  cases o with
  | offerGenerated sdp => exact .inl ⟨some sdp, rfl, hactive (some sdp)⟩
  | answerGenerated sdp => exact .inl ⟨some sdp, rfl, hactive (some sdp)⟩
  | answerProcessed => exact .inl ⟨none, rfl, hactive none⟩
  | networkStreamFailure => exact .inr ⟨_, rfl, hfailed _⟩
  | failed reason => exact .inr ⟨_, rfl, hfailed reason⟩

/-! ## Arriving

Before anything is made of an outcome its slot is asked, and disarmed if the outcome is accepted. -/

variable {c}

/-- An outcome that is not awaited is dropped. -/
theorem arrive_stale {e : Completion} (h : ¬ c.desk.leg.Awaits e.category e.generation) :
    (c.arrive site e).phase = c.phase ∧ (c.arrive site e).desk.leg = c.desk.leg ∧
      c.desk.Goes [] (c.arrive site e).desk := by
  have hrefused : ((c.desk.leg.slot e.category).accept e.generation).1 = false := by
    rw [← Bool.not_eq_true, Slot.accept_iff]
    exact h
  have hline : Line.Ordinary
      ⟨.debug, s!"Dropping stale {e.category.name} event (generation {e.generation})", []⟩ :=
    Line.ordinary_debug (by simp [toString])
  unfold arrive
  rcases ha : (c.desk.leg.slot e.category).accept e.generation with ⟨accepted, slot⟩
  rw [ha] at hrefused
  cases hrefused
  simp only [ha]
  exact ⟨rfl, rfl, c.desk.goes_log hline⟩

/-- An outcome that is awaited is acted on, once its slot has been disarmed. -/
theorem arrive_awaited {e : Completion} (h : c.desk.leg.Awaits e.category e.generation) :
    c.arrive site e =
      (c.atDesk (·.disarm e.category)).outcomeAccepted site e.generation e.outcome := by
  have haccepted : ((c.desk.leg.slot e.category).accept e.generation).1 = true := by
    rw [Slot.accept_iff]
    exact h
  have hslot := (c.desk.leg.slot e.category).accept_snd e.generation
  rw [haccepted, if_pos rfl] at hslot
  unfold arrive
  rcases ha : (c.desk.leg.slot e.category).accept e.generation with ⟨accepted, slot⟩
  rw [ha] at haccepted hslot
  cases haccepted
  cases hslot
  simp only [ha]
  rfl

end Controller

end CallMedia
