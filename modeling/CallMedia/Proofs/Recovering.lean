/-
  Whether a session recovers from an update that was refused.

  A fault of the media server that is not a failed negotiation concerns one request and is to leave the
  session as it is.  An update does not keep to that.  The phase is `updating` before the media server is
  asked, and where it refuses nothing is awaited that could lead back, while every request that would ask
  again wants an active session.  So the session can be closed and nothing else: whatever the controller is
  sent, and whatever the media server answers later, it is never active again (`Run.stranded`).
-/
import CallMedia.Proofs.Awaiting
import CallMedia.Proofs.Silence

namespace CallMedia

section

variable {σ : Type} {site : Site σ} {w : Surroundings} {p' : Phase} {l l' : Leg} {item : Item}
  {es : List Effect}

/-- Where the media server refuses a step of the negotiation, the call hears of the fault, and nothing is
    awaited. -/
theorem Negotiates.refused {op what : Operation} (h : Negotiates w l op l' es) {sink : Sink}
    {e : Fault} {fate : SinkFate} (hrefused : .started what sink ⟨.error e, fate⟩ ∈ es)
    {call : Recipient} (hcall : l.call = some call) :
    (l'.slot .negotiation).pending = false ∧ noticesOf es = [(call, .failure e)] := by
  -- a notice is no start
  have htold : ∀ {rs : List Recipient} {n : Notice},
      .started what sink ⟨.error e, fate⟩ ∉ rs.map fun r => w.telling r n := by
    intro rs n hm
    have hsink := mem_sinksOf hm
    rw [sinksOf_telling] at hsink
    cases hsink
  cases h with
  | begun g l' es hl =>
    cases hl with
    | accepted fate' hopen => cases List.mem_singleton.1 hrefused
  | failed e' l' es hl =>
    cases hl with
    | closed hopen => exact absurd hrefused htold
    | refused e' fate' hopen =>
      rcases List.mem_cons.1 hrefused with heq | hm
      · cases heq
        refine ⟨?_, w.noticesOf_tellingCall hcall _⟩
        rw [Leg.slot_begun, if_pos rfl]
      · exact absurd hm htold

/-- While a session is renegotiated and nothing is awaited, a turn closes it or leaves it so. -/
theorem Turned.stranded (h : Turned site w .updating l item p' l' es)
    (hslot : (l.slot .negotiation).pending = false) :
    (p' = .inactive ∧ ∃ sender, item = .message sender .closeSession) ∨
      (p' = .updating ∧ (l'.slot .negotiation).pending = false ∧
        ¬ ∃ sender, item = .message sender .closeSession) := by
  -- no outcome is awaited, so only closing the session leads elsewhere
  have hiff : Phase.updating.next l item ≠ .updating ↔ _ := Phase.next_ne_iff (.inr rfl) hslot
  rw [← h.next] at hiff
  by_cases hp : p' = .updating
  · subst hp
    refine .inr ⟨rfl, ?_, fun hclose => hiff.2 hclose rfl⟩
    rw [h.undisturbed.1]
    exact hslot
  · obtain ⟨sender, rfl⟩ := hiff.1 hp
    exact .inl ⟨h.next, sender, rfl⟩

end

namespace Run

variable {σ : Type} {site : Site σ} {pre post : List (Turn σ)} {t : Turn σ} {c : Controller σ}
  {queued : List Completion}

/-- A session that is renegotiated while nothing is awaited stays so until it is closed, and then it is
    closed for good. -/
theorem stranded (h : Run site (pre ++ t :: post) c queued) (hp : (t.after site).phase = .updating)
    (hslot : ((t.after site).desk.leg.slot .negotiation).pending = false) :
    (∀ u ∈ post, u.before.phase ≠ .active) ∧
      ((c.phase = .inactive ∧ ∃ u ∈ post, ∃ sender, u.item = .message sender .closeSession) ∨
        (c.phase = .updating ∧ (c.desk.leg.slot .negotiation).pending = false ∧
          ¬ ∃ u ∈ post, ∃ sender, u.item = .message sender .closeSession)) := by
  -- by induction on what comes after the turn: closed, or still renegotiated with nothing awaited
  refine h.onwards (P := fun post p l => (∀ u ∈ post, u.before.phase ≠ .active) ∧
    ((p = .inactive ∧ ∃ u ∈ post, ∃ sender, u.item = .message sender .closeSession) ∨
      (p = .updating ∧ (l.slot .negotiation).pending = false ∧
        ¬ ∃ u ∈ post, ∃ sender, u.item = .message sender .closeSession))) ?_ ?_
  · refine ⟨List.forall_mem_nil _, .inr ⟨hp, hslot, ?_⟩⟩
    rintro ⟨u, hu, -⟩
    cases hu
  · rintro post u queued hrun ⟨hnever, hcases⟩
    obtain ⟨hturned, -, -⟩ := u.turned site hrun.sound
    have hsound := hrun.sound
    have hnever' : u.before.phase ≠ .active → ∀ v ∈ post ++ [u], v.before.phase ≠ .active :=
      fun hu => List.forall_mem_append.2 ⟨hnever, List.forall_mem_singleton.2 hu⟩
    rcases hcases with ⟨hphase, v, hv, hclose⟩ | ⟨hphase, hpending, hopen⟩
    · -- closed already
      rw [hphase] at hturned hsound
      obtain ⟨call, hcall⟩ := hsound.call_of_ne (by decide)
      obtain ⟨hinactive, -⟩ := hturned.silent hsound hcall
      exact ⟨hnever' (by rw [hphase]; decide),
        .inl ⟨hinactive, v, List.mem_append_left _ hv, hclose⟩⟩
    · refine ⟨hnever' (by rw [hphase]; decide), ?_⟩
      rw [hphase] at hturned
      rcases hturned.stranded hpending with ⟨hinactive, hclose⟩ | ⟨hupdating, hpending', hother⟩
      · exact .inl ⟨hinactive, u, List.mem_append_right _ (List.mem_singleton_self u), hclose⟩
      · refine .inr ⟨hupdating, hpending', ?_⟩
        rintro ⟨v, hv, hclose⟩
        rcases List.mem_append.1 hv with hv | hv
        · exact hopen ⟨v, hv, hclose⟩
        · rw [List.mem_singleton] at hv
          subst hv
          exact hother hclose

/-- An update that the media server refuses strands the session. -/
theorem refused (h : Run site (pre ++ t :: post) c queued) (hp : t.before.phase = .active)
    {sender : Recipient} {sdp : String} (hitem : t.item = .message sender (.updateSession sdp))
    {what : Operation} {sink : Sink} {e : Fault} {fate : SinkFate}
    (hrefused : .started what sink ⟨.error e, fate⟩ ∈ t.effects site) :
    (t.after site).phase = .updating ∧
      ((t.after site).desk.leg.slot .negotiation).pending = false ∧
      ∃ call, t.before.desk.leg.call = some call ∧
        noticesOf (t.effects site) = [(call, .failure e)] := by
  obtain ⟨queued', hbefore, -⟩ := h.before
  obtain ⟨call, hcall⟩ := hbefore.sound.call_of_ne (by rw [hp]; decide)
  obtain ⟨hturned, -, -⟩ := t.turned site hbefore.sound
  rw [hp, hitem] at hturned
  obtain ⟨hphase, k, -, hnegotiates⟩ := hturned.of_update
  obtain ⟨hslot, htold⟩ := hnegotiates.refused ((t.mem_shown site).2 ⟨hrefused, rfl⟩) hcall
  exact ⟨hphase, hslot, call, hcall, (t.noticesOf_effects site).trans htold⟩

end Run

section

variable {σ : Type} {site : Site σ} {pre post : List (Turn σ)} {t : Turn σ} {c : Controller σ}
  {queued : List Completion}

/-- An update of an active session that the media server refuses is told to the owning call, with the
    fault, and leaves the session in `updating` until it is closed.  In whatever way the run goes on, the
    session is never active again. -/
theorem stranded_once_refused (h : Run site (pre ++ t :: post) c queued)
    (hp : t.before.phase = .active) {sender : Recipient} {sdp : String}
    (hitem : t.item = .message sender (.updateSession sdp)) {k : ConnectionHandle} {sink : Sink}
    {e : Fault} {fate : SinkFate}
    (hrefused : .started (.processAnswer k sdp) sink ⟨.error e, fate⟩ ∈ t.effects site) :
    (∃ call, t.before.desk.leg.call = some call ∧
      noticesOf (t.effects site) = [(call, .failure e)]) ∧
    (t.after site).phase = .updating ∧
    (∀ u ∈ post, u.before.phase ≠ .active) ∧ c.phase ≠ .active ∧
    ((∃ u ∈ post, ∃ sender, u.item = .message sender .closeSession) → c.phase = .inactive) ∧
    ((¬ ∃ u ∈ post, ∃ sender, u.item = .message sender .closeSession) → c.phase = .updating) := by
  obtain ⟨hphase, hslot, htold⟩ := h.refused hp hitem hrefused
  obtain ⟨hnever, hcases⟩ := h.stranded hphase hslot
  refine ⟨htold, hphase, hnever, ?_⟩
  rcases hcases with ⟨hinactive, hclose⟩ | ⟨hupdating, -, hopen⟩
  · refine ⟨?_, fun _ => hinactive, fun hopen => absurd hclose hopen⟩
    rw [hinactive]
    decide
  · refine ⟨?_, fun hclose => absurd hclose hopen, fun _ => hupdating⟩
    rw [hupdating]
    decide

end

namespace Sample

/-- A media server that is busy once, at the first update, and from then on does whatever it is asked. -/
def busyOnce : Site Bool where
  settings := {}
  server := ⟨"sample", .v4 127 0 0 1, 5060, 5⟩
  create s _ := (.ok "1", s)
  perform s _ := (.ok (), s)
  start s what _ :=
    match s, what with
    | false, .processAnswer .. => (⟨.error (.provider "busy"), .dropped⟩, true)
    | _, _ => (⟨.ok (), .held⟩, s)
  store s _ _ := (.ok (), s)

/-- The controller once it has handled an item there. -/
def turnedOnce (c : Controller Bool) (item : Item) : Controller Bool :=
  (c.handle busyOnce item).atDesk fun d => { d with posted := [] }

def dialled : Controller Bool := ⟨.uninitialized, { outside := false, callers := 1 }⟩

def ringing : Controller Bool :=
  (turnedOnce dialled create).atDesk fun d => { d with sinks := d.sinks.erase ⟨.negotiation, 1⟩ }

def talking : Controller Bool := turnedOnce ringing (.completion offer)

def update : Item := .message call (.updateSession "answer")

/-- The offer is made, and the session is active. -/
theorem run_talking : Run busyOnce [⟨dialled, create⟩, ⟨ringing, .completion offer⟩] talking [] :=
  .turn _ ringing [offer] (.completion offer)
    (.complete _ _ [] _ offer.outcome _ (.turn [] dialled [] create (.start _ rfl rfl rfl) nofun)
      List.mem_cons_self rfl)
    (fun e he => by
      cases he
      exact List.mem_cons_self)

/-- The session is updated while it is active. -/
theorem run_update :
    Run busyOnce ([⟨dialled, create⟩, ⟨ringing, .completion offer⟩] ++ ⟨talking, update⟩ :: [])
      (turnedOnce talking update) [] :=
  .turn _ talking [] update run_talking nofun

/-- The media server refuses to process the answer. -/
theorem update_refused :
    .started (.processAnswer ⟨"1"⟩ "answer") ⟨.negotiation, 2⟩ ⟨.error (.provider "busy"), .dropped⟩ ∈
      Turn.effects busyOnce ⟨talking, update⟩ :=
  List.mem_of_getElem? (i := 2) rfl

end Sample

/-- The first update is refused, the call hears of it, and the session is left in `updating`. -/
theorem stranded_once_refused_busy :
    Sample.talking.phase = .active ∧
    noticesOf (Turn.effects Sample.busyOnce ⟨Sample.talking, Sample.update⟩) =
      [(Sample.call, .failure (.provider "busy"))] ∧
    (Sample.turnedOnce Sample.talking Sample.update).phase = .updating := by
  obtain ⟨⟨call, hcall, htold⟩, -, -, -, -, hopen⟩ :=
    stranded_once_refused Sample.run_update rfl rfl Sample.update_refused
  have hname : call = Sample.call := Option.some.inj (hcall.symm.trans rfl)
  subst hname
  refine ⟨rfl, htold, hopen ?_⟩
  rintro ⟨u, hu, -⟩
  cases hu

/-- The session was active, the update is refused, and from then on the media server refuses nothing; yet
    no run that goes on from there leads back to an active session. -/
theorem refused_unrecovered :
    Reachable Sample.busyOnce Sample.talking ∧ Sample.talking.phase = .active ∧
    (.started (.processAnswer ⟨"1"⟩ "answer") ⟨.negotiation, 2⟩
        ⟨.error (.provider "busy"), .dropped⟩ ∈
      Turn.effects Sample.busyOnce ⟨Sample.talking, Sample.update⟩) ∧
    ((Sample.turnedOnce Sample.talking Sample.update).desk.outside = true ∧
      (∀ what, Sample.busyOnce.create true what = (.ok "1", true)) ∧
      (∀ what, Sample.busyOnce.perform true what = (.ok (), true)) ∧
      ∀ what sink, Sample.busyOnce.start true what sink = (⟨.ok (), .held⟩, true)) ∧
    ∀ pre post c queued,
      Run Sample.busyOnce (pre ++ ⟨Sample.talking, Sample.update⟩ :: post) c queued →
      c.phase ≠ .active := by
  refine ⟨⟨_, _, Sample.run_talking⟩, rfl, Sample.update_refused,
    ⟨rfl, fun _ => rfl, fun _ => rfl, fun what sink => ?_⟩, ?_⟩
  · cases what <;> rfl
  · intro pre post c queued hrun
    obtain ⟨hphase, hslot, -⟩ := hrun.refused rfl rfl Sample.update_refused
    obtain ⟨-, ⟨hinactive, -⟩ | ⟨hupdating, -⟩⟩ := hrun.stranded hphase hslot
    · rw [hinactive]
      decide
    · rw [hupdating]
      decide

end CallMedia
