/-
  What is in flight, and what is remembered of it.

  An activity that is let go never comes back: every later one is of a later generation
  (`Run.active_once`).

  A call recording that is remembered ought to be one that is being written.  It is, unless an earlier
  turn abandoned it (`Turn.Abandons`): stopping or destroying the group, and a stop that the media
  server refuses, clear what is in flight and leave the call recording as it is.  Nothing else does.
  Such a call recording is of no use any more, since no stop finds its generation in flight again.
-/
import CallMedia.Proofs.Remembering
import CallMedia.Proofs.Generations
import CallMedia.Proofs.Handles

namespace CallMedia

/-! ## One turn

Each of these lemmas follows one of the two, what is in flight or the call recording, through the six
cases of `Recorded`, forwards or backwards. -/

/-- What an order for a call recording asks for is a recording. -/
theorem Message.activity_of_recording {settings : Settings} {m : Message} {k : Ask}
    {order : CallRecordingOrder} (hm : m.ask? settings = some k) (hr : k.recording = some order) :
    m = .startRecording order ∧ k.activity = .recording := by
  cases m with
  | startRecording o =>
    cases hm
    cases hr
    exact ⟨rfl, rfl⟩
  | play o | collect o | record o =>
    cases hm
    cases hr
  | _ => cases hm

section

variable {reader : Recording.Reader} {settings : Settings} {w : Surroundings} {p : Phase} {l l' : Leg}
  {item : Item} {es : List Effect}

/-- A stop clears what is in flight. -/
theorem Stopped.active_none {apiVersion : String} {artifact : Bool}
    (h : Stopped reader apiVersion w artifact l l' es) : l'.active = none := by
  rcases h.leg with rfl | rfl <;> rfl

/-- A stop that leaves a call recording whose recording it ends was refused by the media server. -/
theorem Stopped.refused {apiVersion : String} {artifact : Bool}
    (h : Stopped reader apiVersion w artifact l l' es) {r : CallRecording}
    (ha : l.active = some ⟨.recording, r.generation⟩) (hr : l.recording = some r)
    (hr' : l'.recording = some r) :
    ∃ group e, .performed (.stop .recording group) (.error e) ∈ es := by
  cases h with
  | other was es hs hw =>
    cases hs with
    | idle hidle => rw [ha] at hidle; cases hidle
    | groupless a ha' hg =>
      rw [ha] at ha'
      cases ha'
      exact absurd rfl (hw r.generation)
    | stopped a group ha' hg =>
      rw [ha] at ha'
      cases ha'
      exact absurd rfl (hw r.generation)
  | failed e es hs =>
    cases hs with
    | refused a group e ha' hg =>
      rw [ha] at ha'
      cases ha'
      exact ⟨group, e, List.mem_cons_self⟩
  | plain g es hs hother =>
    have hwas := hs.was
    rw [ha] at hwas
    cases hwas
    exact absurd rfl (hother r hr)
  | dropped g r' es hs hr'' hg hd => cases hr'
  | filed g r' accountId store m es hs hr'' hg hart haccount hstore hm => cases hr'
  | unfiled g r' accountId store m e es hs hr'' hg hart haccount hstore hm => cases hr'

/-- What is in flight was so before, or was just begun while nothing was. -/
theorem Recorded.active (h : Recorded reader settings w p l item l' es) {a : Active}
    (ha : l'.active = some a) :
    l.active = some a ∨ l.active = none ∧
      ∃ what fate, .started what ⟨.group a.activity, a.generation⟩ ⟨.ok (), fate⟩ ∈ es := by
  -- of the six cases one begins something, three clear what is in flight, and two may leave it
  cases h with
  | begun sender m k what g fate hitem hm idle hstart hactive hrecording hfilings =>
    rw [hactive] at ha
    cases ha
    exact .inr ⟨idle, what, fate, hstart⟩
  | stopped artifact accountId store hitem hs => rw [hs.active_none] at ha; cases ha
  | quieted hitem hactive hrecording hfilings => rw [hactive] at ha; cases ha
  | closed hitem hactive hrecording hfilings => rw [hactive] at ha; cases ha
  | finished e b hitem hcat awaited hl hfilings =>
    subst hl
    change (if l.active = some ⟨b, e.generation⟩ then none else l.active) = some a at ha
    split at ha
    · cases ha
    · exact .inl ha
  | unmoved hactive hrecording hfilings => exact .inl (hactive.symm.trans ha)

/-- A call recording stays remembered as long as it is in flight. -/
theorem Recorded.kept (h : Recorded reader settings w p l item l' es) {r : CallRecording}
    (hr : l.recording = some r) (ha : l.active = some ⟨.recording, r.generation⟩)
    (ha' : l'.active = some ⟨.recording, r.generation⟩) : l'.recording = some r := by
  cases h with
  | begun sender m k what g fate hitem hm idle hstart hactive hrecording hfilings =>
    rw [idle] at ha
    cases ha
  | stopped artifact accountId store hitem hs => rw [hs.active_none] at ha'; cases ha'
  | quieted hitem hactive hrecording hfilings => rw [hactive] at ha'; cases ha'
  | closed hitem hactive hrecording hfilings => rw [hactive] at ha'; cases ha'
  | finished e b hitem hcat awaited hl hfilings =>
    subst hl
    change (if l.active = some ⟨b, e.generation⟩ then none else l.active) = _ at ha'
    -- the outcome is not that of the recording, which would be over with it
    have hother : ¬ (b = .recording ∧ l.recording.map CallRecording.generation = some e.generation) := by
      rintro ⟨rfl, hgeneration⟩
      rw [hr] at hgeneration
      rw [ha, Option.some.inj hgeneration, if_pos rfl] at ha'
      cases ha'
    exact (if_neg hother).trans hr
  | unmoved hactive hrecording hfilings => exact hrecording.trans hr

/-- A call recording that stays remembered stays in flight, unless it is abandoned. -/
theorem Recorded.stays (h : Recorded reader settings w p l item l' es) {r : CallRecording}
    (hr : l.recording = some r) (ha : l.active = some ⟨.recording, r.generation⟩)
    (hr' : l'.recording = some r) :
    l'.active = some ⟨.recording, r.generation⟩ ∨ Quiets item ∨
      (∃ artifact accountId store, Stops p l item artifact accountId store) ∧
      ∃ group e, .performed (.stop .recording group) (.error e) ∈ es := by
  cases h with
  | begun sender m k what g fate hitem hm idle hstart hactive hrecording hfilings =>
    rw [idle] at ha
    cases ha
  | stopped artifact accountId store hitem hs =>
    exact .inr (.inr ⟨⟨artifact, accountId, store, hitem⟩, hs.refused ha hr hr'⟩)
  | quieted hitem hactive hrecording hfilings => exact .inr (.inl hitem)
  | closed hitem hactive hrecording hfilings => rw [hrecording] at hr'; cases hr'
  | finished e b hitem hcat awaited hl hfilings =>
    subst hl
    change (if b = .recording ∧ l.recording.map CallRecording.generation = some e.generation then none
      else l.recording) = some r at hr'
    split at hr'
    · cases hr'
    · -- the outcome is another activity's, since it does not take the call recording with it
      next hother =>
      left
      refine (if_neg fun hsame => hother ?_).trans ha
      rw [ha] at hsame
      obtain ⟨hb, hgeneration⟩ := Active.mk.inj (Option.some.inj hsame)
      exact ⟨hb.symm, by rw [hr, Option.map_some, hgeneration]⟩
  | unmoved hactive hrecording hfilings => exact .inl (hactive.trans ha)

/-- A call recording that is remembered was so before, or was just begun. -/
theorem Recorded.source (h : Recorded reader settings w p l item l' es) {r : CallRecording}
    (hr : l'.recording = some r) :
    l.recording = some r ∨ l'.active = some ⟨.recording, r.generation⟩ ∧
      ∃ sender order what fate, item = .message sender (.startRecording order) ∧
        .started what ⟨.group .recording, r.generation⟩ ⟨.ok (), fate⟩ ∈ es ∧
        r = order.recording r.generation w.clock := by
  cases h with
  | begun sender m k what g fate hitem hm idle hstart hactive hrecording hfilings =>
    rw [hr] at hrecording
    cases hk : k.recording with
    | none =>
      rw [hk] at hrecording
      exact .inl hrecording.symm
    | some order =>
      rw [hk] at hrecording
      cases hrecording
      obtain ⟨rfl, hrecords⟩ := Message.activity_of_recording hm hk
      rw [hrecords] at hstart hactive
      exact .inr ⟨hactive, sender, order, what, fate, hitem, hstart, rfl⟩
  | stopped artifact accountId store hitem hs =>
    rcases hs.leg with rfl | rfl
    · exact .inl hr
    · cases hr
  | quieted hitem hactive hrecording hfilings => exact .inl (hrecording.symm.trans hr)
  | closed hitem hactive hrecording hfilings => rw [hrecording] at hr; cases hr
  | finished e b hitem hcat awaited hl hfilings =>
    subst hl
    change (if b = .recording ∧ l.recording.map CallRecording.generation = some e.generation then none
      else l.recording) = some r at hr
    split at hr
    · cases hr
    · exact .inl hr
  | unmoved hactive hrecording hfilings => exact .inl (hrecording.symm.trans hr)

end

section

variable {σ : Type} {site : Site σ} {w : Surroundings} {p p' : Phase} {l l' : Leg} {item : Item}
  {es : List Effect}

/-- A stop that is in place settles what is in flight. -/
theorem Turned.stopped_of_stops (h : Turned site w p l item p' l' es) {artifact : Bool}
    {accountId store : Option String} (hitem : Stops p l item artifact accountId store) :
    Stopped site.reader site.settings.apiVersion w artifact (l.remember accountId store) l' es := by
  cases hitem with
  | stop sender artifact ha =>
    rw [Leg.remember_none]
    cases h with
    | ignored item hout => exact absurd hout ha
    | stopped sender artifact l' es ha hs => exact hs
    | attempted sender m k r l' es hp hm ht => cases hm
    | joined sender m mixer l' es hp hm hj => rcases hm with hm | hm <;> cases hm
    | rejoined sender m direction k mixer answer hp hd hk hm =>
      rcases hd with ⟨hd, -⟩ | ⟨hd, -⟩ <;> cases hd
  | recording sender accountId store g hp ha =>
    cases h with
    | ignored item hout =>
      rcases hout with hout | hout
      · exact absurd hp hout
      · exact absurd ha (hout g)
    | stoppedRecording sender accountId store g l' es hp ha hs => exact hs
    | attempted sender m k r l' es hp hm ht => cases hm
    | joined sender m mixer l' es hp hm hj => rcases hm with hm | hm <;> cases hm
    | rejoined sender m direction k mixer answer hp hd hk hm =>
      rcases hd with ⟨hd, -⟩ | ⟨hd, -⟩ <;> cases hd

/-- Stopping or destroying the group clears what is in flight. -/
theorem Turned.active_none_of_quiets (h : Turned site w p l item p' l' es) (hl : Sound p l)
    (hitem : Quiets item) : l'.active = none := by
  cases item with
  | message sender m =>
    cases m with
    | stopGroup =>
      cases h with
      | ignored item hout => exact hout.elim
      | groupStopped sender es hs => rfl
      | attempted sender m k r l' es hp hm ht => cases hm
      | joined sender m mixer l' es hp hm hj => rcases hm with hm | hm <;> cases hm
      | rejoined sender m direction k mixer answer hp hd hk hm =>
        rcases hd with ⟨hd, -⟩ | ⟨hd, -⟩ <;> cases hd
    | destroyGroup =>
      cases h with
      | ignored item hout => exact hout.elim
      | groupDestroyed sender l' es hd =>
        cases hd with
        -- without a group nothing was in flight
        | absent hg => exact Option.eq_none_iff_forall_ne_some.2 fun a ha => (hl.busy a ha).1 hg
        | released group answer hg => rfl
      | attempted sender m k r l' es hp hm ht => cases hm
      | joined sender m mixer l' es hp hm hj => rcases hm with hm | hm <;> cases hm
      | rejoined sender m direction k mixer answer hp hd hk hm =>
        rcases hd with ⟨hd, -⟩ | ⟨hd, -⟩ <;> cases hd
    | _ => exact hitem.elim
  | completion e => exact hitem.elim
  | query n => exact hitem.elim

/-- The outcome of what is in flight clears it. -/
theorem Turned.active_none_of_outcome {e : Completion} (h : Turned site w p l (.completion e) p' l' es)
    (hl : Sound p l) {a : Active} (ha : l.active = some a)
    (he : e.sink = ⟨.group a.activity, a.generation⟩) : l'.active = none := by
  obtain ⟨hcat, hgeneration⟩ : e.category = .group a.activity ∧ e.generation = a.generation := by
    unfold Completion.sink at he
    exact Sink.mk.inj he
  have hawaits : l.Awaits e.category e.generation := by
    rw [hcat, hgeneration]
    exact (hl.busy a ha).2
  cases h with
  | ignored item hout => exact absurd hawaits hout
  | agreed g o localSdp hp awaited ho => cases hcat
  | broke g o fault hp awaited ho => cases hcat
  | finished e b result hcat' awaited hr =>
    rw [hcat] at hcat'
    cases hcat'
    rw [hgeneration]
    exact if_pos ha

end

/-! ## Abandoned call recordings -/

/-- Whether a turn clears what is in flight, and leaves the call recording that it writes as it is. -/
structure Turn.Abandons {σ : Type} (site : Site σ) (t : Turn σ) (r : CallRecording) : Prop where
  recording : t.before.desk.leg.recording = some r
  active : t.before.desk.leg.active = some ⟨.recording, r.generation⟩
  /-- The group is stopped or destroyed, or the media server refuses to stop the recording. -/
  way : Quiets t.item ∨
    (∃ artifact accountId store,
      Stops t.before.phase t.before.desk.leg t.item artifact accountId store) ∧
    ∃ group e, .performed (.stop .recording group) (.error e) ∈ t.effects site

namespace Run

variable {σ : Type} {site : Site σ} {ts : List (Turn σ)} {c : Controller σ}
  {queued : List Completion}

/-- An activity that is let go never comes back. -/
theorem active_once (h : Run site ts c queued) {pre post : List (Turn σ)} {t : Turn σ}
    (hts : ts = pre ++ t :: post) {a : Active} (ha : t.before.desk.leg.active = some a)
    (hgone : (t.after site).desk.leg.active ≠ some a) : c.desk.leg.active ≠ some a := by
  -- its generation has begun, so whatever begins later is of another one
  have hstep : ∀ {u : Turn σ} {ts queued}, Run site ts u.before queued →
      a.generation ≤ (u.before.desk.leg.slot (.group a.activity)).generation →
      (u.before.desk.leg.active = some a → u = t) →
      (u.after site).desk.leg.active ≠ some a ∧
        a.generation ≤ ((u.after site).desk.leg.slot (.group a.activity)).generation := by
    intro u ts queued hbefore hbegun hcame
    obtain ⟨hturned, -, -⟩ := Turn.turned (t := u) site hbefore.sound
    constructor
    · intro hcomes
      rcases hturned.recorded.active hcomes with hwas | ⟨-, what, fate, hstart⟩
      · rw [hcame hwas] at hcomes
        exact hgone hcomes
      · have hnext := (hturned.begins.of_started hstart).1
        dsimp only at hnext
        omega
    · exact Nat.le_trans hbegun (hturned.begins.le _)
  refine (h.invariant (P := fun ts _ l => ∀ post, ts = pre ++ t :: post →
    l.active ≠ some a ∧ a.generation ≤ (l.slot (.group a.activity)).generation)
    (fun post heq => absurd heq.symm (by simp)) ?_ post hts).1
  intro ts u queued hbefore ih post heq
  rcases concat_cases heq with ⟨-, rfl, -⟩ | ⟨post, -, hts'⟩
  · exact hstep hbefore (Nat.le_of_eq (hbefore.sound.busy a ha).2.2) fun _ => rfl
  · obtain ⟨hnot, hbegun⟩ := ih post hts'
    exact hstep hbefore hbegun fun hcame => absurd hcame hnot

/-- A turn that abandons a call recording clears what is in flight. -/
theorem active_none_of_abandons {t : Turn σ} (h : Run site ts t.before queued) {r : CallRecording}
    (ht : t.Abandons site r) : (t.after site).desk.leg.active = none := by
  obtain ⟨hturned, -, -⟩ := Turn.turned (t := t) site h.sound
  rcases ht.way with hquiet | ⟨⟨artifact, accountId, store, hstops⟩, -⟩
  · exact hturned.active_none_of_quiets h.sound hquiet
  · exact (hturned.stopped_of_stops hstops).active_none

/-- What is remembered is in flight, or was abandoned. -/
theorem remembered_cases (h : Run site ts c queued) {r : CallRecording}
    (hr : c.desk.leg.recording = some r) :
    c.desk.leg.active = some ⟨.recording, r.generation⟩ ∨ ∃ t ∈ ts, t.Abandons site r := by
  -- by induction on the run: what is remembered was so before the turn, or was begun in it
  refine h.invariant (P := fun ts _ l => l.recording = some r →
    l.active = some ⟨.recording, r.generation⟩ ∨ ∃ t ∈ ts, t.Abandons site r) nofun ?_ hr
  intro ts t queued hbefore ih hr
  obtain ⟨hturned, -, -⟩ := Turn.turned (t := t) site hbefore.sound
  rcases hturned.recorded.source hr with hwas | ⟨hactive, -⟩
  · rcases ih hwas with hactive | ⟨u, hu, habandons⟩
    · rcases hturned.recorded.stays hwas hactive hr with hstays | hway
      · exact .inl hstays
      · refine .inr ⟨t, List.mem_append_right _ (List.mem_singleton_self t), hwas, hactive, ?_⟩
        refine hway.imp_right fun ⟨hstops, group, e, hm⟩ => ⟨hstops, group, e, ?_⟩
        exact ((t.mem_shown site).1 hm).1
    · exact .inr ⟨u, List.mem_append_left _ hu, habandons⟩
  · exact .inl hactive

end Run

section

variable {σ : Type} {site : Site σ} {ts : List (Turn σ)} {c : Controller σ}
  {queued : List Completion}

/-- A call recording that is remembered is the one being written exactly if no turn abandoned it. -/
theorem remembered_in_flight (h : Run site ts c queued) {r : CallRecording}
    (hr : c.desk.leg.recording = some r) :
    c.desk.leg.active = some ⟨.recording, r.generation⟩ ↔ ∀ t ∈ ts, ¬ t.Abandons site r := by
  constructor
  · -- what was abandoned was let go, and does not come back
    intro ha t ht habandons
    obtain ⟨pre, post, rfl⟩ := List.append_of_mem ht
    obtain ⟨queued', hbefore, -⟩ := h.before
    refine h.active_once rfl habandons.active ?_ ha
    rw [hbefore.active_none_of_abandons habandons]
    exact (Option.some_ne_none _).symm
  · intro hnone
    rcases h.remembered_cases hr with ha | ⟨t, ht, habandons⟩
    · exact ha
    · exact absurd habandons (hnone t ht)

end

namespace Sample

/-- The whole call is to be recorded for an account. -/
def order : CallRecordingOrder where
  accountId := "account"
  callId := "call"
  recordingId := "recording"
  uri := ⟨"rtsp://media/recording"⟩
  store := some "store"

def record : Item := .message call (.startRecording order)

def recorded : Controller Unit := handled grouped record

def stopGroup : Item := .message call .stopGroup

/-- The session is active, the group is there, and the media server accepts to record. -/
theorem run_recorded :
    Run site [⟨fresh, create⟩, ⟨offered, .completion offer⟩, ⟨active, group⟩, ⟨grouped, record⟩]
      recorded [] :=
  .turn _ grouped [] record run_grouped nofun

end Sample

/-- While the call is recorded, no turn has abandoned the recording. -/
theorem remembered_in_flight_recorded :
    ∃ ts r, Run Sample.site ts Sample.recorded [] ∧
      Sample.recorded.desk.leg.recording = some r ∧
      Sample.recorded.desk.leg.active = some ⟨.recording, r.generation⟩ ∧
      ∀ t ∈ ts, ¬ t.Abandons Sample.site r :=
  ⟨_, _, Sample.run_recorded, rfl, rfl, (remembered_in_flight Sample.run_recorded rfl).1 rfl⟩

/-- Once the group is stopped the call recording is still remembered, nothing is in flight, and a stop
    does nothing about it. -/
theorem remembered_after_stop :
    ∃ c r, c = Sample.handled Sample.recorded Sample.stopGroup ∧ Reachable Sample.site c ∧
      c.desk.leg.recording = some r ∧ c.desk.leg.active = none ∧
      Turn.shown Sample.site ⟨c, .message Sample.call (.stop true)⟩ = [] :=
  ⟨_, _, rfl, ⟨_, _, .turn _ Sample.recorded [] Sample.stopGroup Sample.run_recorded nofun⟩, rfl, rfl,
    rfl⟩

end CallMedia
