/-
  A rejection is atomic.

  Ten messages ask the media server for something in an active session, or on the way to a group
  (`Message.Asking`), with up to three requests each.  Any of these may be rejected (`rejection?`).  The
  rejected request is then the last one, except that a group that could not be joined is taken back
  (`Fails`); the state is what it was as far as a query sees it, and the fault goes to those whom it
  concerns and to nobody else (`Message.complaints`), to each of them once since the register of
  observers holds an id at most once (`Run.registered`).

  A sink that was handed over with the rejected operation is of no use: its generation has passed
  without ever being awaited, and no later operation has the same one (`Run.never_accepted`).
-/
import CallMedia.Proofs.Stopping

namespace CallMedia

/-! ## Requests and complaints

What the media server can reject, and whom a rejection concerns. -/

/-- The fault with which the media server rejects a request.  To take back a group is not a request of
    its own: it goes with one that was rejected. -/
def Effect.rejection? : Effect → Option Fault
  | created _ (.error e) => some e
  | performed (.releaseGroup _) _ => none
  | performed _ (.error e) => some e
  | started _ _ ⟨.error e, _⟩ => some e
  | _ => none

/-- Requests that went well up to the last one, which was rejected; what is allocated but cannot be
    joined is taken back. -/
inductive Fails (e : Fault) : List Effect → Prop
  | last (done : List Effect) (r : Effect) (hdone : ∀ x ∈ done, x.rejection? = none)
      (hr : r.rejection? = some e) : Fails e (done ++ [r])
  | unjoined (s : SessionHandle) (k : ConnectionHandle) (name : String)
      (answer : Except Fault Unit) :
      Fails e [.created (.group s) (.ok name), .performed (.join k .duplex (.group ⟨name⟩)) (.error e),
        .performed (.releaseGroup ⟨name⟩) answer]

namespace Message

/-- Whether a message asks the media server for something that it may reject without harm. -/
def Asking : Message → Prop
  | play _ | collect _ | record _ | startRecording _ | createGroup | joinBridge _ | joinConference _
  | leave | mute | unmute => True
  | _ => False

/-- Who hears of a rejection, and what: an activity and a join concern the observers, a group its sender,
    leaving the owning call, and muting nobody. -/
def complaints (call sender : Recipient) (observers : Observers) (e : Fault) :
    Message → List (Recipient × Notice)
  | play _ => observers.toList.map fun r => (r, .operationResult .playback (.error e))
  | collect _ => observers.toList.map fun r => (r, .operationResult .digitCollection (.error e))
  | record _ | startRecording _ =>
    observers.toList.map fun r => (r, .operationResult .recording (.error e))
  | createGroup => [(sender, .failure e)]
  | joinBridge _ | joinConference _ => observers.toList.map fun r => (r, .failure e)
  | leave => [(call, .failure e)]
  | _ => []

/-- The rejection of an activity concerns the observers. -/
theorem complaints_of_ask? {settings : Settings} {m : Message} {k : Ask}
    (h : m.ask? settings = some k) (call sender : Recipient) (observers : Observers) (e : Fault) :
    m.complaints call sender observers e =
      observers.toList.map fun r => (r, .operationResult k.activity (.error e)) := by
  cases m <;> cases h <;> rfl

end Message

/-! ## One turn

For each relation that makes up a turn: if one of its requests was rejected, this is what it shows.
The request that was rejected is found by going through the effects, most of which cannot be
rejected. -/

section

variable {w : Surroundings} {l l₀ l' : Leg} {es : List Effect} {x : Effect} {e : Fault}

/-- A rejection is not found among notices. -/
theorem Surroundings.not_rejection (w : Surroundings) (he : x.rejection? = some e)
    (rs : List Recipient) (n : Notice) : x ∉ rs.map fun r => w.telling r n := by
  intro hm
  obtain ⟨r, -, rfl⟩ := List.mem_map.1 hm
  cases he

/-- No operation is started where no sink is handed over. -/
theorem not_started (h : sinksOf es = []) (what : Operation) (sink : Sink) (answer : Answer) :
    .started what sink answer ∉ es := by
  intro hm
  have hsink := mem_sinksOf hm
  rw [h] at hsink
  cases hsink

/-- A rejection is not found where a group was made ready. -/
theorem prepared_accepted (a : Activity) (group : GroupHandle) :
    ∀ y ∈ prepared a group, y.rejection? = none := by
  unfold prepared
  split
  · exact List.forall_mem_singleton.2 rfl
  · exact List.forall_mem_nil _

/-- All that is done before a start is a request. -/
theorem filter_asks_prepared (a : Activity) (group : GroupHandle) :
    (prepared a group).filter Effect.asks = prepared a group := by
  unfold prepared
  split <;> rfl

/-- Where the rejected request is followed by notices alone, it is the last one. -/
theorem Fails.of_told {done : List Effect} {r : Effect} (hdone : ∀ x ∈ done, x.rejection? = none)
    (hasks : done.filter Effect.asks = done) (hr : r.rejection? = some e) (hr' : r.asks = true)
    (w : Surroundings) (rs : List Recipient) (n : Notice) :
    Fails e ((done ++ r :: rs.map fun r => w.telling r n).filter Effect.asks) := by
  have htold : (rs.map fun r => w.telling r n).filter Effect.asks = [] :=
    w.filter_telling (fun _ _ _ => rfl) rs n
  rw [List.filter_append, hasks, List.filter_cons_of_pos hr', htold]
  exact .last done r hdone hr

/-- An activity that is rejected: nothing is in flight, its outcome is not awaited, and the observers
    hear of it. -/
theorem Attempted.rejected {a : Activity} {what : GroupHandle → Operation} {sender : Recipient}
    {r : Option Nat} (h : Attempted w a what sender l l₀ r l' es) (hx : x ∈ es)
    (he : x.rejection? = some e) :
    r = none ∧ (∃ g, l' = l₀.askedBy a sender g false) ∧ Fails e (es.filter Effect.asks) ∧
    noticesOf es = l₀.observers.toList.map (fun r => (r, .operationResult a (.error e))) ∧
    ∀ op sink answer, .started op sink answer ∈ es →
      sink.category = .group a ∧ answer.result = .error e := by
  have htold := w.not_rejection he
  have hready : ∀ group, x ∉ prepared a group := by
    intro group hm
    rw [prepared_accepted a group x hm] at he
    cases he
  cases h with
  | unfit e' idle => exact absurd hx (htold [sender] _)
  | unprepared group e' idle digits =>
    -- the digits could not be flushed, so nothing was started
    have hfault : e' = e := by
      rcases List.mem_cons.1 hx with rfl | hx
      · exact Option.some.inj he
      · exact absurd hx (htold _ _)
    subst hfault
    refine ⟨rfl, ⟨_, rfl⟩, Fails.of_told (List.forall_mem_nil _) rfl rfl rfl w _ _,
      w.noticesOf_telling _ _, ?_⟩
    intro op sink answer hm
    rcases List.mem_cons.1 hm with hm | hm
    · cases hm
    · exact absurd hm (not_started (sinksOf_telling w _ _) _ _ _)
  | closed group idle hopen =>
    -- nothing was asked for, so nothing was rejected
    rcases List.mem_append.1 hx with hx | hx
    · exact absurd hx (hready group)
    · exact absurd hx (htold _ _)
  | refused group e' fate idle hopen =>
    have hfault : e' = e := by
      rcases List.mem_append.1 hx with hx | hx
      · exact absurd hx (hready group)
      · rcases List.mem_cons.1 hx with rfl | hx
        · exact Option.some.inj he
        · exact absurd hx (htold _ _)
    subst hfault
    refine ⟨rfl, ⟨_, rfl⟩, Fails.of_told (prepared_accepted a group) (filter_asks_prepared a group)
      rfl rfl w _ _, ?_, ?_⟩
    · rw [noticesOf_append, noticesOf_prepared]
      exact w.noticesOf_telling _ _
    · intro op sink answer hm
      rcases List.mem_append.1 hm with hm | hm
      · exact absurd hm (not_started (sinksOf_prepared a group) _ _ _)
      · rcases List.mem_cons.1 hm with hm | hm
        · cases hm
          exact ⟨rfl, rfl⟩
        · exact absurd hm (not_started (sinksOf_telling w _ _) _ _ _)
  | accepted group fate idle hopen =>
    rcases List.mem_append.1 hx with hx | hx
    · exact absurd hx (hready group)
    · rw [List.mem_singleton.1 hx] at he
      cases he

/-- A group that is rejected, at whichever step: the leg stays, and the sender hears of it. -/
theorem GroupCreated.rejected {sender : Recipient} (h : GroupCreated w sender l l' es) (hx : x ∈ es)
    (he : x.rejection? = some e) :
    l' = l ∧ Fails e (es.filter Effect.asks) ∧ noticesOf es = [(sender, .failure e)] := by
  cases h with
  | noSession hs =>
    rw [List.mem_singleton.1 hx] at he
    cases he
  | noConnection s hs hc =>
    rw [List.mem_singleton.1 hx] at he
    cases he
  | refused s k e' hs hc =>
    have hfault : e' = e := by
      rcases List.mem_cons.1 hx with rfl | hx
      · exact Option.some.inj he
      · rw [List.mem_singleton.1 hx] at he
        cases he
    subst hfault
    exact ⟨rfl, .last [] _ (List.forall_mem_nil _) rfl, rfl⟩
  | unjoined s k name e' answer hs hc =>
    -- of the three requests it is the second, and the third takes the group back
    have hfault : e' = e := by
      simp only [List.mem_cons, List.not_mem_nil, or_false] at hx
      rcases hx with rfl | rfl | rfl | rfl
      · cases he
      · exact Option.some.inj he
      · cases he
      · cases he
    subst hfault
    exact ⟨rfl, .unjoined s k name answer, rfl⟩
  | joined s k name hs hc =>
    simp only [List.mem_cons, List.not_mem_nil, or_false] at hx
    rcases hx with rfl | rfl | rfl <;> cases he

/-- A join that is rejected: the leg stays, and the observers hear of it. -/
theorem Joined.rejected {sender : Recipient} {mixer : MixerHandle}
    (h : Joined w sender mixer l l' es) (hx : x ∈ es) (he : x.rejection? = some e) :
    l' = l ∧ Fails e (es.filter Effect.asks) ∧
    noticesOf es = l.observers.toList.map (fun r => (r, .failure e)) := by
  have htold := w.not_rejection he
  cases h with
  | joined k hc =>
    rcases List.mem_cons.1 hx with rfl | hx
    · cases he
    · exact absurd hx (htold _ _)
  | refused k e' hc =>
    have hfault : e' = e := by
      rcases List.mem_cons.1 hx with rfl | hx
      · exact Option.some.inj he
      · exact absurd hx (htold _ _)
    subst hfault
    exact ⟨rfl, Fails.of_told (List.forall_mem_nil _) rfl rfl rfl w _ _, w.noticesOf_telling _ _⟩

/-- To leave is rejected: the leg stays, and the owning call hears of it. -/
theorem Left.rejected (h : Left w l l' es) (hx : x ∈ es) (he : x.rejection? = some e)
    {call : Recipient} (hcall : l.call = some call) :
    l' = l ∧ Fails e (es.filter Effect.asks) ∧ noticesOf es = [(call, .failure e)] := by
  cases h with
  | left k mixer hc hm =>
    rw [List.mem_singleton.1 hx] at he
    cases he
  | refused k mixer e' hc hm =>
    have hfault : e' = e := by
      rcases List.mem_cons.1 hx with rfl | hx
      · exact Option.some.inj he
      · exact absurd hx (w.not_rejection he _ _)
    subst hfault
    exact ⟨rfl, Fails.of_told (List.forall_mem_nil _) rfl rfl rfl w _ _,
      w.noticesOf_tellingCall hcall _⟩

end

section

variable {σ : Type} {site : Site σ} {w : Surroundings} {p p' : Phase} {l l' : Leg}
  {sender : Recipient} {m : Message} {es : List Effect} {x : Effect} {e : Fault}

/-- What can be rejected is asked for once there is a session. -/
theorem Turned.rejected_late (h : Turned site w p l (.message sender m) p' l' es) (hm : m.Asking)
    (hs : Sound p l) (hx : x ∈ es) (he : x.rejection? = some e) : p ≠ .uninitialized := by
  rintro rfl
  obtain ⟨hsession, -, -⟩ := hs.bare (.inl rfl)
  cases h with
  | ignored item hout => cases hx
  | groupCreated sender l' es hg hc =>
    cases hc with
    | noSession hnone =>
      rw [List.mem_singleton.1 hx] at he
      cases he
    | noConnection s hsome hk => rw [hsession] at hsome; cases hsome
    | refused s k e' hsome hk => rw [hsession] at hsome; cases hsome
    | unjoined s k name e' answer hsome hk => rw [hsession] at hsome; cases hsome
    | joined s k name hsome hk => rw [hsession] at hsome; cases hsome
  | attempted sender m k r l' es hp hask ht => cases hp
  | joined sender m mixer l' es hp hm hj => cases hp
  | left sender l' es hp hc hl => cases hp
  | rejoined sender m direction k mixer answer hp hd hk hm => cases hp
  | _ => exact hm.elim

/-- What a rejection leaves as it was, when the message is one of the ten.  An activity that is rejected
    has used up a generation, and has named its account, its store and its end key. -/
theorem Turned.rejected (h : Turned site w p l (.message sender m) p' l' es) (hm : m.Asking)
    (hx : x ∈ es) (he : x.rejection? = some e) {call : Recipient} (hcall : l.call = some call) :
    p' = p ∧
    l' = { l with
      endKey := l'.endKey, accountId := l'.accountId, store := l'.store, slots := l'.slots } ∧
    Fails e (es.filter Effect.asks) ∧ noticesOf es = m.complaints call sender l.observers e ∧
    ∀ op sink answer, .started op sink answer ∈ es →
      ∃ a, sink.category = .group a ∧ answer.result = .error e := by
  -- a turn that starts nothing
  have hnothing : sinksOf es = [] → ∀ op sink answer, .started op sink answer ∈ es →
      ∃ a, sink.category = .group a ∧ answer.result = .error e :=
    fun hnone op sink answer hs => absurd hs (not_started hnone op sink answer)
  -- one case for each of the four relations that the ten messages come to
  cases h with
  | ignored item hout => cases hx
  | groupCreated sender l' es hg hc =>
    have hnone : sinksOf es = [] := by cases hc <;> rfl
    obtain ⟨rfl, hfails, htold⟩ := hc.rejected hx he
    exact ⟨rfl, rfl, hfails, htold, hnothing hnone⟩
  | attempted sender m k r l' es hp hask ht =>
    obtain ⟨rfl, ⟨g, rfl⟩, hfails, htold, hstarted⟩ := ht.rejected hx he
    rw [Ask.kept_none]
    refine ⟨rfl, rfl, hfails, htold.trans (Message.complaints_of_ask? hask _ _ _ _).symm, ?_⟩
    intro op sink answer hs
    exact ⟨k.activity, hstarted op sink answer hs⟩
  | joined sender m mixer l' es hp hm hj =>
    have hnone : sinksOf es = [] := by cases hj <;> exact sinksOf_telling w _ _
    have hcomplaints : m.complaints call sender l.observers e =
        l.observers.toList.map (fun r => (r, .failure e)) := by
      rcases hm with rfl | rfl <;> rfl
    obtain ⟨rfl, hfails, htold⟩ := hj.rejected hx he
    exact ⟨rfl, rfl, hfails, htold.trans hcomplaints.symm, hnothing hnone⟩
  | left sender l' es hp hc hl =>
    have hnone : sinksOf es = [] := by
      cases hl with
      | left k mixer hk hm => rfl
      | refused k mixer e hk hm => exact sinksOf_telling w _ _
    obtain ⟨rfl, hfails, htold⟩ := hl.rejected hx he hcall
    exact ⟨rfl, rfl, hfails, htold, hnothing hnone⟩
  | rejoined sender m direction k mixer answer hp hd hk hm =>
    rw [List.mem_singleton.1 hx] at he
    have hcomplaints : m.complaints call sender l.observers e = [] := by
      rcases hd with ⟨rfl, -⟩ | ⟨rfl, -⟩ <;> rfl
    rw [hcomplaints]
    exact ⟨rfl, rfl, .last [] _ (List.forall_mem_nil _) he, rfl, hnothing rfl⟩
  | _ => exact hm.elim

end

/-! ## The register of observers

Notices are counted by recipient, so that each observer is told once takes a register without
doubles. -/

namespace Observers

/-- An id that is known keeps its place; one that is new is added. -/
theorem nodup_insert {os : Observers} (h : os.ids.Nodup) (r : Recipient) :
    (os.insert r).ids.Nodup := by
  have hids : (os.insert r).ids = if r.id ∈ os.ids then os.ids else os.ids ++ [r.id] :=
    ids_place r os.toList
  rw [hids]
  split
  · exact h
  · next hnew =>
    refine List.nodup_append.2 ⟨h, List.pairwise_singleton _ _, fun id hid id' hid' heq => ?_⟩
    rw [List.mem_singleton.1 hid'] at heq
    exact hnew (heq ▸ hid)

/-- Removing somebody makes no doubles. -/
theorem nodup_without {os : Observers} (h : os.ids.Nodup) (observer : Option Recipient) :
    (os.without observer).ids.Nodup := by
  cases observer with
  | none => exact List.nodup_nil
  | some r => exact h.sublist (List.filter_sublist.map _)

end Observers

/-- The register of observers once an item is handled. -/
def Item.register (os : Observers) : Item → Observers
  | .message _ (.observe observer) => os.insert observer
  | .message _ (.stopObserving observer) => os.without observer
  | _ => os

section

variable {σ : Type} {site : Site σ} {w : Surroundings} {p p' : Phase} {l l' : Leg} {item : Item}
  {es : List Effect}

/-- Nothing but observing and its end has to do with the register. -/
theorem Turned.registers (h : Turned site w p l item p' l' es) :
    l'.observers = item.register l.observers := by
  cases h with
  | ignored item hout =>
    cases item with
    | message sender m =>
      cases m with
      | observe observer => exact hout.elim
      | stopObserving observer => exact hout.elim
      | _ => rfl
    | completion e => rfl
    | query caller => rfl
  | opened sender outbound mode sdp l' es hp ho =>
    cases ho with
    | noSession e => rfl
    | noConnection name e => rfl
    | negotiates name name' l' es hn => rcases hn.leg with rfl | ⟨b, rfl⟩ <;> rfl
  | updated sender sdp k l' es hp hk hn => rcases hn.leg with rfl | ⟨b, rfl⟩ <;> rfl
  | groupCreated sender l' es hg hc => cases hc <;> rfl
  | groupDestroyed sender l' es hd => cases hd <;> rfl
  | attempted sender m k r l' es hp hm ht =>
    obtain ⟨recording, hkept⟩ := k.kept_cases w.clock l' r
    rw [hkept]
    have hsame : l'.observers = l.observers := by cases ht <;> rfl
    cases m with
    | observe observer => cases hm
    | stopObserving observer => cases hm
    | _ => exact hsame
  | stopped sender artifact l' es ha hs => rcases hs.leg with rfl | rfl <;> rfl
  | stoppedRecording sender accountId store g l' es hp ha hs =>
    rcases hs.leg with rfl | rfl <;> rfl
  | joined sender m mixer l' es hp hm hj => rcases hm with rfl | rfl <;> cases hj <;> rfl
  | left sender l' es hp hc hl => cases hl <;> rfl
  | rejoined sender m direction k mixer answer hp hd hk hm =>
    rcases hd with ⟨rfl, -⟩ | ⟨rfl, -⟩ <;> rfl
  | _ => rfl

end

/-! ## Runs

What a single turn cannot say: that the register has no doubles, and that a sink handed over with a
rejected operation is never accepted. -/

namespace Run

variable {σ : Type} {site : Site σ} {ts pre post : List (Turn σ)} {t : Turn σ} {c : Controller σ}
  {queued : List Completion}

/-- Nobody is registered twice. -/
theorem registered (h : Run site ts c queued) : c.desk.leg.observers.ids.Nodup := by
  -- by induction on the run
  refine h.invariant (P := fun _ _ l => l.observers.ids.Nodup) List.nodup_nil ?_
  intro ts t queued hbefore ih
  obtain ⟨hturned, -, -⟩ := t.turned site hbefore.sound
  rw [hturned.registers]
  unfold Item.register
  split
  · exact Observers.nodup_insert ih _
  · exact Observers.nodup_without ih _
  · exact ih

/-- The sink of an activity that the media server rejected is never accepted, however the run goes on. -/
theorem never_accepted (h : Run site (pre ++ t :: post) c queued) {what : Operation} {a : Activity}
    {g : Nat} {answer : Answer} (hstart : .started what ⟨.group a, g⟩ answer ∈ t.effects site)
    {e : Fault} (hrejected : answer.result = .error e) :
    ((c.desk.leg.slot (.group a)).accept g).1 = false := by
  refine Bool.eq_false_iff.2 fun haccepted => ?_
  obtain ⟨hpending, hgen⟩ := (Slot.accept_iff _ g).1 haccepted
  -- an outcome that is awaited belongs to a turn whose operation was accepted
  obtain ⟨r, hslot⟩ := h.bound a hpending
  rw [← hgen] at hslot
  obtain ⟨⟨earlier, i, between, hts, ⟨-, what', answer', hstart', hok⟩, -⟩, -⟩ :=
    (h.slot_iff a g r).1 hslot
  -- and that can only be the same turn, of which the slot afterwards tells how it went
  obtain ⟨-, rfl, -⟩ := h.begun_once rfl hts hstart hstart'
  obtain ⟨queued', hbefore, -⟩ := h.before
  obtain ⟨hturned, -, -⟩ := t.turned site hbefore.sound
  obtain ⟨_, _, -, -, -, -, -, hslot₁, -⟩ :=
    (hturned.touched a).of_started ((t.mem_shown site).2 ⟨hstart, rfl⟩)
  obtain ⟨_, _, -, -, -, -, -, hslot₂, -⟩ :=
    (hturned.touched a).of_started ((t.mem_shown site).2 ⟨hstart', rfl⟩)
  rw [hslot₁, hrejected, hok] at hslot₂
  cases hslot₂

end Run

/-- A rejection is atomic.  Take any run and a message handled in it that plays, collects, records, asks
    for a group, joins, leaves, mutes or unmutes, and a request of it that the media server rejects, other
    than to take back a group.

    A query sees the same before and after, and nothing but the end key, the account and the store that
    the message named, and the slot that it used, has changed at all.  The rejected request was the last
    one, but for a group that could not be joined, which is taken back.  The fault goes to those whom it
    concerns, as `Message.complaints` has them, and to nobody else; the observers are told once each.
    And the sink that was handed over with a rejected operation is never accepted afterwards, no matter
    when the media server completes it. -/
theorem rejection_atomic {σ : Type} {site : Site σ} {pre post : List (Turn σ)} {t : Turn σ}
    {c : Controller σ} {queued : List Completion} (h : Run site (pre ++ t :: post) c queued)
    {sender : Recipient} {m : Message} (hitem : t.item = .message sender m) (hm : m.Asking)
    {x : Effect} (hx : x ∈ t.effects site) {e : Fault} (he : x.rejection? = some e) :
    (t.after site).snapshot = t.before.snapshot ∧
    (∃ endKey accountId store slots, (t.after site).desk.leg =
      { t.before.desk.leg with endKey, accountId, store, slots }) ∧
    Fails e ((t.effects site).filter Effect.asks) ∧
    (∃ call, t.before.desk.leg.call = some call ∧
      noticesOf (t.effects site) = m.complaints call sender t.before.desk.leg.observers e) ∧
    t.before.desk.leg.observers.ids.Nodup ∧
    ∀ what sink answer, .started what sink answer ∈ t.effects site →
      ((c.desk.leg.slot sink.category).accept sink.generation).1 = false := by
  obtain ⟨queued', hbefore, -⟩ := h.before
  have hsound := hbefore.sound
  obtain ⟨hturned, -, -⟩ := t.turned site hsound
  -- a rejection is no line of the journal, so it is among what the turn shows
  have hvisible : x.visible = true := by
    cases x with
    | logged line => cases he
    | _ => rfl
  have hshown : x ∈ t.shown site := (t.mem_shown site).2 ⟨hx, hvisible⟩
  rw [hitem] at hturned
  obtain ⟨call, hcall⟩ := hsound.call_of_ne (hturned.rejected_late hm hsound hshown he)
  obtain ⟨hphase, hleg, hfails, htold, hstarted⟩ := hturned.rejected hm hshown he hcall
  refine ⟨?_, ⟨_, _, _, _, hleg⟩, ?_, ⟨call, hcall, ?_⟩, hbefore.registered, ?_⟩
  · unfold Controller.snapshot
    rw [hphase, hleg]
  · rw [t.filter_effects site fun _ => rfl]
    exact hfails
  · rw [t.noticesOf_effects]
    exact htold
  · rintro what ⟨category, g⟩ answer hstart
    obtain ⟨a, rfl, hrejected⟩ := hstarted what _ answer ((t.mem_shown site).2 ⟨hstart, rfl⟩)
    exact h.never_accepted hstart hrejected

namespace Sample

def watched : Controller Unit := faced ready watch

def collect : Item := .message call (.collect {})

/-- What is completed while an item is handled shows in no answer to a query. -/
theorem snapshot_faced (c : Controller Unit) (item : Item) :
    (faced c item).snapshot = (Turn.after unruly ⟨c, item⟩).snapshot := rfl

end Sample

/-- A collection is rejected although the media server has reported its end already: the observer hears
    that it failed, and the end that waits will not be accepted. -/
theorem rejection_atomic_unruly :
    (.started (.collect ⟨"1"⟩ (CollectOrder.request {})) ⟨.group .digitCollection, 1⟩
        ⟨.error (.provider "busy"), .completed (.digitCollection (.completed "1"))⟩ ∈
      Turn.effects Sample.unruly ⟨Sample.watched, Sample.collect⟩) ∧
    (Sample.faced Sample.watched Sample.collect).snapshot = Sample.watched.snapshot ∧
    noticesOf (Turn.effects Sample.unruly ⟨Sample.watched, Sample.collect⟩) =
      [(Sample.player, .operationResult .digitCollection (.error (.provider "busy")))] ∧
    (((Sample.faced Sample.watched Sample.collect).desk.leg.slot
      (.group .digitCollection)).accept 1).1 = false := by
  have hstart : .started (.collect ⟨"1"⟩ (CollectOrder.request {})) ⟨.group .digitCollection, 1⟩
        ⟨.error (.provider "busy"), .completed (.digitCollection (.completed "1"))⟩ ∈
      Turn.effects Sample.unruly ⟨Sample.watched, Sample.collect⟩ :=
    List.mem_of_getElem? (i := 2) rfl
  have hrun : Run Sample.unruly
      ([⟨Sample.fresh, Sample.create⟩,
        ⟨Sample.used (Sample.faced Sample.fresh Sample.create) ⟨.negotiation, 1⟩,
          .completion Sample.offer⟩,
        ⟨Sample.seated, Sample.group⟩, ⟨Sample.ready, Sample.watch⟩] ++
        ⟨Sample.watched, Sample.collect⟩ :: [])
      (Sample.faced Sample.watched Sample.collect) [⟨1, .digitCollection (.completed "1")⟩] :=
    .turn _ Sample.watched [] Sample.collect
      (.turn _ Sample.ready [] Sample.watch Sample.run_ready nofun) nofun
  obtain ⟨hsnapshot, -, -, ⟨call, -, htold⟩, -, hsink⟩ :=
    rejection_atomic hrun rfl trivial hstart rfl
  exact ⟨hstart, (Sample.snapshot_faced _ _).trans hsnapshot, htold, hsink _ _ _ hstart⟩

end CallMedia
