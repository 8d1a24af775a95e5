/-
  What holds between turns.

  `Sound` says which of the things that a leg holds depend on which others, and what may be awaited in
  which phase.  Two of its clauses carry the rest:

    * a negotiation is awaited only while a session is opened or renegotiated, and then there is a
      connection to negotiate (`negotiating`);
    * an activity in flight is awaited by the slot of its kind, with its very generation (`busy`).

  Every turn keeps it (`Turned.sound`).  A turn that changes few fields keeps most clauses as they are,
  so each case names only those that it touches.
-/
import CallMedia.Proofs.Turn

namespace CallMedia

/-- What holds of phase and leg between turns. -/
structure Sound (p : Phase) (l : Leg) : Prop where
  /-- A session belongs to a call from the first message on. -/
  owned : l.call = none ↔ p = .uninitialized
  /-- A connection is held within a session. -/
  connected : l.connection ≠ none → l.session ≠ none
  /-- A group is held on a connection. -/
  grouped : l.group ≠ none → l.connection ≠ none
  /-- The conferencing mark says whether a mixer is held. -/
  mixed : l.mixer.isSome = l.conferencing
  /-- Somebody is remembered for having joined it while the mark is set, and only then. -/
  joined : l.owner.isSome = l.conferencing
  /-- Only a connection is joined to a mixer. -/
  conferring : l.conferencing = true → l.connection ≠ none
  /-- Once a session has been negotiated there is a connection. -/
  established : p = .active ∨ p = .updating → l.connection ≠ none
  /-- Before a session and after it nothing is held, recorded or awaited. -/
  bare : p = .uninitialized ∨ p = .inactive →
    l.session = none ∧ l.recording = none ∧ ∀ c, (l.slot c).pending = false
  /-- A negotiation is awaited only while a session is opened or renegotiated. -/
  negotiating : (l.slot .negotiation).pending = true →
    (p = .opening ∨ p = .updating) ∧ l.connection ≠ none
  /-- The activity in flight is the one that the group's slot awaits. -/
  busy : ∀ a, l.active = some a →
    l.group ≠ none ∧ l.Awaits (.group a.activity) a.generation

namespace Sound

variable {p : Phase} {l : Leg} (h : Sound p l)
include h

/-- Once a session has been created there is an owning call. -/
theorem call_of_ne (hp : p ≠ .uninitialized) : ∃ call, l.call = some call :=
  Option.ne_none_iff_exists'.1 (fun hn => hp (h.owned.1 hn))

/-- Where something is held, a session has been created. -/
theorem ne_of_session (hs : l.session ≠ none) : p ≠ .uninitialized ∧ p ≠ .inactive :=
  ⟨fun hp => hs (h.bare (.inl hp)).1, fun hp => hs (h.bare (.inr hp)).1⟩

/-- An activity in flight has a connection, and through it a session and an owning call. -/
theorem connection_of_active (ha : l.active ≠ none) : l.connection ≠ none := by
  obtain ⟨a, ha⟩ := Option.ne_none_iff_exists'.1 ha
  exact h.grouped (h.busy a ha).1

/-- Something is in flight only while there is an owning call. -/
theorem call_of_active (ha : l.active ≠ none) : ∃ call, l.call = some call :=
  h.call_of_ne (h.ne_of_session (h.connected (h.connection_of_active ha))).1

/-- Without a session nothing else is held. -/
theorem nothing_held (hs : l.session = none) :
    l.connection = none ∧ l.group = none ∧ l.conferencing = false ∧ l.mixer = none ∧
      l.active = none := by
  -- from the session downwards, each thing needs the one before it
  have hk : l.connection = none := Decidable.of_not_not fun hk => h.connected hk hs
  have hc : l.conferencing = false := Bool.eq_false_iff.2 fun hc => h.conferring hc hk
  refine ⟨hk, Decidable.of_not_not fun hg => h.grouped hg hk, hc, ?_,
    Decidable.of_not_not fun ha => h.connection_of_active ha hk⟩
  refine Option.not_isSome_iff_eq_none.1 ?_
  rw [h.mixed, hc]
  exact Bool.false_ne_true

end Sound

/-! ## What becomes of a leg -/

@[simp] theorem Leg.slot_begun (l : Leg) (c c' : Category) (b : Bool) :
    (l.begun c b).slot c' =
      if c' = c then ⟨(l.slot c).generation + 1, b, (l.slot c).replyTo⟩ else l.slot c' :=
  Leg.slot_setSlot l c c' _

/-- Starting a step of the negotiation changes the slot of the negotiation at most. -/
theorem Negotiates.leg {w : Surroundings} {l l' : Leg} {what : Operation} {es : List Effect}
    (h : Negotiates w l what l' es) : l' = l ∨ ∃ b, l' = l.begun .negotiation b := by
  cases h with
  | begun g l' es hl =>
    cases hl with
    | accepted fate hopen => exact .inr ⟨true, rfl⟩
  | failed e l' es hl =>
    cases hl with
    | closed hopen => exact .inl rfl
    | refused e fate hopen => exact .inr ⟨false, rfl⟩

/-- Stopping clears the activity in flight, and at most the call recording with it. -/
theorem Stopped.leg {reader : Recording.Reader} {apiVersion : String} {w : Surroundings}
    {artifact : Bool} {l l' : Leg} {es : List Effect}
    (h : Stopped reader apiVersion w artifact l l' es) :
    l' = { l with active := none } ∨ l' = { l with active := none, recording := none } := by
  cases h with
  | other was es hs hw => exact .inl rfl
  | failed e es hs => exact .inl rfl
  | plain g es hs hr => exact .inl rfl
  | dropped g r es hs hr hg hd => exact .inr rfl
  | filed g r accountId store m es hs hr hg ha haccount hstore hm => exact .inr rfl
  | unfiled g r accountId store m e es hs hr hg ha haccount hstore hm => exact .inr rfl

/-- Nothing comes of stopping where nothing is in flight. -/
theorem Stopped.idle {reader : Recording.Reader} {apiVersion : String} {w : Surroundings}
    {artifact : Bool} {l l' : Leg} {es : List Effect}
    (h : Stopped reader apiVersion w artifact l l' es) (ha : l.active = none) :
    l' = l ∧ es = [] := by
  have hsame : ({ l with active := none } : Leg) = l := by rw [← ha]
  -- where nothing is in flight there is nothing to stop, and nothing to settle
  have hidle : ∀ {result es}, ActiveStopped l result es → result = .ok none ∧ es = [] := by
    intro result es hs
    cases hs with
    | idle _ => exact ⟨rfl, rfl⟩
    | groupless a ha' hg => rw [ha] at ha'; cases ha'
    | stopped a group ha' hg => rw [ha] at ha'; cases ha'
    | refused a group e ha' hg => rw [ha] at ha'; cases ha'
  cases h with
  | other was es hs hw => exact ⟨hsame, (hidle hs).2⟩
  | failed e es hs => exact nomatch (hidle hs).1
  | plain g es hs hr => exact nomatch (hidle hs).1
  | dropped g r es hs hr hg hd => exact nomatch (hidle hs).1
  | filed g r accountId store m es hs hr hg ha haccount hstore hm => exact nomatch (hidle hs).1
  | unfiled g r accountId store m e es hs hr hg ha haccount hstore hm => exact nomatch (hidle hs).1

/-- A group that may start an activity is held, and nothing is in flight. -/
theorem Leg.idleGroup_eq_ok {l : Leg} {a : Activity} {group : GroupHandle}
    (h : l.idleGroup a = .ok group) : l.group = some group ∧ l.active = none := by
  unfold idleGroup at h
  split at h
  · cases h
  · next hg ha =>
    cases h
    exact ⟨hg, ha⟩
  · cases h

namespace Sound

variable {p : Phase} {l l' : Leg}

/-- A leg whose session is being opened. -/
theorem opening (h : Sound .uninitialized l) (hcall : l'.call ≠ none) (hgroup : l'.group = l.group)
    (hmixer : l'.mixer = l.mixer) (howner : l'.owner = l.owner)
    (hcon : l'.conferencing = l.conferencing) (hactive : l'.active = l.active)
    (hsession : l'.connection ≠ none → l'.session ≠ none)
    (hneg : (l'.slot .negotiation).pending = true → l'.connection ≠ none) : Sound .opening l' := by
  -- before the first session nothing is held, so that the group's clauses say nothing
  obtain ⟨-, hnogroup, hnocon, -, -⟩ := h.nothing_held (h.bare (.inl rfl)).1
  refine
    { owned := ⟨fun hn => absurd hn hcall, nofun⟩
      connected := hsession
      grouped := fun hg => absurd (hgroup.trans hnogroup) hg
      mixed := by rw [hmixer, hcon, h.mixed]
      joined := by rw [howner, hcon, h.joined]
      conferring := fun hc => ?_
      established := fun hp => ?_
      bare := fun hp => ?_
      negotiating := fun hn => ⟨.inl rfl, hneg hn⟩
      busy := fun a ha => ?_ }
  · rw [hcon, hnocon] at hc
    cases hc
  · rcases hp with hp | hp <;> cases hp
  · rcases hp with hp | hp <;> cases hp
  · rw [hactive] at ha
    exact absurd hnogroup (h.busy a ha).1

/-- A leg whose session has been released. -/
theorem released (h : Sound p l) (hp : p ≠ .uninitialized) : Sound .inactive l.released where
  owned := ⟨fun hn => absurd (h.owned.1 hn) hp, nofun⟩
  connected hk := absurd rfl hk
  grouped hg := absurd rfl hg
  mixed := rfl
  joined := rfl
  conferring := nofun
  established hp := by rcases hp with hp | hp <;> cases hp
  bare _ := ⟨rfl, rfl, fun c => by
    show (l.slots.disarmAll.get c).pending = false
    rw [Slots.get_disarmAll]
    rfl⟩
  negotiating hn := by
    have hslot : (l.released.slot .negotiation).pending = false := rfl
    rw [hslot] at hn
    cases hn
  busy := nofun

/-- Stopping what the group does, with or without the call recording. -/
theorem stopped (h : Sound p l) : Sound p { l with active := none } := { h with busy := nofun }

/-- Forgetting a call recording harms nothing. -/
theorem unrecorded (h : Sound p l) : Sound p { l with recording := none } :=
  { h with bare := fun hp => ⟨(h.bare hp).1, rfl, (h.bare hp).2.2⟩ }

/-- The account and the store that are remembered have no part in it. -/
theorem remember (h : Sound p l) (accountId store : Option String) :
    Sound p (l.remember accountId store) := { h with }

/-- A session that is renegotiated. -/
theorem updated (h : Sound .active l) {w : Surroundings} {sdp : String} {what : Operation}
    {es : List Effect} (hn : Negotiates w { l with remoteSdp := some sdp } what l' es) :
    Sound .updating l' := by
  have hcall : l.call ≠ none := fun hc => nomatch h.owned.1 hc
  have hk : l.connection ≠ none := h.established (.inl rfl)
  have hl : Sound .updating { l with remoteSdp := some sdp } :=
    { h with
      owned := ⟨fun hc => absurd hc hcall, nofun⟩
      established := fun _ => hk
      bare := fun hp => by rcases hp with hp | hp <;> cases hp
      negotiating := fun _ => ⟨.inr rfl, hk⟩ }
  -- the step changes the slot of the negotiation at most, which is no activity's
  rcases hn.leg with rfl | ⟨b, rfl⟩
  · exact hl
  · refine { hl with bare := ?_, negotiating := fun _ => ⟨.inr rfl, hk⟩, busy := ?_ }
    · intro hp
      rcases hp with hp | hp <;> cases hp
    · intro a ha
      obtain ⟨hg, hw⟩ := h.busy a ha
      refine ⟨hg, ?_⟩
      unfold Leg.Awaits
      rw [Leg.slot_begun]
      exact hw

/-- A negotiation that has ended is awaited no more. -/
theorem negotiated (h : Sound p l) {p' : Phase} (hp : p ≠ .uninitialized)
    (hw : (l.slot .negotiation).pending = true) (hp' : p' = .active ∨ p' = .failed) :
    Sound p' (l.disarmed .negotiation) := by
  have hcall : l.call ≠ none := fun hc => hp (h.owned.1 hc)
  have hk : l.connection ≠ none := (h.negotiating hw).2
  refine
    { h with
      owned := ⟨fun hc => absurd hc hcall, fun hu => ?_⟩
      established := fun _ => hk
      bare := fun hb => ?_
      negotiating := fun hn => ?_
      busy := fun a ha => ?_ }
  · rcases hp' with rfl | rfl <;> cases hu
  · rcases hp' with rfl | rfl <;> rcases hb with hb | hb <;> cases hb
  · rw [Leg.slot_disarmed, if_pos rfl] at hn
    cases hn
  · obtain ⟨hg, hw⟩ := h.busy a ha
    refine ⟨hg, ?_⟩
    unfold Leg.Awaits
    rw [Leg.slot_disarmed, if_neg (Category.group_ne_negotiation a.activity)]
    exact hw

/-- The outcome of an activity takes the activity in flight with it, if it is of that one. -/
theorem finished (h : Sound p l) {a : Activity} {g : Nat} (hw : l.Awaits (.group a) g) :
    Sound p (l.finished a g) := by
  refine { h with bare := fun hb => ?_, negotiating := fun hn => ?_, busy := fun b hb => ?_ }
  · have hp := (h.bare hb).2.2 (.group a)
    rw [hw.1] at hp
    cases hp
  · rw [Leg.slot_finished, if_neg (Category.group_ne_negotiation a).symm] at hn
    exact h.negotiating hn
  · -- what is still in flight is of another generation, hence of another kind
    have hb' : l.active = some b ∧ b ≠ ⟨a, g⟩ := by
      change (if l.active = some ⟨a, g⟩ then none else l.active) = some b at hb
      split at hb
      · cases hb
      · next hne =>
        refine ⟨hb, fun hba => hne ?_⟩
        rw [hb, hba]
    obtain ⟨hg, hbw⟩ := h.busy b hb'.1
    have hkind : b.activity ≠ a := by
      intro hba
      subst hba
      refine hb'.2 ?_
      rw [hw.2, ← hbw.2]
    have hother : ¬ Category.group b.activity = .group a := fun hc => hkind (Category.group.inj hc)
    refine ⟨hg, ?_⟩
    unfold Leg.Awaits
    rw [Leg.slot_finished, if_neg hother]
    exact hbw

/-- An activity that was asked for and is not in flight. -/
theorem askedBy (h : Sound .active l) (ha : l.active = none) (a : Activity) (sender : Recipient)
    (g : Nat) (b : Bool) : Sound .active (l.askedBy a sender g b) := by
  refine { h with bare := fun hb => ?_, negotiating := fun hn => ?_, busy := fun c hc => ?_ }
  · rcases hb with hb | hb <;> cases hb
  · rw [Leg.askedBy, Leg.slot_setSlot, if_neg (Category.group_ne_negotiation a).symm] at hn
    exact h.negotiating hn
  · have hc' : l.active = some c := hc
    rw [ha] at hc'
    cases hc'

/-- An activity that was asked for in an active session. -/
theorem attempted (h : Sound .active l) {w : Surroundings} {k : Ask} {sender : Recipient}
    {r : Option Nat} {es : List Effect}
    (ht : Attempted w k.activity k.operation sender (k.noted l) (k.begun l) r l' es) :
    Sound .active (k.kept w.clock l' r) := by
  have hnoted : Sound .active (k.noted l) := h.remember _ _
  have hbegun : Sound .active (k.begun l) := { hnoted with }
  have hkept : Sound .active l' → Sound .active (k.kept w.clock l' r) := by
    intro hl'
    unfold Ask.kept
    split
    · exact hl'
    · unfold Desk.recordingSince
      split
      · exact hl'
      · refine { hl' with bare := fun hb => ?_ }
        rcases hb with hb | hb <;> cases hb
  -- a call recording that is remembered is allowed in an active session
  refine hkept ?_
  -- only an activity that was accepted is in flight, and then its slot awaits it
  cases ht with
  | unfit e idle => exact hnoted
  | unprepared group e idle digits => exact hbegun.askedBy (Leg.idleGroup_eq_ok idle).2 _ _ _ _
  | closed group idle hopen => exact hbegun.askedBy (Leg.idleGroup_eq_ok idle).2 _ _ _ _
  | refused group e fate idle hopen => exact hbegun.askedBy (Leg.idleGroup_eq_ok idle).2 _ _ _ _
  | accepted group fate idle hopen =>
    obtain ⟨hg, ha⟩ := Leg.idleGroup_eq_ok idle
    refine { hbegun.askedBy ha k.activity sender _ true with busy := fun c hc => ?_ }
    cases hc
    refine ⟨?_, ?_⟩
    · show (k.begun l).group ≠ none
      rw [show (k.begun l).group = some group from hg]
      exact Option.some_ne_none group
    · unfold Leg.Awaits
      show ((k.begun l).askedBy _ _ _ _ |>.slot _).pending = true ∧ _ = Slot.generation
        ((k.begun l).askedBy _ _ _ _ |>.slot _)
      rw [Leg.slot_askedBy]
      exact ⟨rfl, rfl⟩

end Sound

/-- Every turn keeps what holds between turns. -/
theorem Turned.sound {σ : Type} {site : Site σ} {w : Surroundings} {p p' : Phase} {l l' : Leg}
    {item : Item} {es : List Effect} (ht : Turned site w p l item p' l' es) (h : Sound p l) :
    Sound p' l' := by
  -- every case keeps the clauses whose fields it leaves alone
  cases ht with
  | ignored item hout => exact h
  | opened sender outbound mode sdp l' es hp ho =>
    subst hp
    cases ho with
    | noSession e =>
      exact h.opening (Option.some_ne_none sender) rfl rfl rfl rfl rfl h.connected
        (fun hn => (h.negotiating hn).2)
    | noConnection name e =>
      exact h.opening (Option.some_ne_none sender) rfl rfl rfl rfl rfl
        (fun _ => Option.some_ne_none _) (fun hn => (h.negotiating hn).2)
    | negotiates name name' l' es hn =>
      rcases hn.leg with rfl | ⟨b, rfl⟩
      · exact h.opening (Option.some_ne_none sender) rfl rfl rfl rfl rfl
          (fun _ => Option.some_ne_none _) (fun _ => Option.some_ne_none _)
      · exact h.opening (Option.some_ne_none sender) rfl rfl rfl rfl rfl
          (fun _ => Option.some_ne_none _) (fun _ => Option.some_ne_none _)
  | closed sender es hp hr =>
    exact h.released (fun hu => by subst hu; rcases hp with hp | hp | hp <;> cases hp)
  | updated sender sdp k l' es hp hk hn =>
    subst hp
    exact h.updated hn
  | agreed g o localSdp hp awaited ho =>
    -- the description that comes with the agreement is in no clause
    have hactive : Sound .active (l.disarmed .negotiation) :=
      h.negotiated (by rcases hp with rfl | rfl <;> decide) awaited.1 (.inl rfl)
    exact { hactive with }
  | broke g o fault hp awaited ho =>
    exact h.negotiated (by rcases hp with rfl | rfl <;> decide) awaited.1 (.inr rfl)
  | groupCreated sender l' es hg hc =>
    -- of the five ways to answer, only a group that was joined is held afterwards
    cases hc with
    | noSession hs => exact h
    | noConnection s hs hc => exact h
    | refused s k e hs hc => exact h
    | unjoined s k name e answer hs hc => exact h
    | joined s k name hs hc =>
      refine { h with grouped := fun _ => ?_, busy := fun a ha => ?_ }
      · rw [hc]
        exact Option.some_ne_none k
      · exact ⟨Option.some_ne_none _, (h.busy a ha).2⟩
  | groupDestroyed sender l' es hd =>
    cases hd with
    | absent hg => exact h
    | released group answer hg =>
      exact { h with grouped := fun hn => absurd rfl hn, busy := nofun }
  | groupStopped sender es hs => exact h.stopped
  | attempted sender m k r l' es hp hm ht =>
    subst hp
    exact h.attempted ht
  | stopped sender artifact l' es ha hs =>
    -- whatever becomes of the call recording, nothing is in flight
    rcases hs.leg with rfl | rfl
    · exact h.stopped
    · exact h.stopped.unrecorded
  | stoppedRecording sender accountId store g l' es hp ha hs =>
    have hl := h.remember accountId store
    rcases hs.leg with rfl | rfl
    · exact hl.stopped
    · exact hl.stopped.unrecorded
  | joined sender m mixer l' es hp hm hj =>
    -- mixer, owner and mark are set together
    cases hj with
    | joined k hk =>
      refine { h with mixed := rfl, joined := rfl, conferring := fun _ => ?_ }
      rw [hk]
      exact Option.some_ne_none k
    | refused k e hk => exact h
  | left sender l' es hp hc hl =>
    -- and given up together
    cases hl with
    | left k mixer hk hm => exact { h with mixed := rfl, joined := rfl, conferring := nofun }
    | refused k mixer e hk hm => exact h
  | rejoined sender m direction k mixer answer hp hd hk hm => exact h
  | observed sender observer => exact { h with }
  | unobserved sender observer => exact { h with }
  | finished e a result hcat awaited hr => exact h.finished awaited

end CallMedia
