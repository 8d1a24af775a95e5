/-
  What a turn does to the activities of the group.

  Each activity has its slot, and a turn touches the slot of an activity in four ways only (`Touched`):

    * a request for the activity finds the group idle.  The slot is then bound to its sender, and either
      nothing is started, or one operation is, which the slot awaits exactly if it was accepted;
    * the session is closed, and the slot awaits nothing more;
    * the outcome that the slot awaits arrives, and the slot awaits nothing more;
    * else it is left alone, and nothing is started.

  Nothing but the third reports an outcome, and stopping is not among them: a stopped activity is still
  awaited.  What stopping does is told by `ActiveStopped`, and only a stop asks the media server to stop
  anything (`Turned.stops`).
-/
import CallMedia.Proofs.Commands
import CallMedia.Proofs.Run

namespace CallMedia

/-! ## What is started

The sink of an operation says which slot it belongs to.  So what a turn starts is sorted by the
category of the sinks, and what is started for one slot is read off the effects of the turn. -/

/-- The group that an operation is asked of. -/
def Operation.group? : Operation → Option GroupHandle
  | play group _ | collect group _ | record group _ => some group
  | _ => none

/-- The operation of a category that an effect starts, its generation, and the answer. -/
def Effect.start? (c : Category) : Effect → Option (Operation × Nat × Answer)
  | started what sink answer =>
    if sink.category = c then some (what, sink.generation, answer) else none
  | _ => none

/-- An operation with another slot's sink does not count. -/
theorem Effect.start?_of_ne {c : Category} {sink : Sink} (h : sink.category ≠ c) (what : Operation)
    (answer : Answer) : (Effect.started what sink answer).start? c = none := if_neg h

/-- The operations of a category that effects start, in order. -/
def startsOf (c : Category) (es : List Effect) : List (Operation × Nat × Answer) :=
  es.filterMap (Effect.start? c)

section

variable (c : Category) (es es' : List Effect)

theorem startsOf_append : startsOf c (es ++ es') = startsOf c es ++ startsOf c es' :=
  List.filterMap_append

/-- An operation is among them exactly if it is started with a sink of the category. -/
theorem mem_startsOf {c : Category} {es : List Effect} {what : Operation} {g : Nat}
    {answer : Answer} :
    (what, g, answer) ∈ startsOf c es ↔ .started what ⟨c, g⟩ answer ∈ es := by
  unfold startsOf
  rw [List.mem_filterMap]
  constructor
  · rintro ⟨e, he, hs⟩
    cases e with
    | started what' sink answer' =>
      change (if sink.category = c then some (what', sink.generation, answer') else none) = _ at hs
      by_cases hc : sink.category = c
      · rw [if_pos hc] at hs
        cases hs
        rw [← hc]
        exact he
      · rw [if_neg hc] at hs
        cases hs
    | _ => cases hs
  · intro he
    exact ⟨_, he, if_pos rfl⟩

/-- A start with a sink of the category counts. -/
theorem startsOf_started (what : Operation) (g : Nat) (answer : Answer) :
    startsOf c (.started what ⟨c, g⟩ answer :: es) = (what, g, answer) :: startsOf c es := by
  unfold startsOf
  exact List.filterMap_cons_some (if_pos rfl)

/-- A start with a sink of another category does not. -/
theorem startsOf_other {c' : Category} (h : c' ≠ c) (what : Operation) (g : Nat)
    (answer : Answer) : startsOf c (.started what ⟨c', g⟩ answer :: es) = startsOf c es := by
  unfold startsOf
  exact List.filterMap_cons_none (Effect.start?_of_ne h what answer)

theorem startsOf_telling (w : Surroundings) (rs : List Recipient) (n : Notice) :
    startsOf c (rs.map fun r => w.telling r n) = [] :=
  w.filterMap_telling (fun _ _ _ => rfl) rs n

end

/-! ## Stopping

A stop asks the media server to stop, and may hand a recording to a store afterwards.  It starts
nothing, and it touches no slot: what was stopped is awaited as before. -/

section

variable {l l' : Leg} {result : Except Fault (Option Active)} {es : List Effect}

/-- Stopping what is in flight gives the command. -/
theorem ActiveStopped.asks (h : ActiveStopped l result es) {a : Active} {group : GroupHandle}
    (ha : l.active = some a) (hg : l.group = some group) :
    ∃ answer, .performed (.stop a.activity group) answer ∈ es := by
  cases h with
  | idle ha' => rw [ha] at ha'; cases ha'
  | groupless a' ha' hg' => rw [hg] at hg'; cases hg'
  | stopped a' group' ha' hg' =>
    rw [ha] at ha'
    rw [hg] at hg'
    cases ha'
    cases hg'
    exact ⟨_, List.mem_cons_self⟩
  | refused a' group' e ha' hg' =>
    rw [ha] at ha'
    rw [hg] at hg'
    cases ha'
    cases hg'
    exact ⟨_, List.mem_cons_self⟩

theorem ActiveStopped.startsOf (h : ActiveStopped l result es) (c : Category) :
    startsOf c es = [] := by
  cases h <;> rfl

/-- What comes of a stop begins with what stopping asks for. -/
theorem Stopped.active {reader : Recording.Reader} {apiVersion : String} {w : Surroundings}
    {artifact : Bool}
    (h : Stopped reader apiVersion w artifact l l' es) :
    ∃ result es₁ es₂, es = es₁ ++ es₂ ∧ ActiveStopped l result es₁ := by
  cases h with
  | other was es hs hw => exact ⟨_, es, [], (List.append_nil es).symm, hs⟩
  | plain g es hs hr => exact ⟨_, es, [], (List.append_nil es).symm, hs⟩
  | dropped g r es hs hr hg hd => exact ⟨_, es, [], (List.append_nil es).symm, hs⟩
  | failed e es hs => exact ⟨_, es, _, rfl, hs⟩
  | filed g r accountId store m es hs hr hg ha haccount hstore hm => exact ⟨_, es, _, rfl, hs⟩
  | unfiled g r accountId store m e es hs hr hg ha haccount hstore hm => exact ⟨_, es, _, rfl, hs⟩

/-- Nothing that comes of a stop starts anything, whether an artifact is made or not. -/
theorem Stopped.startsOf {reader : Recording.Reader} {apiVersion : String} {w : Surroundings}
    {artifact : Bool} (h : Stopped reader apiVersion w artifact l l' es) (c : Category) :
    CallMedia.startsOf c es = [] := by
  have htold : ∀ n, CallMedia.startsOf c (w.tellingCall l n) = [] :=
    fun n => startsOf_telling c w _ n
  cases h with
  | other was es hs hw => exact hs.startsOf c
  | plain g es hs hr => exact hs.startsOf c
  | dropped g r es hs hr hg hd => exact hs.startsOf c
  | failed e es hs => rw [startsOf_append, hs.startsOf, htold, List.append_nil]
  | filed g r accountId store m es hs hr hg ha haccount hstore hm =>
    rw [startsOf_append, hs.startsOf]
    rfl
  | unfiled g r accountId store m e es hs hr hg ha haccount hstore hm =>
    rw [startsOf_append, hs.startsOf]
    exact htold _

end

/-! ## What a turn does to a slot

`Touched` is the inversion of a turn for one slot.  It says for each of the four ways what becomes of
the slot and what has been started, and with which item it happens; the last case also says that none
of the other items has come, so that the cases exclude each other. -/

/-- A request for an activity that finds the group idle. -/
def Passes (settings : Settings) (p : Phase) (l : Leg) (item : Item) (a : Activity)
    (sender : Recipient) : Prop :=
  p = .active ∧ (∃ group, l.idleGroup a = .ok group) ∧
    ∃ m k, item = .message sender m ∧ m.ask? settings = some k ∧ k.activity = a

/-- A request that closes the session. -/
def Closes (p : Phase) (item : Item) : Prop :=
  (p = .opening ∨ p = .active ∨ p = .updating) ∧ ∃ sender, item = .message sender .closeSession

/-- Whether a message is a request to close the session. -/
def Message.closes : Message → Bool
  | .closeSession => true
  | _ => false

/-- What a turn does to the slot of an activity. -/
inductive Touched (settings : Settings) (p : Phase) (l : Leg) (item : Item) (a : Activity)
    (l' : Leg) (es : List Effect) : Prop
  /-- The request passed, and was bound to its sender, but nothing could be started. -/
  | bound (sender : Recipient) (hp : Passes settings p l item a sender)
      (hslot : l'.slot (.group a) = ⟨(l.slot (.group a)).generation, false, some sender⟩)
      (hstarts : startsOf (.group a) es = []) (hactive : l'.active = none)
  /-- The media server was asked to start, and accepted or refused. -/
  | started (sender : Recipient) (what : Operation) (group : GroupHandle) (answer : Answer)
      (hp : Passes settings p l item a sender) (hgroup : l.group = some group)
      (hwhat : what.group? = some group)
      (hslot : l'.slot (.group a) =
        ⟨(l.slot (.group a)).generation + 1, answer.result.isOk, some sender⟩)
      (hstarts : startsOf (.group a) es = [(what, (l.slot (.group a)).generation + 1, answer)])
      (hactive : l'.active =
        if answer.result.isOk then some ⟨a, (l.slot (.group a)).generation + 1⟩ else none)
      (hsame : l'.group = l.group ∧ l'.session = l.session)
  /-- The session was closed. -/
  | closed (hc : Closes p item) (hslot : l'.slot (.group a) = (l.slot (.group a)).disarm)
      (hstarts : startsOf (.group a) es = [])
  /-- The outcome that the slot awaits arrived. -/
  | answered (e : Completion) (hitem : item = .completion e) (hcat : e.category = .group a)
      (hw : l.Awaits (.group a) e.generation)
      (hslot : l'.slot (.group a) = (l.slot (.group a)).disarm)
      (hstarts : startsOf (.group a) es = [])
  /-- None of these happened. -/
  | untouched (hp : ∀ sender, ¬ Passes settings p l item a sender) (hc : ¬ Closes p item)
      (ha : ∀ e, item = .completion e → e.category = .group a →
        ¬ l.Awaits (.group a) e.generation)
      (hslot : l'.slot (.group a) = l.slot (.group a)) (hstarts : startsOf (.group a) es = [])

/-- Only a request for an activity passes. -/
theorem Passes.ask {settings : Settings} {p : Phase} {l : Leg} {item : Item} {a : Activity}
    {sender sender' : Recipient} {m : Message} (h : Passes settings p l item a sender)
    (hitem : item = .message sender' m) :
    sender' = sender ∧ ∃ k, m.ask? settings = some k ∧ k.activity = a := by
  obtain ⟨-, -, m', k, hm', hk, hka⟩ := h
  rw [hitem] at hm'
  cases hm'
  exact ⟨rfl, k, hk, hka⟩

/-- What is out of place neither passes, nor closes anything, nor is it awaited. -/
theorem OutOfPlace.untouched {settings : Settings} {p : Phase} {l : Leg} {item : Item}
    (h : OutOfPlace p l item) (a : Activity) : Touched settings p l item a l [] := by
  refine .untouched (fun sender hp => ?_) (fun hc => ?_) (fun e he hcat hw => ?_) rfl rfl
  · obtain ⟨hactive, -, m, k, rfl, hk, -⟩ := hp
    cases m with
    | play order => exact h hactive
    | collect order => exact h hactive
    | record order => exact h hactive
    | startRecording order => exact h hactive
    | _ => cases hk
  · obtain ⟨hp, sender, rfl⟩ := hc
    exact h hp
  · subst he
    exact h (hcat ▸ hw)

section

variable {w : Surroundings} {p : Phase} {l l' : Leg} {settings : Settings} {es : List Effect}

/-- A message touches no slot unless it passes or closes the session. -/
theorem Touched.of_unpassed {sender : Recipient} {m : Message} {a : Activity}
    (hp : ∀ sender', ¬ Passes settings p l (.message sender m) a sender')
    (hc : ¬ Closes p (.message sender m))
    (hslot : l'.slot (.group a) = l.slot (.group a)) (hstarts : startsOf (.group a) es = []) :
    Touched settings p l (.message sender m) a l' es := by
  refine .untouched hp hc (fun e he => ?_) hslot hstarts
  cases he

/-- A message that asks for no activity and closes nothing touches no slot. -/
theorem Touched.of_message {sender : Recipient} {m : Message} {a : Activity}
    (hm : m.ask? settings = none) (hc : m.closes = false)
    (hslot : l'.slot (.group a) = l.slot (.group a)) (hstarts : startsOf (.group a) es = []) :
    Touched settings p l (.message sender m) a l' es := by
  refine .of_unpassed (fun sender' hp => ?_) (fun hclose => ?_) hslot hstarts
  · obtain ⟨-, k, hk, -⟩ := hp.ask rfl
    rw [hm] at hk
    cases hk
  · obtain ⟨-, sender', heq⟩ := hclose
    cases heq
    cases hc

/-- A completion touches at most the slot that awaits it. -/
theorem Touched.of_completion {e : Completion} {a : Activity}
    (hw : e.category = .group a → ¬ l.Awaits (.group a) e.generation)
    (hslot : l'.slot (.group a) = l.slot (.group a)) (hstarts : startsOf (.group a) es = []) :
    Touched settings p l (.completion e) a l' es := by
  refine .untouched (fun sender hp => ?_) (fun hc => ?_) (fun e' he' hcat => ?_) hslot hstarts
  · obtain ⟨-, -, m, k, heq, -⟩ := hp
    cases heq
  · obtain ⟨-, sender, heq⟩ := hc
    cases heq
  · cases he'
    exact hw hcat

/-- The negotiation has a slot of its own, so nothing is started for an activity. -/
theorem Negotiates.startsOf {what : Operation} {a : Activity} (h : Negotiates w l what l' es) :
    startsOf (.group a) es = [] := by
  cases h with
  | begun g l' es hl => cases hl with | accepted fate hopen => rfl
  | failed e l' es hl =>
    cases hl with
    | closed hopen => exact startsOf_telling _ w _ _
    | refused e fate hopen => exact startsOf_telling _ w _ _

/-- For the same reason the slots of the activities are as before. -/
theorem Negotiates.slot {what : Operation} {a : Activity} (h : Negotiates w l what l' es) :
    l'.slot (.group a) = l.slot (.group a) := by
  rcases h.leg with rfl | ⟨b, rfl⟩
  · rfl
  · rw [Leg.slot_begun, if_neg (Category.group_ne_negotiation a)]

/-- An activity is asked for of the group that was idle. -/
theorem Message.group_of_ask? {m : Message} {k : Ask} (h : m.ask? settings = some k)
    (group : GroupHandle) : (k.operation group).group? = some group := by
  cases m <;> cases h <;> rfl

/-- What is done before a start, forgetting old digits, is no start. -/
theorem startsOf_prepared (c : Category) (a : Activity) (group : GroupHandle) :
    startsOf c (prepared a group) = [] := by
  unfold prepared
  split <;> rfl

/-- An attempt touches the slot of its own activity only. -/
theorem Attempted.touched {sender : Recipient} {m : Message} {k : Ask} {r : Option Nat}
    (hp : p = .active) (hm : m.ask? settings = some k)
    (h : Attempted w k.activity k.operation sender (k.noted l) (k.begun l) r l' es) (a : Activity) :
    Touched settings p l (.message sender m) a (k.kept w.clock l' r) es := by
  obtain ⟨recording, hkept⟩ := k.kept_cases w.clock l' r
  rw [hkept]
  have hclose : ¬ Closes p (.message sender m) := by
    rintro ⟨-, sender', heq⟩
    cases heq
    cases hm
  -- the slot of the activity itself, and the slots of the two others, which nothing is done to
  by_cases ha : k.activity = a
  · subst ha
    -- past the first case the group was idle, so the request passes
    have hpass : ∀ group, l.idleGroup k.activity = .ok group →
        Passes settings p l (.message sender m) k.activity sender :=
      fun group hidle => ⟨hp, ⟨group, hidle⟩, m, k, rfl, hm, rfl⟩
    have htold : ∀ n c, startsOf c (w.tellingAll (k.begun l) n) = [] :=
      fun n c => startsOf_telling c w _ n
    have hslot : ∀ g b,
        ((k.begun l).askedBy k.activity sender g b).slot (.group k.activity) = ⟨g, b, some sender⟩ :=
      fun g b => Leg.slot_askedBy _ _ _ _ _
    cases h with
    | unfit e idle =>
      refine .of_unpassed (fun sender' hp' => ?_) hclose rfl rfl
      obtain ⟨-, ⟨group, hidle⟩, -⟩ := hp'
      have hidle' : l.idleGroup k.activity = .error e := idle
      rw [hidle] at hidle'
      cases hidle'
    | unprepared group e idle digits =>
      exact .bound sender (hpass group idle) (hslot _ _) (htold _ _) (Leg.idleGroup_eq_ok idle).2
    | closed group idle hopen =>
      refine .bound sender (hpass group idle) (hslot _ _) ?_ (Leg.idleGroup_eq_ok idle).2
      rw [startsOf_append, startsOf_prepared, htold]
      rfl
    | refused group e fate idle hopen =>
      -- started and refused: the slot has moved on by one and awaits nothing
      obtain ⟨hg, hactive⟩ := Leg.idleGroup_eq_ok idle
      refine .started sender (k.operation group) group ⟨.error e, fate⟩ (hpass group idle) hg
        (Message.group_of_ask? hm group) (hslot _ _) ?_ hactive ⟨rfl, rfl⟩
      rw [startsOf_append, startsOf_prepared, List.nil_append, Leg.nextSink, startsOf_started, htold]
      rfl
    | accepted group fate idle hopen =>
      -- started and accepted: the slot has moved on by one and awaits the outcome
      obtain ⟨hg, hactive⟩ := Leg.idleGroup_eq_ok idle
      refine .started sender (k.operation group) group ⟨.ok (), fate⟩ (hpass group idle) hg
        (Message.group_of_ask? hm group) (hslot _ _) ?_ rfl ?_
      · rw [startsOf_append, startsOf_prepared, List.nil_append, Leg.nextSink, startsOf_started]
        rfl
      · dsimp only [Leg.running, Leg.askedBy, Leg.setSlot, Ask.begun, Ask.noted, Leg.remember]
        exact ⟨rfl, rfl⟩
  · have hother : ¬ Category.group a = .group k.activity := fun hc => ha (Category.group.inj hc).symm
    have hother' : ¬ Category.group k.activity = .group a := fun hc => ha (Category.group.inj hc)
    have hslot : ∀ g b,
        ((k.begun l).askedBy k.activity sender g b).slot (.group a) = l.slot (.group a) := by
      intro g b
      rw [Leg.askedBy, Leg.slot_setSlot, if_neg hother]
      rfl
    have htold : ∀ n, startsOf (.group a) (w.tellingAll (k.begun l) n) = [] :=
      fun n => startsOf_telling _ w _ n
    -- the message asks for one activity, so it cannot pass for another
    have hpass : ∀ sender', ¬ Passes settings p l (.message sender m) a sender' := by
      intro sender' hp'
      obtain ⟨-, k', hk', hka⟩ := hp'.ask rfl
      rw [hm] at hk'
      cases hk'
      exact ha hka
    cases h with
    | unfit e idle => exact .of_unpassed hpass hclose rfl rfl
    | unprepared group e idle digits =>
      exact .of_unpassed hpass hclose (hslot _ _) (htold _)
    | closed group idle hopen =>
      refine .of_unpassed hpass hclose (hslot _ _) ?_
      rw [startsOf_append, startsOf_prepared, htold]
      rfl
    | refused group e fate idle hopen =>
      refine .of_unpassed hpass hclose (hslot _ _) ?_
      rw [startsOf_append, startsOf_prepared, List.nil_append, Leg.nextSink,
        startsOf_other _ _ hother', htold]
    | accepted group fate idle hopen =>
      refine .of_unpassed hpass hclose (hslot _ _) ?_
      rw [startsOf_append, startsOf_prepared, List.nil_append, Leg.nextSink,
        startsOf_other _ _ hother']
      rfl

end

section

variable {settings : Settings} {p : Phase} {l l' : Leg} {item : Item} {a : Activity}
  {es : List Effect}

/-- What was started was asked of an idle group; if it was accepted it is in flight. -/
theorem Touched.of_started (h : Touched settings p l item a l' es) {what : Operation} {g : Nat}
    {answer : Answer} (hm : .started what ⟨.group a, g⟩ answer ∈ es) :
    ∃ sender group, Passes settings p l item a sender ∧ l.active = none ∧ l.group = some group ∧
      what.group? = some group ∧ g = (l.slot (.group a)).generation + 1 ∧
      l'.slot (.group a) = ⟨g, answer.result.isOk, some sender⟩ ∧
      (answer.result = .ok () → l'.active = some ⟨a, g⟩ ∧ l'.group = l.group ∧
        l'.session = l.session) := by
  -- in all cases but one nothing is started for the slot
  have hmem := mem_startsOf.2 hm
  cases h with
  | started sender what' group answer' hp hgroup hwhat hslot hstarts hactive hsame =>
    rw [hstarts, List.mem_singleton] at hmem
    cases hmem
    obtain ⟨-, ⟨group', hidle⟩, -⟩ := id hp
    refine ⟨sender, group, hp, (Leg.idleGroup_eq_ok hidle).2, hgroup, hwhat, rfl, hslot, ?_⟩
    intro hok
    rw [hok] at hactive
    exact ⟨hactive, hsame⟩
  | bound sender hp hslot hstarts hactive => rw [hstarts] at hmem; cases hmem
  | closed hc hslot hstarts => rw [hstarts] at hmem; cases hmem
  | answered e hitem hcat hw hslot hstarts => rw [hstarts] at hmem; cases hmem
  | untouched hp hc ha hslot hstarts => rw [hstarts] at hmem; cases hmem

end

section

variable {σ : Type} {site : Site σ} {w : Surroundings} {p p' : Phase} {l l' : Leg} {item : Item}
  {es : List Effect}

/-- A turn touches the slot of an activity in one of the four ways. -/
theorem Turned.touched (h : Turned site w p l item p' l' es) (a : Activity) :
    Touched site.settings p l item a l' es := by
  have htold : ∀ (rs : List Recipient) n,
      startsOf (.group a) (rs.map fun r => w.telling r n) = [] :=
    fun rs n => startsOf_telling _ w rs n
  cases h with
  | ignored item hout => exact hout.untouched a
  | opened sender outbound mode sdp l' es hp ho =>
    cases ho with
    | noSession e => exact .of_message rfl rfl rfl (htold _ _)
    | noConnection name e => exact .of_message rfl rfl rfl (htold _ _)
    | negotiates name name' l' es hn =>
      refine .of_message rfl rfl ?_ hn.startsOf
      rw [hn.slot, Leg.connected, Leg.slot_setSlot, if_neg (Category.group_ne_negotiation a)]
      rfl
  | closed sender es hp hr =>
    have hreleased : startsOf (.group a) es = [] := by cases hr <;> rfl
    -- releasing the session disarms every slot at once
    refine .closed ⟨hp, sender, rfl⟩ (Slots.get_disarmAll _ _) ?_
    rw [startsOf_append, hreleased, List.nil_append]
    exact htold _ _
  | updated sender sdp k l' es hp hk hn =>
    exact .of_message rfl rfl hn.slot hn.startsOf
  | agreed g o localSdp hp awaited ho =>
    refine .of_completion (fun hcat => absurd hcat.symm (Category.group_ne_negotiation a)) ?_ (htold _ _)
    -- the outcome is one of the negotiation, and disarms its slot alone
    show (l.disarmed .negotiation).slot _ = _
    rw [Leg.slot_disarmed, if_neg (Category.group_ne_negotiation a)]
  | broke g o fault hp awaited ho =>
    refine .of_completion (fun hcat => absurd hcat.symm (Category.group_ne_negotiation a)) ?_ (htold _ _)
    rw [Leg.slot_disarmed, if_neg (Category.group_ne_negotiation a)]
  | groupCreated sender l' es hg hc => cases hc <;> exact .of_message rfl rfl rfl rfl
  | groupDestroyed sender l' es hd => cases hd <;> exact .of_message rfl rfl rfl rfl
  | groupStopped sender es hs =>
    refine .of_message rfl rfl rfl ?_
    cases hs with
    | quiet was es hs =>
      rw [startsOf_append, hs.startsOf, List.nil_append]
      exact htold _ _
    | failed e es hs =>
      rw [startsOf_append, hs.startsOf, List.nil_append]
      exact htold _ _
  | attempted sender m k r l' es hp hm ht => exact ht.touched hp hm a
  | stopped sender artifact l' es ha hs =>
    refine .of_message rfl rfl ?_ (hs.startsOf _)
    rcases hs.leg with rfl | rfl <;> rfl
  | stoppedRecording sender accountId store g l' es hp ha hs =>
    refine .of_message rfl rfl ?_ (hs.startsOf _)
    rcases hs.leg with rfl | rfl <;> rfl
  | joined sender m mixer l' es hp hm hj =>
    have hask : m.ask? site.settings = none := by rcases hm with rfl | rfl <;> rfl
    have hclose : m.closes = false := by rcases hm with rfl | rfl <;> rfl
    cases hj with
    | joined k hk => exact .of_message hask hclose rfl (htold _ _)
    | refused k e hk => exact .of_message hask hclose rfl (htold _ _)
  | left sender l' es hp hc hl =>
    cases hl with
    | left k mixer hk hm => exact .of_message rfl rfl rfl rfl
    | refused k mixer e hk hm => exact .of_message rfl rfl rfl (htold _ _)
  | rejoined sender m direction k mixer answer hp hd hk hm =>
    have hask : m.ask? site.settings = none := by rcases hd with ⟨rfl, -⟩ | ⟨rfl, -⟩ <;> rfl
    have hclose : m.closes = false := by rcases hd with ⟨rfl, -⟩ | ⟨rfl, -⟩ <;> rfl
    exact .of_message hask hclose rfl rfl
  | observed sender observer => exact .of_message rfl rfl rfl rfl
  | unobserved sender observer => exact .of_message rfl rfl rfl rfl
  | finished e b result hcat awaited hr =>
    by_cases hb : b = a
    · -- the outcome is the one that the slot awaits
      subst hb
      refine .answered e rfl hcat awaited ?_ (htold _ _)
      rw [Leg.slot_finished, if_pos rfl]
    · -- it is the outcome of another activity
      have hother : ¬ Category.group a = .group b := fun hc => hb (Category.group.inj hc).symm
      refine .of_completion (fun hcat' => absurd (hcat'.symm.trans hcat) hother) ?_ (htold _ _)
      rw [Leg.slot_finished, if_neg hother]

end

end CallMedia
