/-
  What a turn does to the call recording that is remembered.

  A call recording is remembered beside the activity in flight, and settled by whatever ends that.  Six
  things can come of an item (`Recorded`), and each says what becomes of both, and whether anything is
  filed:

    * an activity begins; if it was asked for as a call recording, that is remembered from then on;
    * a stop ends what is in flight, and settles the call recording that it wrote;
    * the group is stopped or destroyed, and the call recording is left as it is;
    * the session is closed, and nothing is left of either;
    * the outcome of an activity takes with it what is of its generation;
    * else nothing is changed.

  Only the second files anything, and what it files is told by `Stopped.filings` and its converse
  `Stopped.files`.  Account and store are those that were named first (`Turned.supplied`).
-/
import CallMedia.Proofs.Activities

namespace CallMedia

/-! ## Filing

What a turn hands to a store is read off its effects.  Few turns hand over anything. -/

/-- What a store is handed, and the name of the store. -/
def Effect.filing? : Effect → Option (String × Recording.Metadata)
  | stored store m _ => some (store, m)
  | _ => none

/-- What the stores are handed, in order. -/
def filingsOf (es : List Effect) : List (String × Recording.Metadata) := es.filterMap Effect.filing?

theorem filingsOf_append (es es' : List Effect) :
    filingsOf (es ++ es') = filingsOf es ++ filingsOf es' := List.filterMap_append

theorem filingsOf_telling (w : Surroundings) (rs : List Recipient) (n : Notice) :
    filingsOf (rs.map fun r => w.telling r n) = [] :=
  w.filterMap_telling (fun _ _ _ => rfl) rs n

theorem filingsOf_prepared (a : Activity) (group : GroupHandle) :
    filingsOf (prepared a group) = [] := by
  unfold prepared
  split <;> rfl

section

variable {w : Surroundings} {l l' : Leg} {es : List Effect}

/-- Stopping what is in flight files nothing by itself. -/
theorem ActiveStopped.filingsOf {result : Except Fault (Option Active)}
    (h : ActiveStopped l result es) : CallMedia.filingsOf es = [] := by
  cases h <;> rfl

theorem GroupStopped.filingsOf (h : GroupStopped w l es) : CallMedia.filingsOf es = [] := by
  cases h with
  | quiet was es hs =>
    rw [filingsOf_append, hs.filingsOf]
    exact filingsOf_telling w _ _
  | failed e es hs =>
    rw [filingsOf_append, hs.filingsOf]
    exact filingsOf_telling w _ _

theorem Negotiates.filingsOf {what : Operation} (h : Negotiates w l what l' es) :
    CallMedia.filingsOf es = [] := by
  cases h with
  | begun g l' es hl => cases hl with | accepted fate hopen => rfl
  | failed e l' es hl =>
    cases hl with
    | closed hopen => exact filingsOf_telling w _ _
    | refused e fate hopen => exact filingsOf_telling w _ _

theorem Attempted.filingsOf {a : Activity} {what : GroupHandle → Operation} {sender : Recipient}
    {l₀ : Leg} {r : Option Nat} (h : Attempted w a what sender l l₀ r l' es) :
    CallMedia.filingsOf es = [] := by
  have htold : ∀ (rs : List Recipient) n,
      CallMedia.filingsOf (rs.map fun r => w.telling r n) = [] := filingsOf_telling w
  cases h with
  | unfit e idle => rfl
  | unprepared group e idle digits => exact htold _ _
  | closed group idle hopen =>
    rw [filingsOf_append, filingsOf_prepared]
    exact htold _ _
  | refused group e fate idle hopen =>
    rw [filingsOf_append, filingsOf_prepared]
    exact htold _ _
  | accepted group fate idle hopen =>
    rw [filingsOf_append, filingsOf_prepared]
    rfl

end

/-! ### What a stop files -/

/-- Metadata that are handed over after a stop are all that is filed. -/
theorem filingsOf_stored {l : Leg} {result : Except Fault (Option Active)} {es es' : List Effect}
    (hs : ActiveStopped l result es) (hes' : filingsOf es' = []) (store : String)
    (m : Recording.Metadata) (answer : Except Fault Unit) :
    filingsOf (es ++ .stored store m answer :: es') = [(store, m)] := by
  rw [filingsOf_append, hs.filingsOf]
  show (store, m) :: filingsOf es' = _
  rw [hes']

/-- A stop that the media server accepted for a recording in flight, which writes a call recording. -/
structure Settles (l : Leg) (es : List Effect) (r : CallRecording) : Prop where
  active : l.active = some ⟨.recording, r.generation⟩
  stopped : ∃ group, .performed (.stop .recording group) (.ok ()) ∈ es
  recording : l.recording = some r

section

variable {w : Surroundings} {l l' : Leg} {es es' : List Effect}
  {reader : Recording.Reader} {apiVersion : String}
  {artifact : Bool}

/-- What was in flight is what is stopped. -/
theorem ActiveStopped.was {a : Active} (h : ActiveStopped l (.ok (some a)) es) :
    l.active = some a := by
  cases h with
  | groupless a ha hg => exact ha
  | stopped a group ha hg => exact ha

/-- With a group, a stop that succeeds is one that the media server accepted. -/
theorem ActiveStopped.accepted {a : Active} (h : ActiveStopped l (.ok (some a)) es)
    (hg : l.group ≠ none) : ∃ group, .performed (.stop a.activity group) (.ok ()) ∈ es := by
  cases h with
  | groupless a ha hnone => exact absurd hnone hg
  | stopped a group ha hl => exact ⟨group, List.mem_cons_self⟩

/-- A stop that the media server accepted for a recording has stopped what was in flight. -/
theorem ActiveStopped.ok_of_accepted {result : Except Fault (Option Active)} {a : Active}
    {group : GroupHandle} (h : ActiveStopped l result es) (ha : l.active = some a)
    (hm : .performed (.stop .recording group) (.ok ()) ∈ es) : result = .ok (some a) := by
  cases h with
  | idle ha' => cases hm
  | groupless b hb hg => cases hm
  | stopped b group' hb hg => rw [← hb, ha]
  | refused b group' e hb hg => exact nomatch (Effect.performed.inj (List.mem_singleton.1 hm)).2

/-- What a stop files is the call recording that it settles, and nothing besides. -/
theorem Stopped.filings (h : Stopped reader apiVersion w artifact l l' es) {store : String}
    {m : Recording.Metadata} (hm : (store, m) ∈ filingsOf es) (hg : l.group ≠ none) :
    artifact = true ∧ filingsOf es = [(store, m)] ∧ ∃ r accountId, Settles l es r ∧
      l.accountId = some accountId ∧ l.store = some store ∧
      r.finalize w.files accountId apiVersion w.clock reader = .ok m := by
  -- all the cases but two hand nothing to a store
  have hnone : ∀ {result es}, ActiveStopped l result es → (store, m) ∉ filingsOf es := by
    intro result es hs hm
    rw [hs.filingsOf] at hm
    cases hm
  have htold : ∀ n, filingsOf (w.tellingCall l n) = [] := fun n => filingsOf_telling w _ n
  cases h with
  | other was es hs hw => exact absurd hm (hnone hs)
  | failed e es hs =>
    rw [filingsOf_append, hs.filingsOf, htold] at hm
    cases hm
  | plain g es hs hr => exact absurd hm (hnone hs)
  | dropped g r es hs hr hg' hd => exact absurd hm (hnone hs)
  | filed g r accountId store' m' es hs hr hg' ha haccount hstore hm' =>
    -- what is handed over tells of the call recording that was taken out of the leg
    rw [filingsOf_stored hs rfl] at hm ⊢
    cases List.mem_singleton.1 hm
    subst hg'
    obtain ⟨group, hstopped⟩ := hs.accepted hg
    exact ⟨ha, rfl, r, accountId, ⟨hs.was, ⟨group, List.mem_append_left _ hstopped⟩, hr⟩, haccount,
      hstore, hm'⟩
  | unfiled g r accountId store' m' e es hs hr hg' ha haccount hstore hm' =>
    rw [filingsOf_stored hs (htold _)] at hm ⊢
    cases List.mem_singleton.1 hm
    subst hg'
    obtain ⟨group, hstopped⟩ := hs.accepted hg
    exact ⟨ha, rfl, r, accountId, ⟨hs.was, ⟨group, List.mem_append_left _ hstopped⟩, hr⟩, haccount,
      hstore, hm'⟩

/-- A stop that settles a call recording files it, if it is to and knows where. -/
theorem Stopped.files (h : Stopped reader apiVersion w true l l' es) {r : CallRecording}
    {accountId store : String} (hs : Settles l es r) (ha : l.accountId = some accountId)
    (hst : l.store = some store) :
    ∃ m, r.finalize w.files accountId apiVersion w.clock reader = .ok m ∧
      filingsOf es = [(store, m)] := by
  obtain ⟨group, hstopped⟩ := hs.stopped
  have htold : ∀ n, filingsOf (w.tellingCall l n) = [] := fun n => filingsOf_telling w _ n
  -- the command of the stop is among what stopping showed
  have hok : ∀ {result es₁ es₂}, ActiveStopped l result es₁ →
      (∀ what answer, .performed what answer ∉ es₂) →
      .performed (.stop .recording group) (.ok ()) ∈ es₁ ++ es₂ →
      result = .ok (some ⟨.recording, r.generation⟩) := by
    intro result es₁ es₂ h₁ h₂ hm
    rcases List.mem_append.1 hm with hm | hm
    · exact h₁.ok_of_accepted hs.active hm
    · exact absurd hm (h₂ _ _)
  have hnil : ∀ (what : Command) (answer : Except Fault Unit),
      Effect.performed what answer ∉ ([] : List Effect) := fun _ _ => List.not_mem_nil
  cases h with
  | other was es hs' hw =>
    rw [← List.append_nil es] at hstopped
    have hwas := hok hs' hnil hstopped
    cases hwas
    exact absurd rfl (hw r.generation)
  | failed e es hs' =>
    exact nomatch hok hs' (fun what answer => w.not_performed _ _ what answer) hstopped
  | plain g es hs' hr =>
    have hwas := hs'.was
    rw [hs.active] at hwas
    cases hwas
    exact absurd rfl (hr r hs.recording)
  | dropped g r' es hs' hr hg hd =>
    rw [ha, hst] at hd
    rcases hd with hd | hd | hd <;> cases hd
  | filed g r' accountId' store' m es hs' hr hg hart haccount hstore hm =>
    rw [hs.recording] at hr
    rw [ha] at haccount
    rw [hst] at hstore
    cases hr
    cases haccount
    cases hstore
    exact ⟨m, hm, filingsOf_stored hs' rfl _ _ _⟩
  | unfiled g r' accountId' store' m e es hs' hr hg hart haccount hstore hm =>
    rw [hs.recording] at hr
    rw [ha] at haccount
    rw [hst] at hstore
    cases hr
    cases haccount
    cases hstore
    exact ⟨m, hm, filingsOf_stored hs' (htold _) _ _ _⟩

end

/-! ## What becomes of the call recording

`Recorded` is the inversion of a turn for what is in flight and for the call recording.  It is kept as
small as its use allows: where a case says no more than what becomes of the two, that is all that the
later theorems need of it. -/

/-- The call recording that an order asks for, once it is started. -/
def CallRecordingOrder.recording (order : CallRecordingOrder) (generation : Nat)
    (startedAt : Instant) : CallRecording where
  generation := generation
  recordingId := order.recordingId
  callId := order.callId
  uri := order.uri
  startedAt := startedAt

namespace Ask

variable (k : Ask) (clock : Instant) (l : Leg)

theorem kept_none : k.kept clock l none = l := by
  unfold kept
  split <;> rfl

/-- What was started is remembered, if it was asked for as a call recording. -/
theorem recording_kept_some (g : Nat) :
    (k.kept clock l (some g)).recording =
      (k.recording.map fun order => order.recording g clock).or l.recording := by
  unfold kept
  cases k.recording <;> rfl

end Ask

/-- An item that stops what is in flight, and the account and store that it names. -/
inductive Stops (p : Phase) (l : Leg) : Item → Bool → Option String → Option String → Prop
  | stop (sender : Recipient) (artifact : Bool) (ha : l.active ≠ none) :
      Stops p l (.message sender (.stop artifact)) artifact none none
  | recording (sender : Recipient) (accountId store : Option String) (g : Nat) (hp : p = .active)
      (ha : l.active = some ⟨.recording, g⟩) :
      Stops p l (.message sender (.stopRecording accountId store)) true accountId store

/-- An item that stops or destroys the group. -/
def Quiets : Item → Prop
  | .message _ .stopGroup | .message _ .destroyGroup => True
  | _ => False

/-- What comes of an item, as far as the activity in flight and the call recording go. -/
inductive Recorded (reader : Recording.Reader) (settings : Settings) (w : Surroundings) (p : Phase)
    (l : Leg) (item : Item) (l' : Leg) (es : List Effect) : Prop
  /-- An activity begins. -/
  | begun (sender : Recipient) (m : Message) (k : Ask) (what : Operation) (g : Nat) (fate : SinkFate)
      (hitem : item = .message sender m) (hm : m.ask? settings = some k) (idle : l.active = none)
      (hstart : .started what ⟨.group k.activity, g⟩ ⟨.ok (), fate⟩ ∈ es)
      (hactive : l'.active = some ⟨k.activity, g⟩)
      (hrecording :
        l'.recording = (k.recording.map fun order => order.recording g w.clock).or l.recording)
      (hfilings : filingsOf es = [])
  /-- What is in flight is stopped, and its call recording settled. -/
  | stopped (artifact : Bool) (accountId store : Option String)
      (hitem : Stops p l item artifact accountId store)
      (hs : Stopped reader settings.apiVersion w artifact (l.remember accountId store) l' es)
  /-- The group is stopped or destroyed. -/
  | quieted (hitem : Quiets item) (hactive : l'.active = none) (hrecording : l'.recording = l.recording)
      (hfilings : filingsOf es = [])
  /-- The session is closed. -/
  | closed (hitem : Closes p item) (hactive : l'.active = none) (hrecording : l'.recording = none)
      (hfilings : filingsOf es = [])
  /-- An activity is over. -/
  | finished (e : Completion) (a : Activity) (hitem : item = .completion e)
      (hcat : e.category = .group a) (awaited : l.Awaits (.group a) e.generation)
      (hl : l' = l.finished a e.generation) (hfilings : filingsOf es = [])
  /-- Nothing of this happens. -/
  | unmoved (hactive : l'.active = l.active) (hrecording : l'.recording = l.recording)
      (hfilings : filingsOf es = [])

/-- An attempt begins the activity that it is for, if the media server accepts it. -/
theorem Attempted.recorded {reader : Recording.Reader} {settings : Settings} {w : Surroundings}
    {p : Phase} {l l' : Leg} {es : List Effect} {sender : Recipient} {m : Message} {k : Ask}
    {r : Option Nat} (hm : m.ask? settings = some k)
    (h : Attempted w k.activity k.operation sender (k.noted l) (k.begun l) r l' es) :
    Recorded reader settings w p l (.message sender m) (k.kept w.clock l' r) es := by
  have hfilings := h.filingsOf
  have hidle : ∀ {group}, (k.noted l).idleGroup k.activity = .ok group → l.active = none :=
    fun idle => (Leg.idleGroup_eq_ok idle).2
  -- in four of the five cases nothing was started, and nothing is remembered
  cases h with
  | unfit e idle =>
    rw [Ask.kept_none]
    exact .unmoved rfl rfl hfilings
  | unprepared group e idle digits =>
    rw [Ask.kept_none]
    exact .unmoved rfl rfl hfilings
  | closed group idle hopen =>
    rw [Ask.kept_none]
    exact .unmoved rfl rfl hfilings
  | refused group e fate idle hopen =>
    rw [Ask.kept_none]
    exact .unmoved rfl rfl hfilings
  | accepted group fate idle hopen =>
    refine .begun sender m k (k.operation group) _ fate rfl hm (hidle idle)
      (List.mem_append_right _ List.mem_cons_self) ?_ ?_ hfilings
    · obtain ⟨recording, hkept⟩ := k.kept_cases w.clock
        (((k.begun l).askedBy k.activity sender _ true).running k.activity _) (some _)
      rw [hkept]
      rfl
    · rw [Ask.recording_kept_some]
      rfl

/-- A stop that names neither account nor store adds none. -/
theorem Leg.remember_none (l : Leg) : l.remember none none = l := by
  unfold remember
  rw [Option.or_none, Option.or_none]

section

variable {σ : Type} {site : Site σ} {w : Surroundings} {p p' : Phase} {l l' : Leg} {item : Item}
  {es : List Effect}

/-- Every turn is one of the six. -/
theorem Turned.recorded (h : Turned site w p l item p' l' es) :
    Recorded site.reader site.settings w p l item l' es := by
  have htold : ∀ (rs : List Recipient) n, filingsOf (rs.map fun r => w.telling r n) = [] :=
    filingsOf_telling w
  cases h with
  | ignored item hout => exact .unmoved rfl rfl rfl
  | opened sender outbound mode sdp l' es hp ho =>
    cases ho with
    | noSession e => exact .unmoved rfl rfl (htold _ _)
    | noConnection name e => exact .unmoved rfl rfl (htold _ _)
    | negotiates name name' l' es hn =>
      have hfilings : filingsOf es = [] := hn.filingsOf
      rcases hn.leg with rfl | ⟨b, rfl⟩
      · exact .unmoved rfl rfl hfilings
      · exact .unmoved rfl rfl hfilings
  | closed sender es hp hr =>
    refine .closed ⟨hp, sender, rfl⟩ rfl rfl ?_
    have hreleased : filingsOf es = [] := by cases hr <;> rfl
    rw [filingsOf_append, hreleased]
    exact htold _ _
  | updated sender sdp k l' es hp hk hn =>
    have hfilings := hn.filingsOf
    rcases hn.leg with rfl | ⟨b, rfl⟩
    · exact .unmoved rfl rfl hfilings
    · exact .unmoved rfl rfl hfilings
  | agreed g o localSdp hp awaited ho => exact .unmoved rfl rfl (htold _ _)
  | broke g o fault hp awaited ho => exact .unmoved rfl rfl (htold _ _)
  | groupCreated sender l' es hg hc => cases hc <;> exact .unmoved rfl rfl rfl
  | groupDestroyed sender l' es hd =>
    cases hd with
    | absent hg => exact .unmoved rfl rfl rfl
    | released group answer hg => exact .quieted trivial rfl rfl rfl
  | groupStopped sender es hs => exact .quieted trivial rfl rfl hs.filingsOf
  | attempted sender m k r l' es hp hm ht => exact ht.recorded hm
  | stopped sender artifact l' es ha hs =>
    refine .stopped artifact none none (.stop sender artifact ha) ?_
    rw [Leg.remember_none]
    exact hs
  | stoppedRecording sender accountId store g l' es hp ha hs =>
    exact .stopped true accountId store (.recording sender accountId store g hp ha) hs
  | joined sender m mixer l' es hp hm hj => cases hj <;> exact .unmoved rfl rfl (htold _ _)
  | left sender l' es hp hc hl =>
    cases hl with
    | left k mixer hk hm => exact .unmoved rfl rfl rfl
    | refused k mixer e hk hm => exact .unmoved rfl rfl (htold _ _)
  | rejoined sender m direction k mixer answer hp hd hk hm => exact .unmoved rfl rfl rfl
  | observed sender observer => exact .unmoved rfl rfl rfl
  | unobserved sender observer => exact .unmoved rfl rfl rfl
  | finished e a result hcat awaited hr => exact .finished e a rfl hcat awaited rfl (htold _ _)

/-! ## Account and store

They are taken from the first request that names them, and from later ones no more.  A request that is
not heeded names nothing. -/

/-- The account and the store that an item names, if it is heeded. -/
def Item.supplies (p : Phase) (l : Leg) : Item → Option String × Option String
  | .message _ (.startRecording order) =>
    if p = .active then (some order.accountId, order.store) else (none, none)
  | .message _ (.stopRecording accountId store) =>
    if p = .active ∧ l.active.map Active.activity = some .recording then (accountId, store)
    else (none, none)
  | _ => (none, none)

/-- Account and store as they were, but for those that an item names where there were none. -/
def Leg.Supplied (l : Leg) (supply : Option String × Option String) (l' : Leg) : Prop :=
  l'.accountId = l.accountId.or supply.1 ∧ l'.store = l.store.or supply.2

/-- Where none is named they are as they were. -/
theorem Leg.supplied_none (ha : l'.accountId = l.accountId) (hs : l'.store = l.store) :
    l.Supplied (none, none) l' :=
  ⟨by rw [ha, Option.or_none], by rw [hs, Option.or_none]⟩

/-- A request for an activity names what its order has. -/
theorem Ask.supplies_of_ask? {settings : Settings} {m : Message} {k : Ask}
    (h : m.ask? settings = some k) (sender : Recipient) (l : Leg) :
    (Item.message sender m).supplies .active l = (k.accountId, k.store) := by
  cases m <;> cases h <;> rfl

/-- The first account and the first store that are named stay. -/
theorem Turned.supplied (h : Turned site w p l item p' l' es) : l.Supplied (item.supplies p l) l' := by
  cases h with
  | ignored item hout =>
    -- what is out of place is not heeded
    have hnothing : item.supplies p l = (none, none) := by
      cases item with
      | message sender m =>
        cases m with
        | startRecording order => exact if_neg hout
        | stopRecording accountId store =>
          refine if_neg ?_
          rintro ⟨hp, ha⟩
          obtain ⟨⟨a, g⟩, hactive, ha⟩ := Option.map_eq_some_iff.1 ha
          cases ha
          rcases hout with hout | hout
          · exact hout hp
          · exact hout g hactive
        | _ => rfl
      | completion e => rfl
      | query n => rfl
    rw [hnothing]
    exact Leg.supplied_none rfl rfl
  | opened sender outbound mode sdp l' es hp ho =>
    cases ho with
    | noSession e => exact Leg.supplied_none rfl rfl
    | noConnection name e => exact Leg.supplied_none rfl rfl
    | negotiates name name' l' es hn =>
      rcases hn.leg with rfl | ⟨b, rfl⟩
      · exact Leg.supplied_none rfl rfl
      · exact Leg.supplied_none rfl rfl
  | closed sender es hp hr => exact Leg.supplied_none rfl rfl
  | updated sender sdp k l' es hp hk hn =>
    rcases hn.leg with rfl | ⟨b, rfl⟩
    · exact Leg.supplied_none rfl rfl
    · exact Leg.supplied_none rfl rfl
  | agreed g o localSdp hp awaited ho => exact Leg.supplied_none rfl rfl
  | broke g o fault hp awaited ho => exact Leg.supplied_none rfl rfl
  | groupCreated sender l' es hg hc => cases hc <;> exact Leg.supplied_none rfl rfl
  | groupDestroyed sender l' es hd => cases hd <;> exact Leg.supplied_none rfl rfl
  | groupStopped sender es hs => exact Leg.supplied_none rfl rfl
  | attempted sender m k r l' es hp hm ht =>
    subst hp
    rw [Ask.supplies_of_ask? hm]
    obtain ⟨recording, hkept⟩ := k.kept_cases w.clock l' r
    rw [hkept]
    cases ht <;> exact ⟨rfl, rfl⟩
  | stopped sender artifact l' es ha hs =>
    rcases hs.leg with rfl | rfl
    · exact Leg.supplied_none rfl rfl
    · exact Leg.supplied_none rfl rfl
  | stoppedRecording sender accountId store g l' es hp ha hs =>
    have hnamed : (Item.message sender (.stopRecording accountId store)).supplies p l =
        (accountId, store) := if_pos ⟨hp, by rw [ha]; rfl⟩
    rw [hnamed]
    rcases hs.leg with rfl | rfl <;> exact ⟨rfl, rfl⟩
  | joined sender m mixer l' es hp hm hj =>
    rcases hm with rfl | rfl <;> cases hj <;> exact Leg.supplied_none rfl rfl
  | left sender l' es hp hc hl => cases hl <;> exact Leg.supplied_none rfl rfl
  | rejoined sender m direction k mixer answer hp hd hk hm =>
    rcases hd with ⟨rfl, -⟩ | ⟨rfl, -⟩ <;> exact Leg.supplied_none rfl rfl
  | observed sender observer => exact Leg.supplied_none rfl rfl
  | unobserved sender observer => exact Leg.supplied_none rfl rfl
  | finished e a result hcat awaited hr => exact Leg.supplied_none rfl rfl

end

end CallMedia
