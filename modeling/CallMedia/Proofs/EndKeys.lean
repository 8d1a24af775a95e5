/-
  The key that ends a recording.

  A recording is asked for with an end key, or without.  The media server is told the key in the
  request; the controller keeps a copy in one field of the leg, and reports that copy when the media
  server says that the key was pressed.  The field is overwritten by every recording that finds the group
  idle, before it is known whether the recording will be started, while the outcome of an earlier one may
  still be awaited.

  What saves the report is that the slot is rebound together with the field (`Turned.keyed`): as long as
  the slot awaits an outcome, the field holds the key of the request that the awaited generation was
  started with (`Run.keyed`).  So whatever is reported agrees with what was asked for
  (`end_key_reported`).
-/
import CallMedia.Proofs.Delivery
import CallMedia.Proofs.Rejection

namespace CallMedia

/-! ## Keys and requests

Two messages ask for a recording, and each names its end key in its own way.  What they have in common
is stated once: the request ends on the key (`EndsOn`), and the leg keeps a copy (`Ask.endKey`). -/

/-- The end key of a message that asks for a recording: that of the order, or the one that is set for
    recordings of a whole call. -/
def Message.endKey? (settings : Settings) : Message → Option (Option String)
  | .record order => some order.endInputKey
  | .startRecording _ => some (some settings.callRecording.endInputKeys)
  | _ => none

/-- A request that ends on a key, if there is one and it is not empty, and is otherwise not told of
    keys. -/
structure RecordRequest.EndsOn (settings : Settings) (key : Option String) (r : RecordRequest) :
    Prop where
  pattern : ∀ text, r.endPattern = some text ↔ key = some text ∧ text ≠ ""
  timeout : ∀ ms, r.interSignalTimeoutMs = some ms ↔
    r.endPattern ≠ none ∧ ms = settings.recordInterSignalTimeoutMs
  stops : r.stopPlayOnSignal = true ↔ r.endPattern ≠ none

/-- A request is made out for the key of its order. -/
theorem RecordOrder.endsOn (o : RecordOrder) (settings : Settings) :
    (o.request settings.recordInterSignalTimeoutMs).EndsOn settings o.endInputKey := by
  unfold request given
  refine ⟨fun text => ?_, fun ms => ?_, ?_⟩
  · simp [Option.filter_eq_some_iff]
  · cases o.endInputKey.filter fun t => t ≠ "" with
    | none => simp
    | some text => simp [eq_comm]
  · cases o.endInputKey.filter fun t => t ≠ "" with
    | none => simp
    | some text => simp

/-- A key that is empty, or is not there, is reported the same. -/
theorem RecordRequest.EndsOn.reported {settings : Settings} {key : Option String} {r : RecordRequest}
    (h : r.EndsOn settings key) : key.getD "" = r.endPattern.getD "" := by
  cases hpattern : r.endPattern with
  | some text => rw [((h.pattern text).1 hpattern).1]
  | none =>
    cases key with
    | none => rfl
    | some text =>
      -- an empty key is none in the request, and is reported as the empty text in any case
      by_cases hempty : text = ""
      · rw [hempty]
        rfl
      · rw [(h.pattern text).2 ⟨rfl, hempty⟩] at hpattern
        cases hpattern

/-- The messages that ask for a recording are those that name an end key. -/
theorem Message.recording_of_ask? {settings : Settings} {m : Message} {k : Ask}
    (h : m.ask? settings = some k) (ha : k.activity = .recording) :
    ∃ key, m.endKey? settings = some key := by
  cases m <;> cases h
  · exact ⟨_, rfl⟩
  · cases ha
  · cases ha
  · exact ⟨_, rfl⟩

/-- Messages with an end key ask the media server for a recording that ends on that key, and keep a copy
    of it. -/
theorem Message.ask?_of_endKey? {settings : Settings} {m : Message} {key : Option String}
    (h : m.endKey? settings = some key) :
    ∃ k, m.ask? settings = some k ∧ k.activity = .recording ∧ k.endKey = some (key.getD "") ∧
      ∀ group, ∃ request, k.operation group = .record group request ∧
        request.EndsOn settings key := by
  cases m with
  | record order =>
    cases h
    exact ⟨_, rfl, rfl, rfl, fun group => ⟨_, rfl, order.endsOn settings⟩⟩
  | startRecording order =>
    cases h
    exact ⟨_, rfl, rfl, rfl, fun group =>
      ⟨_, rfl, (Desk.recordingOrder settings.callRecording order).endsOn settings⟩⟩
  | _ => cases h

/-- No other activity names an end key. -/
theorem Ask.endKey_of_ask? {settings : Settings} {m : Message} {k : Ask}
    (h : m.ask? settings = some k) (ha : k.activity ≠ .recording) : k.endKey = none := by
  cases m <;> cases h
  · exact absurd rfl ha
  · rfl
  · rfl
  · exact absurd rfl ha

/-! ## One turn -/

section

variable {σ : Type} {site : Site σ} {w : Surroundings} {p p' : Phase} {l l' : Leg} {item : Item}
  {es : List Effect}

/-- What a turn starts for an activity it starts once. -/
theorem Touched.start_eq {settings : Settings} {a : Activity} (h : Touched settings p l item a l' es)
    {what what' : Operation} {g : Nat} {answer answer' : Answer}
    (hm : .started what ⟨.group a, g⟩ answer ∈ es) (hm' : .started what' ⟨.group a, g⟩ answer' ∈ es) :
    what = what' := by
  have hmem := mem_startsOf.2 hm
  have hmem' := mem_startsOf.2 hm'
  cases h with
  | started sender what'' group answer'' hp hgroup hwhat hslot hstarts hactive hsame =>
    rw [hstarts, List.mem_singleton] at hmem hmem'
    cases hmem
    cases hmem'
    rfl
  | bound sender hp hslot hstarts hactive => rw [hstarts] at hmem; cases hmem
  | closed hc hslot hstarts => rw [hstarts] at hmem; cases hmem
  | answered e hitem hcat hw hslot hstarts => rw [hstarts] at hmem; cases hmem
  | untouched hp hc ha hslot hstarts => rw [hstarts] at hmem; cases hmem

/-- What an attempt starts is what it was to start, and the leg has the key by then. -/
theorem Attempted.started_eq {a : Activity} {what : GroupHandle → Operation} {sender : Recipient}
    {l₀ : Leg} {r : Option Nat} (h : Attempted w a what sender l l₀ r l' es) {op : Operation}
    {sink : Sink} {answer : Answer} (hm : .started op sink answer ∈ es) :
    sink.category = .group a ∧ (∃ group, op = what group) ∧ l'.endKey = l₀.endKey := by
  -- the start is none of what is done before it, and none of the notices after it
  have hready : ∀ group, .started op sink answer ∉ prepared a group :=
    fun group => not_started (sinksOf_prepared a group) _ _ _
  have htold : ∀ (rs : List Recipient) n, .started op sink answer ∉ rs.map fun r => w.telling r n :=
    fun rs n => not_started (sinksOf_telling w rs n) _ _ _
  cases h with
  | unfit e idle => exact absurd hm (htold [sender] _)
  | unprepared group e idle digits =>
    rcases List.mem_cons.1 hm with hm | hm
    · cases hm
    · exact absurd hm (htold _ _)
  | closed group idle hopen =>
    rcases List.mem_append.1 hm with hm | hm
    · exact absurd hm (hready group)
    · exact absurd hm (htold _ _)
  | refused group e fate idle hopen =>
    rcases List.mem_append.1 hm with hm | hm
    · exact absurd hm (hready group)
    rcases List.mem_cons.1 hm with hm | hm
    · cases hm
      exact ⟨rfl, ⟨group, rfl⟩, rfl⟩
    · exact absurd hm (htold _ _)
  | accepted group fate idle hopen =>
    rcases List.mem_append.1 hm with hm | hm
    · exact absurd hm (hready group)
    · cases List.mem_singleton.1 hm
      exact ⟨rfl, ⟨group, rfl⟩, rfl⟩

/-- A recording that is started is asked for with the key of its message, and the leg keeps the key. -/
theorem Turned.records {sender : Recipient} {m : Message} {key : Option String} {what : Operation}
    {sink : Sink} {answer : Answer} (h : Turned site w p l (.message sender m) p' l' es)
    (hkey : m.endKey? site.settings = some key) (hm : .started what sink answer ∈ es) :
    sink.category = .group .recording ∧ l'.endKey = key.getD "" ∧
      ∃ group request, what = .record group request ∧ request.EndsOn site.settings key := by
  obtain ⟨k, hk, hactivity, hcopy, hrequest⟩ := Message.ask?_of_endKey? hkey
  -- a recording is started in an active session only
  have hp : p = .active := by
    refine Decidable.of_not_not fun hp => ?_
    cases h with
    | ignored item hout => cases hm
    | attempted sender m k' r l' es hp' hask ht => exact hp hp'
    | joined sender m mixer l' es hp' hmixer hj => exact hp hp'
    | rejoined sender m direction k' mixer answer' hp' hd hk' hmixer => exact hp hp'
    | _ => cases hkey
  subst hp
  obtain ⟨-, r, l₁, ht, rfl⟩ := h.of_ask hk
  obtain ⟨hcat, ⟨group, rfl⟩, hend⟩ := ht.started_eq hm
  obtain ⟨recording, hkept⟩ := k.kept_cases w.clock l₁ r
  obtain ⟨request, hop, hends⟩ := hrequest group
  refine ⟨hactivity ▸ hcat, ?_, group, request, hop, hends⟩
  rw [hkept]
  show l₁.endKey = _
  rw [hend]
  show k.endKey.getD l.endKey = _
  rw [hcopy]
  rfl

/-- The copy of the key is left alone unless a recording finds the group idle. -/
theorem Turned.endKey (h : Turned site w p l item p' l' es)
    (hp : ∀ sender, ¬ Passes site.settings p l item .recording sender) : l'.endKey = l.endKey := by
  cases h with
  | opened sender outbound mode sdp l' es hp' ho =>
    cases ho with
    | noSession e => rfl
    | noConnection name e => rfl
    | negotiates name name' l' es hn => rcases hn.leg with rfl | ⟨b, rfl⟩ <;> rfl
  | updated sender sdp k l' es hp' hk hn => rcases hn.leg with rfl | ⟨b, rfl⟩ <;> rfl
  | groupCreated sender l' es hg hc => cases hc <;> rfl
  | groupDestroyed sender l' es hd => cases hd <;> rfl
  | attempted sender m k r l' es hp' hm ht =>
    obtain ⟨recording, hkept⟩ := k.kept_cases w.clock l' r
    rw [hkept]
    show l'.endKey = l.endKey
    -- a recording sets the copy, but only where the group is idle; no other activity names a key
    by_cases ha : k.activity = .recording
    · have hbusy : ∀ group, l.idleGroup k.activity ≠ .ok group := fun group hidle =>
        hp sender ⟨hp', ⟨group, ha ▸ hidle⟩, m, k, rfl, hm, ha⟩
      cases ht with
      | unfit e idle => rfl
      | unprepared group e idle digits => exact absurd idle (hbusy group)
      | closed group idle hopen => exact absurd idle (hbusy group)
      | refused group e fate idle hopen => exact absurd idle (hbusy group)
      | accepted group fate idle hopen => exact absurd idle (hbusy group)
    · have hbegun : (k.begun l).endKey = l.endKey := by
        show k.endKey.getD l.endKey = _
        rw [Ask.endKey_of_ask? hm ha]
        rfl
      cases ht with
      | unfit e idle => rfl
      | _ => exact hbegun
  | stopped sender artifact l' es ha hs => rcases hs.leg with rfl | rfl <;> rfl
  | stoppedRecording sender accountId store g l' es hp' ha hs => rcases hs.leg with rfl | rfl <;> rfl
  | joined sender m mixer l' es hp' hm hj => cases hj <;> rfl
  | left sender l' es hp' hc hl => cases hl <;> rfl
  | _ => rfl

/-- A slot that awaits a recording after a turn did so before, and the key is the same; or the recording
    was started in this turn, with the key that the leg now has. -/
theorem Turned.keyed (h : Turned site w p l item p' l' es)
    (hpending : (l'.slot (.group .recording)).pending = true) :
    (l'.slot (.group .recording) = l.slot (.group .recording) ∧ l'.endKey = l.endKey) ∨
    ∃ group request answer, .started (.record group request)
        ⟨.group .recording, (l'.slot (.group .recording)).generation⟩ answer ∈ es ∧
      l'.endKey = request.endPattern.getD "" := by
  cases h.touched .recording with
  | bound sender hp hslot hstarts hactive => rw [hslot] at hpending; cases hpending
  | started sender what group answer hp hgroup hwhat hslot hstarts hactive hsame =>
    refine .inr ?_
    have hm : .started what ⟨.group .recording, (l'.slot (.group .recording)).generation⟩ answer ∈
        es := by
      rw [hslot]
      exact mem_startsOf.1 (hstarts ▸ List.mem_singleton_self _)
    obtain ⟨-, -, m, k, rfl, hk, ha⟩ := hp
    obtain ⟨key, hkey⟩ := Message.recording_of_ask? hk ha
    obtain ⟨-, hcopy, group', request, rfl, hends⟩ := h.records hkey hm
    exact ⟨group', request, answer, hm, hcopy.trans hends.reported⟩
  | closed hc hslot hstarts => rw [hslot] at hpending; cases hpending
  | answered e hitem hcat hw hslot hstarts => rw [hslot] at hpending; cases hpending
  | untouched hp hc ha hslot hstarts => exact .inl ⟨hslot, h.endKey hp⟩

end

/-! ## Runs -/

/-- While the outcome of a recording is awaited, the leg has the key that it was started with. -/
theorem Run.keyed {σ : Type} {site : Site σ} {ts : List (Turn σ)} {c : Controller σ}
    {queued : List Completion} (h : Run site ts c queued)
    (hpending : (c.desk.leg.slot (.group .recording)).pending = true) :
    ∃ t ∈ ts, ∃ group request answer, .started (.record group request)
        ⟨.group .recording, (c.desk.leg.slot (.group .recording)).generation⟩ answer ∈ t.effects site ∧
      c.desk.leg.endKey = request.endPattern.getD "" := by
  -- by induction on the run: the slot and the copy change together, or neither does
  refine h.invariant (P := fun ts _ l => (l.slot (.group .recording)).pending = true →
    ∃ t ∈ ts, ∃ group request answer, .started (.record group request)
        ⟨.group .recording, (l.slot (.group .recording)).generation⟩ answer ∈ t.effects site ∧
      l.endKey = request.endPattern.getD "") nofun ?_ hpending
  intro ts t queued hbefore ih hpending
  obtain ⟨hturned, -, -⟩ := t.turned site hbefore.sound
  rcases hturned.keyed hpending with ⟨hslot, hkey⟩ | ⟨group, request, answer, hm, hkey⟩
  · rw [hslot] at hpending ⊢
    obtain ⟨t', ht', group, request, answer, hm, hkey'⟩ := ih hpending
    exact ⟨t', List.mem_append_left _ ht', group, request, answer, hm, hkey.trans hkey'⟩
  · exact ⟨t, List.mem_append_right _ (List.mem_singleton_self t), group, request, answer,
      ((t.mem_shown site).1 hm).1, hkey⟩

/-- What is reported of a recording agrees with what was asked for.  Take any run, and a message in it
    that asks for a recording, of an order or of the whole call, and has something started.

    That is one recording, and its request ends on the end key if there is one and it is not empty;
    then, and only then, the request has the timeout between signals that is set, and the prompt stops on
    the key.  Whenever an outcome of this very recording is accepted, whatever else was recorded, stopped or
    rejected in between, its sender is told of success, with the pattern of this request if the recorder
    was stopped and with nothing otherwise. -/
theorem end_key_reported {σ : Type} {site : Site σ} {ts : List (Turn σ)} {c : Controller σ}
    {queued : List Completion} (h : Run site ts c queued) {i : Turn σ} (hi : i ∈ ts)
    {sender : Recipient} {m : Message} (hitem : i.item = .message sender m) {key : Option String}
    (hkey : m.endKey? site.settings = some key) {what : Operation} {sink : Sink} {answer : Answer}
    (hstart : .started what sink answer ∈ i.effects site) :
    sink.category = .group .recording ∧
    ∃ group request, what = .record group request ∧ request.EndsOn site.settings key ∧
      ∀ t ∈ ts, ∀ q, t.item = .completion ⟨sink.generation, .recording (.completed q)⟩ →
        ((t.before.desk.leg.slot (.group .recording)).accept sink.generation).1 = true →
        noticesOf (t.effects site) = [(sender, .operationResult .recording
          (.ok (if q = .stopped then request.endPattern.getD "" else "")))] := by
  have hiturned := (i.turned site (h.sound_of_mem hi)).1
  rw [hitem] at hiturned
  obtain ⟨hcat, -, group, request, rfl, hends⟩ :=
    hiturned.records hkey ((i.mem_shown site).2 ⟨hstart, rfl⟩)
  refine ⟨hcat, group, request, rfl, hends, ?_⟩
  intro t ht q hcompletion haccepted
  obtain ⟨category, g⟩ := sink
  change category = _ at hcat
  subst hcat
  obtain ⟨earlier, between, hts⟩ := List.append_of_mem hi
  obtain ⟨pre, post, rfl⟩ := List.append_of_mem ht
  obtain ⟨queued', hbefore, -⟩ := h.before
  obtain ⟨hpending, hgen⟩ := (Slot.accept_iff _ g).1 haccepted
  -- the awaited generation was begun by the one turn that handed over its sink
  obtain ⟨t', ht', group', request', answer', hstart', hcopy⟩ := hbefore.keyed hpending
  rw [← hgen] at hstart'
  obtain ⟨earlier', between', rfl⟩ := List.append_of_mem ht'
  obtain ⟨-, rfl, -⟩ := h.begun_once hts (by rw [List.append_assoc, List.cons_append]) hstart hstart'
  have hsame : Operation.record group request = .record group' request' :=
    (hiturned.touched .recording).start_eq ((i.mem_shown site).2 ⟨hstart, rfl⟩)
      ((i.mem_shown site).2 ⟨hstart', rfl⟩)
  cases hsame
  -- and the slot is bound to the sender of that turn
  obtain ⟨r, hslot⟩ := hbefore.bound .recording hpending
  rw [← hgen] at hslot
  obtain ⟨⟨earlier₂, i₂, between₂, hts₂, ⟨⟨m₂, hitem₂⟩, what₂, answer₂, hstart₂, -⟩, -⟩, -⟩ :=
    (hbefore.slot_iff .recording g r).1 hslot
  obtain ⟨-, rfl, -⟩ := hbefore.begun_once rfl hts₂ hstart hstart₂
  rw [hitem] at hitem₂
  cases hitem₂
  obtain ⟨hturned, -, -⟩ := t.turned site hbefore.sound
  rw [hcompletion] at hturned
  obtain ⟨⟨result, hresult, htold⟩, -⟩ := hturned.reports rfl hslot
  rw [Turn.noticesOf_effects, htold, ← hcopy]
  cases q <;> cases hresult <;> rfl

namespace Sample

/-- The player is recorded until a key is pressed. -/
def recordUntil (key : String) : Item :=
  .message player (.record
    { destination := ⟨"rtsp://media/player"⟩, endInputKey := some key, lengthSecs := 60
      timeoutSecs := 5 })

/-- The call wants a recording that ends on another key. -/
def recordToo : Item :=
  .message call (.record
    { destination := ⟨"rtsp://media/call"⟩, endInputKey := some "#", lengthSecs := 60
      timeoutSecs := 5 })

def pressed : Completion := ⟨1, .recording (.completed .stopped)⟩

def keyed : Controller Unit := handled grouped (recordUntil "1")

def crossed : Controller Unit := handled keyed recordToo

def halted : Controller Unit := used (handled crossed stop) ⟨.group .recording, 1⟩

/-- The first recording is started, the second refused, the first stopped; then its outcome comes. -/
theorem run_pressed :
    Run site [⟨fresh, create⟩, ⟨offered, .completion offer⟩, ⟨active, group⟩,
      ⟨grouped, recordUntil "1"⟩, ⟨keyed, recordToo⟩, ⟨crossed, stop⟩, ⟨halted, .completion pressed⟩]
      (handled halted (.completion pressed)) [] :=
  .turn _ halted [pressed] (.completion pressed)
    (.complete _ (handled crossed stop) [] ⟨.group .recording, 1⟩ pressed.outcome pressed
      (.turn _ crossed [] stop
        (.turn _ keyed [] recordToo (.turn _ grouped [] (recordUntil "1") run_grouped nofun) nofun)
        nofun)
      List.mem_cons_self rfl)
    fun e he => by
      cases he
      exact List.mem_cons_self

end Sample

/-- Another recording is refused and the first one is stopped; then the key was pressed after all, and
    the player is told its own. -/
theorem end_key_reported_pressed :
    (∃ group request answer,
      .started (.record group request) ⟨.group .recording, 1⟩ answer ∈
        Turn.effects Sample.site ⟨Sample.grouped, Sample.recordUntil "1"⟩ ∧
      request.endPattern = some "1" ∧
      request.EndsOn Sample.site.settings (some "1")) ∧
    ((Sample.halted.desk.leg.slot (.group .recording)).accept 1).1 = true ∧
    noticesOf (Turn.effects Sample.site ⟨Sample.halted, .completion Sample.pressed⟩) =
      [(Sample.player, .operationResult .recording (.ok "1"))] := by
  have hstart : .started (.record ⟨"1"⟩ (RecordOrder.request
        { destination := ⟨"rtsp://media/player"⟩, endInputKey := some "1", lengthSecs := 60
          timeoutSecs := 5 } Sample.site.settings.recordInterSignalTimeoutMs))
      ⟨.group .recording, 1⟩ ⟨.ok (), .held⟩ ∈
      Turn.effects Sample.site ⟨Sample.grouped, Sample.recordUntil "1"⟩ :=
    List.mem_of_getElem? (i := 1) rfl
  have hpending : ((Sample.halted.desk.leg.slot (.group .recording)).accept 1).1 = true := rfl
  obtain ⟨-, group, request, hwhat, hends, hreported⟩ :=
    end_key_reported Sample.run_pressed (List.mem_of_getElem? (i := 3) rfl) rfl rfl hstart
  cases hwhat
  refine ⟨⟨_, _, _, hstart, rfl, hends⟩, hpending, ?_⟩
  exact hreported _ (List.mem_of_getElem? (i := 6) rfl) .stopped rfl hpending

end CallMedia
