/-
  What is filed of call recordings, over every run.

  A call recording is due when a stop that asks for an artifact is accepted by the media server, for a
  recording that an order for a call recording began, and somebody has named a store (`Due`).  What is
  due is filed in that very turn, once, with the ids of that order and with the account and the store
  that were named first; and nothing else is ever filed.

  Three facts hold through all turns, and carry this: account and store are the first that were named
  (`Run.supplied`); what is remembered was begun by an order (`Run.ordered`); and while a recording that
  an order began is in flight, it is remembered (`Run.remembered`).  That nothing is filed twice, or
  after it has ended otherwise, needs no more than that what is let go never comes back.
-/
import CallMedia.Proofs.InFlight

namespace CallMedia

namespace Turn

variable {σ : Type} (site : Site σ) (t : Turn σ)

/-- The account that is named in a turn. -/
def account? : Option String := (t.item.supplies t.before.phase t.before.desk.leg).1

/-- The store that is named in a turn. -/
def store? : Option String := (t.item.supplies t.before.phase t.before.desk.leg).2

/-- Whether an order for a call recording begins a generation of the recorder. -/
def Orders (order : CallRecordingOrder) (g : Nat) : Prop :=
  ∃ sender what fate, t.item = .message sender (.startRecording order) ∧
    .started what ⟨.group .recording, g⟩ ⟨.ok (), fate⟩ ∈ t.effects site

/-- Whether an artifact is asked for, of what is stopped. -/
def AsksArtifact : Prop :=
  (∃ sender, t.item = .message sender (.stop true)) ∨
    t.before.phase = .active ∧ ∃ sender accountId store,
      t.item = .message sender (.stopRecording accountId store)

/-- Whether a turn puts an end to the recording in flight, by whatever means. -/
def Ends (g : Nat) : Prop :=
  match t.item with
  | .message _ (.stop _) | .message _ .stopGroup | .message _ .destroyGroup => True
  | .message _ (.stopRecording ..) => t.before.phase = .active
  | .message _ .closeSession =>
    t.before.phase = .opening ∨ t.before.phase = .active ∨ t.before.phase = .updating
  | .completion e => e.sink = ⟨.group .recording, g⟩
  | _ => False

end Turn

/-- The first account that was named. -/
def firstAccount {σ : Type} (ts : List (Turn σ)) : Option String := ts.findSome? Turn.account?

/-- The first store that was named. -/
def firstStore {σ : Type} (ts : List (Turn σ)) : Option String := ts.findSome? Turn.store?

/-- After `pre`, the turn `t` is to file the call recording that `order` began with generation `g`. -/
structure Due {σ : Type} (site : Site σ) (pre : List (Turn σ)) (t : Turn σ)
    (order : CallRecordingOrder) (g : Nat) (store : String) : Prop where
  asked : t.AsksArtifact
  active : t.before.desk.leg.active = some ⟨.recording, g⟩
  accepted : ∃ group, .performed (.stop .recording group) (.ok ()) ∈ t.effects site
  ordered : ∃ u ∈ pre, u.Orders site order g
  /-- The store may be named in the turn itself. -/
  supplied : firstStore (pre ++ [t]) = some store

/-- Metadata that tell of a call recording as it was ordered.  The resource has its path below that of
    the account, and the path begins with the version. -/
structure Recording.Metadata.TellsOf (m : Recording.Metadata) (order : CallRecordingOrder)
    (account version : String) : Prop where
  recordingId : m.recordingId = order.recordingId
  callId : m.callId = order.callId
  accountId : m.accountId = account
  apiVersion : m.apiVersion = version
  uri : m.uri = "/" ++ version ++ "/Accounts/" ++ account ++ "/Recordings/" ++ order.recordingId

/-- A call recording that an order begins is remembered. -/
theorem Turned.remembers {σ : Type} {site : Site σ} {w : Surroundings} {p p' : Phase} {l l' : Leg}
    {es : List Effect} {sender : Recipient} {order : CallRecordingOrder}
    (h : Turned site w p l (.message sender (.startRecording order)) p' l' es) {what : Operation}
    {g : Nat} {fate : SinkFate}
    (hm : .started what ⟨.group .recording, g⟩ ⟨.ok (), fate⟩ ∈ es) :
    l'.recording = some (order.recording g w.clock) := by
  obtain ⟨-, -, -, hidle, -, -, -, -, hbegun⟩ := (h.touched .recording).of_started hm
  obtain ⟨hstarted, -⟩ := hbegun rfl
  cases h.recorded with
  | begun sender' m k what' g' fate' hitem hask idle hstart hactive hrecording hfilings =>
    cases hitem
    cases hask
    rw [hstarted] at hactive
    cases hactive
    exact hrecording
  | stopped artifact accountId store hitem hs => cases hitem
  | quieted hitem hactive hrecording hfilings => exact hitem.elim
  | closed hitem hactive hrecording hfilings => rw [hactive] at hstarted; cases hstarted
  | finished e a hitem hcat awaited hl hfilings => cases hitem
  | unmoved hactive hrecording hfilings =>
    rw [hactive, hidle] at hstarted
    cases hstarted

namespace Run

variable {σ : Type} {site : Site σ} {ts : List (Turn σ)} {c : Controller σ}
  {queued : List Completion}

/-- Account and store are the first that were named. -/
theorem supplied (h : Run site ts c queued) :
    c.desk.leg.accountId = firstAccount ts ∧ c.desk.leg.store = firstStore ts := by
  -- by induction on the run: a turn changes neither once it is known
  refine h.invariant
    (P := fun ts _ l => l.accountId = firstAccount ts ∧ l.store = firstStore ts) ⟨rfl, rfl⟩ ?_
  intro ts t queued hbefore ⟨ha, hs⟩
  obtain ⟨hturned, -, -⟩ := Turn.turned (t := t) site hbefore.sound
  obtain ⟨ha', hs'⟩ := hturned.supplied
  have hone : ∀ (f : Turn σ → Option String), (ts ++ [t]).findSome? f = (ts.findSome? f).or (f t) := by
    intro f
    rw [List.findSome?_append, List.findSome?_singleton]
  constructor
  · rw [ha', ha]
    exact (hone Turn.account?).symm
  · rw [hs', hs]
    exact (hone Turn.store?).symm

/-- What is remembered was begun by an order. -/
theorem ordered (h : Run site ts c queued) {r : CallRecording} (hr : c.desk.leg.recording = some r) :
    ∃ t ∈ ts, ∃ order, t.Orders site order r.generation ∧
      r = order.recording r.generation t.before.desk.clock := by
  -- by induction on the run: what is remembered after a turn was so before it, or was begun in it
  refine h.invariant (P := fun ts _ l => l.recording = some r → ∃ t ∈ ts, ∃ order,
    t.Orders site order r.generation ∧ r = order.recording r.generation t.before.desk.clock)
    nofun ?_ hr
  intro ts t queued hbefore ih hr
  obtain ⟨hturned, -, -⟩ := Turn.turned (t := t) site hbefore.sound
  rcases hturned.recorded.source hr with
    hwas | ⟨-, sender, order, what, fate, hitem, hstart, hr⟩
  · obtain ⟨u, hu, hordered⟩ := ih hwas
    exact ⟨u, List.mem_append_left _ hu, hordered⟩
  · exact ⟨t, List.mem_append_right _ (List.mem_singleton_self t), order,
      ⟨sender, what, fate, hitem, ((t.mem_shown site).1 hstart).1⟩, hr⟩

/-- While a recording that an order began is in flight, it is remembered. -/
theorem remembered (h : Run site ts c queued) {u : Turn σ} (hu : u ∈ ts) {order : CallRecordingOrder}
    {g : Nat} (ho : u.Orders site order g) (ha : c.desk.leg.active = some ⟨.recording, g⟩) :
    c.desk.leg.recording = some (order.recording g u.before.desk.clock) := by
  -- by induction on the run: while it is in flight nothing takes the call recording away
  refine h.invariant (P := fun ts _ l => u ∈ ts → l.active = some ⟨.recording, g⟩ →
    l.recording = some (order.recording g u.before.desk.clock)) nofun ?_ hu ha
  intro ts t queued hbefore ih hut hactive
  obtain ⟨sender, what, fate, hitem, hstart⟩ := ho
  obtain ⟨hturned, -, -⟩ := Turn.turned (t := t) site hbefore.sound
  rcases List.mem_append.1 hut with hut | hut
  · -- begun before: what is in flight was so before this turn
    rcases hturned.recorded.active hactive with hwas | ⟨-, what', fate', hstart'⟩
    · exact hturned.recorded.kept (ih hut hwas) hwas hactive
    · have hle := hbefore.started_le hut hstart
      have hnext := (hturned.begins.of_started hstart').1
      dsimp only at hle hnext
      omega
  · -- begun in this turn
    cases List.mem_singleton.1 hut
    rw [hitem] at hturned
    exact hturned.remembers ((u.mem_shown site).2 ⟨hstart, rfl⟩)

/-- The run up to a turn, with the turn. -/
theorem upTo {pre post : List (Turn σ)} {t : Turn σ} (h : Run site (pre ++ t :: post) c queued) :
    ∃ c' queued', Run site (pre ++ [t]) c' queued' ∧ c'.desk.leg = (t.after site).desk.leg := by
  obtain ⟨queued', hbefore, hitem⟩ := h.before
  exact ⟨_, _, .turn pre t.before queued' t.item hbefore hitem, rfl⟩

end Run

/-! ## One turn

Which turns file anything, and which put an end to the recording in flight. -/

section

variable {σ : Type} {site : Site σ} {t : Turn σ} {pre : List (Turn σ)} {order : CallRecordingOrder}
  {g : Nat} {store : String}

/-- The journal is no store. -/
theorem Turn.filingsOf_effects (t : Turn σ) :
    filingsOf (t.effects site) = filingsOf (t.shown site) := t.filterMap_effects site _ fun _ => rfl

/-- Whoever asks for an artifact of a recording in flight stops it. -/
theorem Turn.AsksArtifact.stops (h : t.AsksArtifact)
    (ha : t.before.desk.leg.active = some ⟨.recording, g⟩) :
    ∃ accountId store, Stops t.before.phase t.before.desk.leg t.item true accountId store := by
  obtain ⟨before, item⟩ := t
  rcases h with ⟨sender, rfl⟩ | ⟨hp, sender, accountId, store, rfl⟩
  · refine ⟨none, none, .stop sender true ?_⟩
    rw [show before.desk.leg.active = _ from ha]
    exact Option.some_ne_none _
  · exact ⟨accountId, store, .recording sender accountId store g hp ha⟩

/-- A stop that asks for an artifact is one of two messages. -/
theorem Stops.asksArtifact {accountId store : Option String}
    (h : Stops t.before.phase t.before.desk.leg t.item true accountId store) : t.AsksArtifact := by
  obtain ⟨before, item⟩ := t
  cases h with
  | stop sender artifact ha => exact .inl ⟨sender, rfl⟩
  | recording sender accountId store g hp ha => exact .inr ⟨hp, sender, accountId, store, rfl⟩

/-- Asking for an artifact puts an end to the recording. -/
theorem Turn.AsksArtifact.ends (h : t.AsksArtifact) (g : Nat) : t.Ends g := by
  unfold Turn.Ends
  rcases h with ⟨sender, hitem⟩ | ⟨hp, sender, accountId, store, hitem⟩
  · rw [hitem]
    trivial
  · rw [hitem]
    exact hp

/-- What is filed is the call recording that is settled, in a stop that asks for an artifact. -/
theorem Recorded.filed {reader : Recording.Reader} {settings : Settings} {w : Surroundings} {p : Phase}
    {l l' : Leg} {item : Item} {es : List Effect} (h : Recorded reader settings w p l item l' es)
    (hl : Sound p l)
    {m : Recording.Metadata} (hm : (store, m) ∈ filingsOf es) :
    (∃ accountId store', Stops p l item true accountId store') ∧ l'.store = some store ∧
      ∃ r, Settles l es r := by
  -- only a stop files anything
  cases h with
  | stopped artifact accountId store' hitem hs =>
    have hactive : l.active ≠ none := by
      cases hitem with
      | stop sender artifact ha => exact ha
      | recording sender accountId store' g hp ha => rw [ha]; exact Option.some_ne_none _
    obtain ⟨a, ha⟩ := Option.ne_none_iff_exists'.1 hactive
    obtain ⟨rfl, -, r, account, hsettles, -, hstore, -⟩ := hs.filings hm (hl.busy a ha).1
    refine ⟨⟨accountId, store', hitem⟩, ?_, r, hsettles.active, hsettles.stopped, hsettles.recording⟩
    rcases hs.leg with rfl | rfl <;> exact hstore
  | begun sender m k what g fate hitem hm' idle hstart hactive hrecording hfilings =>
    rw [hfilings] at hm
    cases hm
  | quieted hitem hactive hrecording hfilings => rw [hfilings] at hm; cases hm
  | closed hitem hactive hrecording hfilings => rw [hfilings] at hm; cases hm
  | finished e a hitem hcat awaited hl' hfilings => rw [hfilings] at hm; cases hm
  | unmoved hactive hrecording hfilings => rw [hfilings] at hm; cases hm

/-- An order that begins a generation names its account. -/
theorem Turn.Orders.account? (h : t.Orders site order g) (hs : Sound t.before.phase t.before.desk.leg) :
    t.account? = some order.accountId := by
  obtain ⟨sender, what, fate, hitem, hstart⟩ := h
  obtain ⟨hturned, -, -⟩ := Turn.turned (t := t) site hs
  obtain ⟨-, -, ⟨hp, -⟩, -⟩ :=
    (hturned.touched .recording).of_started ((t.mem_shown site).2 ⟨hstart, rfl⟩)
  unfold Turn.account?
  rw [hitem, hp]
  rfl

/-- What puts an end to the recording in flight lets go of it. -/
theorem Turn.Ends.lets_go (h : t.Ends g) (hs : Sound t.before.phase t.before.desk.leg)
    (ha : t.before.desk.leg.active = some ⟨.recording, g⟩) :
    (t.after site).desk.leg.active ≠ some ⟨.recording, g⟩ := by
  obtain ⟨hturned, -, -⟩ := Turn.turned (t := t) site hs
  have hne : ∀ {o : Option Active}, o = none → o ≠ some ⟨.recording, g⟩ := by
    rintro o rfl
    exact (Option.some_ne_none _).symm
  obtain ⟨before, item⟩ := t
  -- one case for each way to end a recording, in the order of `Turn.Ends`
  cases item with
  | message sender m =>
    cases m with
    | stop artifact =>
      have hstops : Stops before.phase before.desk.leg (.message sender (.stop artifact)) artifact
          none none := .stop sender artifact (by
        rw [show before.desk.leg.active = _ from ha]
        exact Option.some_ne_none _)
      exact hne (hturned.stopped_of_stops hstops).active_none
    | stopRecording accountId store =>
      exact hne (hturned.stopped_of_stops (.recording sender accountId store g h ha)).active_none
    | stopGroup => exact hne (hturned.active_none_of_quiets hs trivial)
    | destroyGroup => exact hne (hturned.active_none_of_quiets hs trivial)
    | closeSession =>
      obtain ⟨-, hreleased, -⟩ := hturned.of_closes ⟨h, sender, rfl⟩
      rw [hreleased]
      exact hne rfl
    | _ => exact h.elim
  | completion e => exact hne (hturned.active_none_of_outcome hs ha h)
  | query n => exact h.elim

end

/-! ## Runs

`Due` is read off the turns alone, while filing goes by what the leg remembers; the two agree. -/

namespace Run

variable {σ : Type} {site : Site σ} {pre post : List (Turn σ)} {t : Turn σ} {c : Controller σ}
  {queued : List Completion}

/-- Only what is due is filed. -/
theorem due_of_filed (h : Run site (pre ++ t :: post) c queued) {store : String}
    {m : Recording.Metadata} (hm : (store, m) ∈ filingsOf (t.effects site)) :
    ∃ order g, Due site pre t order g store := by
  obtain ⟨queued', hbefore, -⟩ := h.before
  obtain ⟨hturned, -, -⟩ := Turn.turned (t := t) site hbefore.sound
  rw [t.filingsOf_effects] at hm
  obtain ⟨⟨accountId, store', hstops⟩, hstore, r, hsettles⟩ := hturned.recorded.filed hbefore.sound hm
  obtain ⟨u, hu, order, hordered, -⟩ := hbefore.ordered hsettles.recording
  obtain ⟨group, hstopped⟩ := hsettles.stopped
  -- the store may have been named in this very turn, so the run is taken with it
  obtain ⟨c', queued'', hafter, hleg⟩ := h.upTo
  refine ⟨order, r.generation, hstops.asksArtifact, hsettles.active,
    ⟨group, ((t.mem_shown site).1 hstopped).1⟩, ⟨u, hu, hordered⟩, ?_⟩
  rw [← hafter.supplied.2, hleg]
  exact hstore

/-- What is due is filed, with what was ordered and what was named first. -/
theorem filed_of_due (h : Run site (pre ++ t :: post) c queued) {order : CallRecordingOrder} {g : Nat}
    {store : String} (hd : Due site pre t order g store) :
    ∃ accountId r m, firstAccount (pre ++ [t]) = some accountId ∧
      t.before.desk.leg.recording = some r ∧
      r.finalize t.before.desk.files accountId site.settings.apiVersion t.before.desk.clock
        site.reader = .ok m ∧
      m.TellsOf order accountId site.settings.apiVersion ∧
      filingsOf (t.effects site) = [(store, m)] := by
  obtain ⟨queued', hbefore, -⟩ := h.before
  obtain ⟨hturned, -, -⟩ := Turn.turned (t := t) site hbefore.sound
  obtain ⟨u, hu, hordered⟩ := hd.ordered
  -- the call recording is remembered, and stopped
  have hremembered := hbefore.remembered hu hordered hd.active
  obtain ⟨accountId', store', hstops⟩ := hd.asked.stops hd.active
  have hstopped := hturned.stopped_of_stops hstops
  have hsettles : Settles (t.before.desk.leg.remember accountId' store') (t.shown site)
      (order.recording g u.before.desk.clock) := by
    obtain ⟨group, hm⟩ := hd.accepted
    exact ⟨hd.active, ⟨group, (t.mem_shown site).2 ⟨hm, rfl⟩⟩, hremembered⟩
  -- account and store are the first that were named, this turn included
  obtain ⟨c', queued'', hafter, hleg⟩ := h.upTo
  obtain ⟨hfirst, hstore⟩ := hafter.supplied
  rw [hleg] at hfirst hstore
  have hkept : (t.after site).desk.leg.accountId =
        (t.before.desk.leg.remember accountId' store').accountId ∧
      (t.after site).desk.leg.store = (t.before.desk.leg.remember accountId' store').store := by
    rcases hstopped.leg with hl | hl <;> rw [hl] <;> exact ⟨rfl, rfl⟩
  rw [hkept.1] at hfirst
  rw [hkept.2, hd.supplied] at hstore
  obtain ⟨accountId, haccount⟩ : ∃ accountId, firstAccount (pre ++ [t]) = some accountId := by
    have hnamed := hordered.account? (hbefore.sound_of_mem hu)
    refine Option.isSome_iff_exists.1 (List.findSome?_isSome_iff.2 ⟨u, List.mem_append_left _ hu, ?_⟩)
    rw [hnamed]
    rfl
  rw [haccount] at hfirst
  obtain ⟨m, hm, hfiled⟩ := hstopped.files hsettles hfirst hstore
  refine ⟨accountId, _, m, haccount, hremembered, hm, ?_, t.filingsOf_effects.trans hfiled⟩
  -- what is handed over has the five particulars, the path among them
  rw [CallRecording.finalize_eq] at hm
  cases hm
  exact ⟨rfl, rfl, rfl, rfl, rfl⟩

/-- What has ended is not due any more. -/
theorem not_due_of_ends (h : Run site (pre ++ t :: post) c queued) {g : Nat}
    (ha : t.before.desk.leg.active = some ⟨.recording, g⟩) (he : t.Ends g) {mid rest : List (Turn σ)}
    {u : Turn σ} (hpost : post = mid ++ u :: rest) (order : CallRecordingOrder) (store : String) :
    ¬ Due site (pre ++ t :: mid) u order g store := by
  intro hd
  obtain ⟨queued₀, hbefore, -⟩ := h.before
  have hts : pre ++ t :: post = (pre ++ t :: mid) ++ u :: rest := by
    rw [hpost, List.append_assoc, List.cons_append]
  rw [hts] at h
  obtain ⟨queued', hlater, -⟩ := h.before
  exact hlater.active_once rfl ha (he.lets_go hbefore.sound ha) hd.active

/-- A recording that was not ordered as a call recording is never due. -/
theorem not_due_of_plain {ts : List (Turn σ)} (h : Run site ts c queued) (ht : t ∈ ts)
    {sender : Recipient} {o : RecordOrder} (hitem : t.item = .message sender (.record o))
    {what : Operation} {g : Nat} {answer : Answer}
    (hm : .started what ⟨.group .recording, g⟩ answer ∈ t.effects site) {pre' post' : List (Turn σ)}
    {u : Turn σ} (hts : ts = pre' ++ u :: post') (order : CallRecordingOrder) (store : String) :
    ¬ Due site pre' u order g store := by
  intro hd
  obtain ⟨v, hv, sender', what', fate, hitem', hm'⟩ := hd.ordered
  obtain ⟨before, between, hpre⟩ := List.append_of_mem hv
  obtain ⟨before', between', hts'⟩ := List.append_of_mem ht
  have htsv : ts = before ++ v :: (between ++ u :: post') := by
    rw [hts, hpre, List.append_assoc, List.cons_append]
  -- both began the one generation, and are one turn
  obtain ⟨-, rfl, -⟩ := h.begun_once hts' htsv hm hm'
  rw [hitem] at hitem'
  cases hitem'

/-- What one order began is due in one turn at most. -/
theorem due_once {ts pre' post' : List (Turn σ)} {t' : Turn σ} (h : Run site ts c queued)
    (hts : ts = pre ++ t :: post) (hts' : ts = pre' ++ t' :: post') {order order' : CallRecordingOrder}
    {g : Nat} {store store' : String} (hd : Due site pre t order g store)
    (hd' : Due site pre' t' order' g store') : pre = pre' ∧ t = t' := by
  -- of two turns the later one finds the recording ended by the earlier
  have hlater : ∀ {pre pre' post post' : List (Turn σ)} {t t' order order' store store'} mid,
      ts = pre ++ t :: post → ts = pre' ++ t' :: post' → pre' = pre ++ t :: mid →
      Due site pre t order g store → ¬ Due site pre' t' order' g store' := by
    intro pre pre' post post' t t' order order' store store' mid heq heq' hmid hd
    have hpost : post = mid ++ t' :: post' := by
      rw [heq, hmid, List.append_assoc, List.cons_append] at heq'
      exact (List.cons.inj (List.append_cancel_left heq')).2
    rw [hmid]
    exact (heq ▸ h).not_due_of_ends hd.active (hd.asked.ends g) hpost order' store'
  rcases List.append_eq_append_iff.1 (hts.symm.trans hts') with ⟨xs, hxs, heq⟩ | ⟨xs, hxs, heq⟩
  · cases xs with
    | nil =>
      cases heq
      exact ⟨(hxs.trans (List.append_nil pre)).symm, rfl⟩
    | cons x xs =>
      cases heq
      exact absurd hd' (hlater xs hts hts' hxs hd)
  · cases xs with
    | nil =>
      cases heq
      exact ⟨hxs.trans (List.append_nil pre'), rfl⟩
    | cons x xs =>
      cases heq
      exact absurd hd (hlater xs hts' hts hxs hd')

end Run

namespace Sample

/-- A call up to the order that it be recorded. -/
def recording : List (Turn Unit) :=
  [⟨fresh, create⟩, ⟨offered, .completion offer⟩, ⟨active, group⟩, ⟨grouped, record⟩]

def stopRecording : Item := .message call (.stopRecording none none)

end Sample

section

variable {σ : Type} {site : Site σ} {ts pre post : List (Turn σ)} {t : Turn σ} {c : Controller σ}
  {queued : List Completion}

/-- In every turn of every run a call recording is filed exactly if it is due; then once, with the first
    account and the first store that were named, and its metadata are complete.  What one order began is
    filed once at most; what has ended in whatever way is not filed later; and a recording that was not
    ordered as a call recording never is. -/
theorem call_recordings_filed (h : Run site ts c queued) (hts : ts = pre ++ t :: post) :
    (∀ store m, (store, m) ∈ filingsOf (t.effects site) →
      ∃ order g, Due site pre t order g store) ∧
    (∀ order g store, Due site pre t order g store →
      ∃ accountId r m, firstAccount (pre ++ [t]) = some accountId ∧
        t.before.desk.leg.recording = some r ∧
        r.finalize t.before.desk.files accountId site.settings.apiVersion t.before.desk.clock
        site.reader = .ok m ∧
        m.TellsOf order accountId site.settings.apiVersion ∧
        filingsOf (t.effects site) = [(store, m)]) ∧
    (∀ order order' g store store' pre' t' post', ts = pre' ++ t' :: post' →
      Due site pre t order g store → Due site pre' t' order' g store' → pre = pre' ∧ t = t') ∧
    (∀ g, t.before.desk.leg.active = some ⟨.recording, g⟩ → t.Ends g →
      ∀ mid u rest, post = mid ++ u :: rest → ∀ order store,
        ¬ Due site (pre ++ t :: mid) u order g store) ∧
    (∀ sender o what g answer, t.item = .message sender (.record o) →
      .started what ⟨.group .recording, g⟩ answer ∈ t.effects site →
      ∀ pre' u post', ts = pre' ++ u :: post' → ∀ order store, ¬ Due site pre' u order g store) := by
  have hrun : Run site (pre ++ t :: post) c queued := hts ▸ h
  refine ⟨fun store m hm => hrun.due_of_filed hm, fun order g store hd => hrun.filed_of_due hd, ?_,
    ?_, ?_⟩
  · intro order order' g store store' pre' t' post' hts' hd hd'
    exact h.due_once hts hts' hd hd'
  · intro g ha he mid u rest hpost order store
    exact hrun.not_due_of_ends ha he hpost order store
  · intro sender o what g answer hitem hm pre' u post' hts' order store
    refine h.not_due_of_plain ?_ hitem hm hts' order store
    rw [hts]
    exact List.mem_append_right _ List.mem_cons_self

/-- A call is recorded and the recording stopped: it is due, and filed in the store that was named when
    it was started, under the path that version, account and recording make. -/
theorem call_recordings_filed_stopped :
    ∃ order m,
      Run Sample.site (Sample.recording ++ [⟨Sample.recorded, Sample.stopRecording⟩])
        (Sample.handled Sample.recorded Sample.stopRecording) [] ∧
      Due Sample.site Sample.recording ⟨Sample.recorded, Sample.stopRecording⟩ order 1 "store" ∧
      filingsOf (Turn.effects Sample.site ⟨Sample.recorded, Sample.stopRecording⟩) =
        [("store", m)] ∧ m.TellsOf order "account" Sample.site.settings.apiVersion ∧
      m.uri = "/2012-04-24/Accounts/account/Recordings/recording" := by
  have hrun : Run Sample.site (Sample.recording ++ [⟨Sample.recorded, Sample.stopRecording⟩])
      (Sample.handled Sample.recorded Sample.stopRecording) [] :=
    .turn _ Sample.recorded [] Sample.stopRecording Sample.run_recorded nofun
  have hordered : Turn.Orders Sample.site ⟨Sample.grouped, Sample.record⟩ Sample.order 1 :=
    ⟨Sample.call, _, .held, rfl, List.mem_of_getElem? (i := 2) rfl⟩
  have hdue : Due Sample.site Sample.recording ⟨Sample.recorded, Sample.stopRecording⟩ Sample.order 1
      "store" :=
    { asked := .inr ⟨rfl, Sample.call, none, none, rfl⟩
      active := rfl
      accepted := ⟨⟨"1"⟩, List.mem_of_getElem? (i := 2) rfl⟩
      ordered := ⟨_, List.mem_of_getElem? (i := 3) rfl, hordered⟩
      supplied := rfl }
  have hlast : Sample.recording ++ [⟨Sample.recorded, Sample.stopRecording⟩] =
      Sample.recording ++ ⟨Sample.recorded, Sample.stopRecording⟩ :: [] := rfl
  obtain ⟨-, hfiled, -⟩ := call_recordings_filed hrun hlast
  obtain ⟨accountId, r, m, haccount, -, -, htells, hfiling⟩ := hfiled _ _ _ hdue
  cases haccount
  exact ⟨Sample.order, m, hrun, hdue, hfiling, htells, htells.uri.trans (by decide)⟩

end

end CallMedia
