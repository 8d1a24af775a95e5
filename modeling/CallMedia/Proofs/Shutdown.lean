/-
  The end of a service.

  A controller ends once its inbox is empty and nobody is left who could send: no caller, no handle, and
  no sink.  It could bring about new sinks itself, so that a shrinking inbox alone would not do.  What
  carries the proof is that nobody who could send ever comes back (`Stage.reachable_after`): a slot
  cannot be armed any more, so that no operation is started and no sink is handed over (`Turn.Shut`).

  From then on nothing enters the inbox.  What the controller has yet to do is counted (`Stage.left`);
  each of its moves takes one off, no other move adds to it, and as long as the controller is there it
  can move (`Stage.left_after`, `Stage.can_move`).  So it ends, having handled what was queued, in order
  (`ShutDown`).
-/
import CallMedia.Proofs.Generations
import CallMedia.Proofs.Moves

namespace CallMedia

/-! ## Where the inbox is closed

A slot is armed only if the inbox is open, that is, if somebody could send.  So each relation that
describes a step of a turn has one outcome left. -/

section

variable {w : Surroundings} {l l₀ l' : Leg} {es : List Effect}

/-- Nothing can be launched: the launch fails before the media server is asked. -/
theorem Launched.shut {c : Category} {what : Operation} {result : Except Fault Nat}
    (h : Launched w l c what result l' es) (hopen : w.inboxOpen = false) :
    result = .error .channelClosed ∧ l' = l ∧ es = [] := by
  cases h with
  | closed hshut => exact ⟨rfl, rfl, rfl⟩
  | refused e fate hopen' => exact absurd (hopen.symm.trans hopen') Bool.false_ne_true
  | accepted fate hopen' => exact absurd (hopen.symm.trans hopen') Bool.false_ne_true

/-- Nothing can be negotiated: the call is told that nobody is left. -/
theorem Negotiates.shut {what : Operation} (h : Negotiates w l what l' es)
    (hopen : w.inboxOpen = false) :
    l' = l ∧ es = w.tellingCall l (.failure .channelClosed) := by
  cases h with
  | begun g l' es hl => cases (hl.shut hopen).1
  | failed e l' es hl =>
    obtain ⟨he, rfl, rfl⟩ := hl.shut hopen
    cases he
    exact ⟨rfl, rfl⟩

/-- A session is not opened: the call is told which allocation failed, or that nobody is left. -/
theorem Opened.shut {call : Recipient} (h : Opened w l l' es) (hopen : w.inboxOpen = false)
    (hcall : l.call = some call) :
    sinksOf es = [] ∧ ∃ e, noticesOf es = [(call, .failure e)] ∧
      (e = .channelClosed ∨ ∃ what, .created what (.error e) ∈ es) := by
  have htold : ∀ n, sinksOf (w.tellingCall l n) = [] := fun n => sinksOf_telling w _ n
  -- an allocation may have failed before the launch was tried
  cases h with
  | noSession e =>
    exact ⟨htold _, e, w.noticesOf_tellingCall hcall _, .inr ⟨_, List.mem_cons_self⟩⟩
  | noConnection name e =>
    exact ⟨htold _, e, w.noticesOf_tellingCall hcall _,
      .inr ⟨_, List.mem_cons_of_mem _ List.mem_cons_self⟩⟩
  | negotiates name name' l' es hn =>
    obtain ⟨-, rfl⟩ := hn.shut hopen
    exact ⟨htold _, .channelClosed, w.noticesOf_tellingCall hcall _, .inl rfl⟩

/-- An activity that is asked for is not started: the observers are told that nobody is left, or why
    the digits that were buffered could not be discarded. -/
theorem Attempted.shut {a : Activity} {what : GroupHandle → Operation} {sender : Recipient}
    {r : Option Nat} {group : GroupHandle} (h : Attempted w a what sender l l₀ r l' es)
    (hopen : w.inboxOpen = false) (hidle : l.idleGroup a = .ok group) :
    l'.active = l₀.active ∧ ∃ e,
      noticesOf es = l₀.observers.toList.map (fun o => (o, .operationResult a (.error e))) ∧
      (e = .channelClosed ∨
        a = .digitCollection ∧ .performed (.flushDigits group) (.error e) ∈ es) := by
  cases h with
  | unfit e idle => cases hidle.symm.trans idle
  | unprepared group' e idle digits =>
    cases hidle.symm.trans idle
    exact ⟨rfl, e, w.noticesOf_telling _ _, .inr ⟨digits, List.mem_cons_self⟩⟩
  | closed group' idle hopen' =>
    refine ⟨rfl, .channelClosed, ?_, .inl rfl⟩
    rw [noticesOf_append, noticesOf_prepared]
    exact w.noticesOf_telling _ _
  | refused group' e fate idle hopen' => exact absurd (hopen.symm.trans hopen') Bool.false_ne_true
  | accepted group' fate idle hopen' => exact absurd (hopen.symm.trans hopen') Bool.false_ne_true

/-- An activity that is not started hands over no sink. -/
theorem Attempted.sinksOf_shut {a : Activity} {what : GroupHandle → Operation} {sender : Recipient}
    {r : Option Nat} (h : Attempted w a what sender l l₀ r l' es) (hopen : w.inboxOpen = false) :
    sinksOf es = [] := by
  cases h with
  | unfit e idle => rfl
  | unprepared group e idle digits => exact sinksOf_telling w _ _
  | closed group idle hopen' =>
    rw [sinksOf_append, sinksOf_prepared]
    exact sinksOf_telling w _ _
  | refused group e fate idle hopen' => exact absurd (hopen.symm.trans hopen') Bool.false_ne_true
  | accepted group fate idle hopen' => exact absurd (hopen.symm.trans hopen') Bool.false_ne_true

/-- No turn hands a sink over. -/
theorem Turned.sinksOf_shut {σ : Type} {site : Site σ} {p p' : Phase} {item : Item}
    (h : Turned site w p l item p' l' es) (hopen : w.inboxOpen = false) : sinksOf es = [] := by
  have htold : ∀ (rs : List Recipient) n, sinksOf (rs.map fun r => w.telling r n) = [] :=
    fun rs n => sinksOf_telling w rs n
  -- only four kinds of turn launch anything; the others ask for nothing that a sink belongs to
  cases h with
  | opened sender outbound mode sdp l' es hp ho => exact (ho.shut hopen rfl).1
  | closed sender es hp hr =>
    rw [sinksOf_append]
    cases hr with
    | nothing hs => exact htold _ _
    | released s answer hs => exact htold _ _
  | updated sender sdp k l' es hp hk hn =>
    obtain ⟨-, rfl⟩ := hn.shut hopen
    exact htold _ _
  | agreed g o localSdp hp awaited ho => exact htold _ _
  | broke g o fault hp awaited ho => exact htold _ _
  | groupCreated sender l' es hg hc => cases hc <;> rfl
  | groupDestroyed sender l' es hd => cases hd <;> rfl
  | groupStopped sender es hs => exact hs.sinksOf
  | attempted sender m k r l' es hp hm ht => exact ht.sinksOf_shut hopen
  | stopped sender artifact l' es ha hs => exact hs.sinksOf
  | stoppedRecording sender accountId store g l' es hp ha hs => exact hs.sinksOf
  | joined sender m mixer l' es hp hm hj => cases hj <;> exact htold _ _
  | left sender l' es hp hc hl =>
    cases hl with
    | left k mixer hk hm => rfl
    | refused k mixer e hk hm => exact htold _ _
  | finished e a result hcat awaited hr => exact htold _ _
  | _ => rfl

end

/-! ## Turns of which nothing can come

`Turn.Shut` says this of a whole turn, for every item. -/

section

variable {σ : Type} {site : Site σ} {t : Turn σ}

/-- What a turn cannot do when nobody is left who could send. -/
structure Turn.Shut (site : Site σ) (t : Turn σ) : Prop where
  /-- Nobody could send, before the turn or after it. -/
  closed : t.before.desk.inboxOpen = false ∧ (t.after site).desk.inboxOpen = false
  /-- Wherever an operation is launched on the way, its slot cannot be armed. -/
  arms : ∀ d shown shown', t.before.desk.Goes shown d → d.Goes shown' (t.after site).desk →
    ∀ what : Operation, (d.leg.slot what.category).arm d.inboxOpen = none ∧
      d.launch site what = (.error .channelClosed, d)
  /-- Nothing is started. -/
  starts : ∀ what sink answer, .started what sink answer ∉ t.effects site
  /-- A session is not opened. -/
  opens : ∀ sender outbound mode sdp,
    t.item = .message sender (.createSession outbound mode sdp) → t.before.phase = .uninitialized →
    ∃ e, noticesOf (t.effects site) = [(sender, .failure e)] ∧
      (e = .channelClosed ∨ ∃ what, .created what (.error e) ∈ t.effects site)
  /-- Nor is it renegotiated. -/
  updates : ∀ sender sdp, t.item = .message sender (.updateSession sdp) → t.before.phase = .active →
    noticesOf (t.effects site) =
      t.before.desk.leg.call.toList.map (fun r => (r, .failure .channelClosed))
  /-- An activity that passes its guard fails, and the observers hear of it. -/
  attempts : ∀ sender m k group, t.item = .message sender m → t.before.phase = .active →
    m.ask? site.settings = some k → t.before.desk.leg.idleGroup k.activity = .ok group →
    (t.after site).desk.leg.active = none ∧ ∃ e,
      noticesOf (t.effects site) = t.before.desk.leg.observers.toList.map
        (fun o => (o, .operationResult k.activity (.error e))) ∧
      (e = .channelClosed ∨ k.activity = .digitCollection ∧
        .performed (.flushDigits group) (.error e) ∈ t.effects site)

/-- Where nobody can send there are neither callers nor sinks. -/
theorem Desk.inboxOpen_eq_false_iff {d : Desk σ} :
    d.inboxOpen = false ↔ d.callers = 0 ∧ d.sinks = [] := by
  unfold Desk.inboxOpen
  rw [Bool.or_eq_false_iff, decide_eq_false_iff_not, Nat.not_lt, Nat.le_zero, Bool.not_eq_false',
    List.isEmpty_iff]

/-- At the desk likewise: the slot refuses to be armed, and the desk stays as it is. -/
theorem Desk.launch_shut {d : Desk σ} (h : d.inboxOpen = false) (what : Operation) :
    (d.leg.slot what.category).arm d.inboxOpen = none ∧
      d.launch site what = (.error .channelClosed, d) := by
  have harm : (d.leg.slot what.category).arm d.inboxOpen = none := by
    rw [h]
    rfl
  refine ⟨harm, ?_⟩
  unfold Desk.launch
  dsimp only
  rw [harm]

/-- Where no sink is handed over, none is kept, and none is used at once. -/
theorem kept_of_sinksOf {es : List Effect} (h : sinksOf es = []) :
    es.filterMap Effect.held? = [] ∧ es.filterMap Effect.reported? = [] := by
  have hnone := List.filterMap_eq_nil_iff.1 h
  constructor
  · refine List.filterMap_eq_nil_iff.2 fun e he => ?_
    cases e with
    | started what sink answer => exact absurd (hnone _ he) (Option.some_ne_none sink)
    | _ => rfl
  · refine List.filterMap_eq_nil_iff.2 fun e he => ?_
    cases e with
    | started what sink answer => exact absurd (hnone _ he) (Option.some_ne_none sink)
    | _ => rfl

/-- If nobody could send before a turn, nothing can come of it. -/
theorem Turn.shut (hs : Sound t.before.phase t.before.desk.leg)
    (hclosed : t.before.desk.inboxOpen = false) : t.Shut site := by
  obtain ⟨hturned, hgo, -⟩ := Turn.turned site hs
  have hnone : sinksOf (t.shown site) = [] := hturned.sinksOf_shut hclosed
  have hkept := (kept_of_sinksOf hnone).1
  have hshown : ∀ e : Effect, e ∈ t.shown site → e ∈ t.effects site :=
    fun e he => ((t.mem_shown site).1 he).1
  have hafter : (t.after site).desk.inboxOpen = false :=
    (congrArg Surroundings.inboxOpen (hgo.surroundings hkept)).trans hclosed
  refine
    { closed := ⟨hclosed, hafter⟩
      arms := fun d shown shown' hto hfrom what => Desk.launch_shut ?_ what
      starts := fun what sink answer hstart => ?_
      opens := fun sender outbound mode sdp hitem hp => ?_
      updates := fun sender sdp hitem hp => ?_
      attempts := fun sender m k group hitem hp hk hidle => ?_ }
  · -- the sinks on the way are among those in the end
    obtain ⟨hcallers, hsinks⟩ := Desk.inboxOpen_eq_false_iff.1 hafter
    rw [hfrom.callers] at hcallers
    rw [hfrom.sinks] at hsinks
    exact Desk.inboxOpen_eq_false_iff.2 ⟨hcallers, (List.append_eq_nil_iff.1 hsinks).1⟩
  · have hsink := mem_sinksOf ((t.mem_shown site).2 ⟨hstart, rfl⟩)
    rw [hnone] at hsink
    cases hsink
  · rw [hitem, hp] at hturned
    obtain ⟨-, hopened⟩ := hturned.of_create
    obtain ⟨-, e, hnotices, hwhy⟩ := hopened.shut hclosed rfl
    refine ⟨e, (t.noticesOf_effects site).trans hnotices, hwhy.imp_right ?_⟩
    rintro ⟨what, hwhat⟩
    exact ⟨what, hshown _ hwhat⟩
  · rw [hitem, hp] at hturned
    obtain ⟨-, k, -, hn⟩ := hturned.of_update
    obtain ⟨-, hes⟩ := hn.shut hclosed
    rw [t.noticesOf_effects, hes]
    exact Surroundings.noticesOf_telling _ _ _
  · rw [hitem, hp] at hturned
    obtain ⟨-, r, l₁, ht, hleg⟩ := hturned.of_ask hk
    obtain ⟨hactive, e, hnotices, hwhy⟩ := ht.shut hclosed hidle
    refine ⟨?_, e, (t.noticesOf_effects site).trans hnotices,
      hwhy.imp_right fun ⟨ha, hm⟩ => ⟨ha, hshown _ hm⟩⟩
    obtain ⟨recording, hkept⟩ := k.kept_cases t.before.desk.surroundings.clock l₁ r
    rw [hleg, hkept]
    exact hactive.trans (Leg.idleGroup_eq_ok hidle).2

/-- Of such a turn nothing is completed on the spot. -/
theorem Turn.Shut.reports_nothing (h : t.Shut site) :
    (t.effects site).filterMap Effect.reported? = [] := by
  refine (kept_of_sinksOf (List.filterMap_eq_nil_iff.2 fun e he => ?_)).2
  cases e with
  | started what sink answer => exact absurd he (h.starts what sink answer)
  | _ => rfl

end

/-! ## What the controller has yet to do

The measure that decreases: two moves for every item in the inbox, one for the item in hand, and one
each to begin and to end. -/

/-- How many moves a controller needs to begin and to end. -/
def Life.left : Life → Nat
  | .ready => 2
  | .running => 1
  | .ended | .killed => 0

/-- Whether the controller itself makes a move. -/
def Move.own {σ : Type} : Move σ → Bool
  | .begin | .take | .handle | .finish => true
  | _ => false

namespace Stage

variable {σ : Type}

/-- The items that the controller has yet to handle, in order. -/
def pending (st : Stage σ) : List Item := st.inHand.toList ++ st.service.inbox.items

/-- How many moves the controller needs if nothing enters: it takes and handles each item. -/
def left (st : Stage σ) : Nat :=
  st.service.life.left + 2 * st.service.inbox.items.length + st.inHand.toList.length

/-- A controller that has ended with nothing pending has nothing to do. -/
theorem left_eq_zero {st : Stage σ} (hended : st.service.life = .ended) (h : st.pending = []) :
    st.left = 0 := by
  obtain ⟨hhand, hitems⟩ := List.append_eq_nil_iff.1 h
  unfold left
  rw [hended, hhand, hitems]
  rfl

/-- A controller with nothing to do is not there any more. -/
theorem life_of_left {st : Stage σ} (h : st.left = 0) :
    st.service.life = .ended ∨ st.service.life = .killed := by
  have hlife : st.service.life.left = 0 := by
    unfold left at h
    omega
  cases hl : st.service.life with
  | ready => rw [hl] at hlife; cases hlife
  | running => rw [hl] at hlife; cases hlife
  | ended => exact .inl rfl
  | killed => exact .inr rfl

/-- As long as the controller is there it can move. -/
theorem can_move {st : Stage σ} (h : st.service.isOpen = true) :
    ∃ move : Move σ, move.own = true ∧ st.Allows move := by
  cases hlife : st.service.life with
  | ready => exact ⟨.begin, rfl, hlife⟩
  | running =>
    -- a running controller handles what it has in hand, or takes the next item, or is done
    by_cases hhand : st.inHand = none
    · by_cases hitems : st.service.inbox.items = []
      · exact ⟨.finish, rfl, hlife, hhand, hitems⟩
      · exact ⟨.take, rfl, hlife, hhand, hitems⟩
    · exact ⟨.handle, rfl, hlife, hhand⟩
  | ended =>
    unfold Service.isOpen at h
    rw [hlife] at h
    cases h
  | killed =>
    unfold Service.isOpen at h
    rw [hlife] at h
    cases h

end Stage

/-! ## Nobody comes back

The step lemmas.  Once nobody is left, a move is the controller's own, or changes only what is around
the desk, or throws the controller away. -/

/-- A service is out of reach once its handle is dropped and both callers and sinks are gone. -/
theorem Service.reachable_eq_false_iff {σ : Type} {s : Service σ} :
    s.reachable = false ↔
      s.handle = false ∧ s.callers = [] ∧ s.controller.desk.sinks = [] := by
  unfold Service.reachable Service.callerCount
  rw [Bool.or_eq_false_iff, decide_eq_false_iff_not, Bool.not_eq_false', List.isEmpty_iff]
  cases s.handle with
  | true => simp
  | false => simp [List.length_eq_zero_iff]

namespace Stage

variable {σ : Type} {site : Site σ} {hs : List (Happening σ)} {st : Stage σ} {move : Move σ}

/-- Where nobody is left, only the controller moves, or what is around it, unless it is thrown away. -/
theorem moves_shut (hd : st.service.reachable = false) (hallowed : st.Allows move) :
    move.own = true ∨ move = .kill ∨ ∃ desk, move = .around desk := by
  obtain ⟨hhandle, hcallers, hsinks⟩ := Service.reachable_eq_false_iff.1 hd
  have hcount : st.service.callerCount = 0 := by
    unfold Service.callerCount
    rw [hhandle, hcallers]
    rfl
  have hnobody : ∀ number, ¬ (st.service.caller? number).isSome := by
    intro number
    unfold Service.caller?
    rw [hcallers]
    exact Bool.false_ne_true
  -- every other move needs a handle, a caller or a sink
  cases move with
  | begin => exact .inl rfl
  | take => exact .inl rfl
  | handle => exact .inl rfl
  | finish => exact .inl rfl
  | kill => exact .inr (.inl rfl)
  | around desk => exact .inr (.inr ⟨desk, rfl⟩)
  | ask number request =>
    have hpos : 0 < st.service.callerCount := hallowed
    rw [hcount] at hpos
    cases hpos
  | share =>
    have hpos : 0 < st.service.callerCount := hallowed
    rw [hcount] at hpos
    cases hpos
  | look number => exact absurd hallowed (hnobody number)
  | cancel number => exact absurd hallowed (hnobody number)
  | complete sink outcome =>
    have hmem : sink ∈ st.service.controller.desk.sinks := hallowed
    rw [hsinks] at hmem
    cases hmem
  | dropSink sink =>
    have hmem : sink ∈ st.service.controller.desk.sinks := hallowed
    rw [hsinks] at hmem
    cases hmem
  | dropHandle => exact absurd (hhandle.symm.trans hallowed) Bool.false_ne_true

/-- A turn in which nobody is left who could send. -/
theorem turn_shut (hserved : Served site hs st) (hd : st.service.reachable = false) {t : Turn σ}
    (ht : Happening.turn? ⟨st, move⟩ = some t) : t.Shut site := by
  obtain ⟨hhandle, hcallers, hsinks⟩ := Service.reachable_eq_false_iff.1 hd
  obtain ⟨queued, hrun, -⟩ := hserved.follows
  cases move with
  | handle =>
    obtain ⟨item, hhand, rfl⟩ := Option.map_eq_some_iff.1 ht
    refine Turn.shut hrun.sound (Desk.inboxOpen_eq_false_iff.2 ⟨?_, hsinks⟩)
    show st.service.callerCount = 0
    unfold Service.callerCount
    rw [hhandle, hcallers]
    rfl
  | _ => cases ht

/-- Once nobody is left nobody comes back, and the inbox keeps what it has. -/
theorem reachable_after (hserved : Served site hs st) (hd : st.service.reachable = false)
    (hallowed : st.Allows move) :
    (Happening.after site ⟨st, move⟩).service.reachable = false ∧
      (Happening.after site ⟨st, move⟩).service.inbox.items = (Happening.mk st move).kept := by
  unfold Happening.after
  rcases moves_shut hd hallowed with hown | rfl | ⟨desk, rfl⟩
  · -- of the controller's own moves only a turn could bring a sink about
    cases move with
    | begin =>
      show st.service.begin.reachable = false ∧ st.service.begin.inbox.items = _
      unfold Service.begin
      split <;> exact ⟨hd, rfl⟩
    | take =>
      unfold act Happening.kept
      dsimp only
      cases htake : st.service.inbox.take with
      | none => exact absurd (Inbox.items_of_take_none htake) hallowed.2.2
      | some taken =>
        dsimp only
        rw [Inbox.items_take htake]
        exact ⟨hd, rfl⟩
    | handle =>
      obtain ⟨item, hhand⟩ := Option.ne_none_iff_exists'.1 hallowed.2
      have hshut := turn_shut hserved hd (Happening.turn?_handle hhand)
      obtain ⟨queued, hrun, -⟩ := hserved.follows
      obtain ⟨hhandle, hcallers, -⟩ := Service.reachable_eq_false_iff.1 hd
      have hitems := Service.items_handleItem site hrun.sound hrun.posted item
      rw [hshut.reports_nothing, List.map_nil, List.append_nil] at hitems
      unfold act
      rw [hhand]
      refine ⟨Service.reachable_eq_false_iff.2 ⟨?_, ?_, ?_⟩, hitems⟩
      · cases item <;> exact hhandle
      · cases item with
        | query number => exact List.map_eq_nil_iff.2 hcallers
        | message sender m => exact hcallers
        | completion e => exact hcallers
      · have hsinks := (Desk.inboxOpen_eq_false_iff.1 hshut.closed.2).2
        cases item <;> exact hsinks
    | finish =>
      show st.service.endIfOver.reachable = false ∧ st.service.endIfOver.inbox.items = _
      unfold Service.endIfOver
      split <;> exact ⟨hd, rfl⟩
    | _ => cases hown
  · show st.service.kill.reachable = false ∧ st.service.kill.inbox.items = []
    rw [Service.kill_of_open hallowed]
    exact ⟨hd, Inbox.items_abandon _⟩
  · obtain ⟨hhandle, hcallers, hsinks⟩ := Service.reachable_eq_false_iff.1 hd
    exact ⟨Service.reachable_eq_false_iff.2 ⟨hhandle, hcallers, hallowed.2.1.trans hsinks⟩, rfl⟩

/-- Once nobody is left, no move lets anything in. -/
theorem entered_shut (hserved : Served site hs st) (hd : st.service.reachable = false)
    (hallowed : st.Allows move) : Happening.entered site ⟨st, move⟩ = [] := by
  unfold Happening.entered
  rw [(reachable_after hserved hd hallowed).2]
  exact List.drop_length

/-- The controller handles the items that are left, from the front. -/
theorem pending_after (hserved : Served site hs st) (hd : st.service.reachable = false)
    (hallowed : st.Allows move) (hkill : move ≠ .kill) :
    st.pending = ((Happening.turn? ⟨st, move⟩).map Turn.item).toList ++
      (Happening.after site ⟨st, move⟩).pending := by
  have horder := (Stage.moved site hallowed).order hkill
  rw [entered_shut hserved hd hallowed, List.append_nil] at horder
  exact horder

/-- Each move of the controller takes one off what it has yet to do, and no other adds to it. -/
theorem left_after (hserved : Served site hs st) (hd : st.service.reachable = false)
    (hallowed : st.Allows move) (hkill : move ≠ .kill) :
    (Happening.after site ⟨st, move⟩).left + move.own.toNat = st.left := by
  have hitems := (reachable_after hserved hd hallowed).2
  unfold left
  rw [hitems]
  unfold Happening.after
  rcases moves_shut hd hallowed with hown | rfl | ⟨desk, rfl⟩
  · -- the life counts the first move and the last, each item two in between
    cases move with
    | begin =>
      have hready : st.service.life = .ready := hallowed
      have hlife : (st.act site .begin).2.service.life = .running :=
        Service.life_begin_of_ready hready
      rw [hlife, hready]
      show 1 + 2 * st.service.inbox.items.length + st.inHand.toList.length + 1 =
        2 + 2 * st.service.inbox.items.length + st.inHand.toList.length
      omega
    | take =>
      obtain ⟨-, hhand, hsome⟩ := hallowed
      unfold act Happening.kept
      dsimp only
      cases htake : st.service.inbox.take with
      | none => exact absurd (Inbox.items_of_take_none htake) hsome
      | some taken =>
        rw [hhand, Inbox.items_take htake, List.tail_cons, List.length_cons]
        show st.service.life.left + 2 * taken.2.items.length + 1 + 1 =
          st.service.life.left + 2 * (taken.2.items.length + 1) + 0
        omega
    | handle =>
      obtain ⟨item, hhand⟩ := Option.ne_none_iff_exists'.1 hallowed.2
      unfold act Happening.kept
      rw [hhand]
      have hlife : (st.service.handleItem site item).life = st.service.life := by
        cases item <;> rfl
      show (st.service.handleItem site item).life.left + _ + 0 + 1 = _ + _ + 1
      rw [hlife]
    | finish =>
      obtain ⟨hrunning, hhand, hnil⟩ := hallowed
      have hlife : (st.act site .finish).2.service.life = .ended :=
        Service.life_endIfOver ⟨hrunning, hnil, hd⟩
      rw [hlife, hrunning]
      show 0 + 2 * st.service.inbox.items.length + st.inHand.toList.length + 1 =
        1 + 2 * st.service.inbox.items.length + st.inHand.toList.length
      omega
    | _ => cases hown
  · exact absurd rfl hkill
  · rfl

/-- What is not thrown away stays so. -/
theorem not_killed_after (hallowed : st.Allows move) (hkill : move ≠ .kill)
    (hlife : st.service.life ≠ .killed) :
    (Happening.after site ⟨st, move⟩).service.life ≠ .killed := by
  intro hkilled
  rcases life_after site hallowed with hsame | ⟨-, hrunning⟩ | ⟨-, -, -, -, hended⟩ | ⟨hk, -⟩
  · exact hlife (hsame.symm.trans hkilled)
  · cases hrunning.symm.trans hkilled
  · cases hended.symm.trans hkilled
  · exact hkill hk

end Stage

/-! ## The end

The run lemmas, by induction over the moves that follow. -/

section

variable {σ : Type} {site : Site σ} {hs : List (Happening σ)} {st : Stage σ}

/-- A controller ends when nobody is left who could send, and nothing is left to handle. -/
theorem Served.returned (h : Served site hs st) (hended : st.service.life = .ended) :
    st.service.reachable = false ∧ st.pending = [] := by
  induction h with
  | start outside files s h =>
    rw [Service.eq_of_new? h] at hended
    cases hended
  | next hs st move h hallowed hfresh ih =>
    -- it ended just now, or had ended before
    have hbefore : st.service.reachable = false ∧ st.pending = [] := by
      rcases Stage.life_after site hallowed with hsame | ⟨-, hrunning⟩ |
        ⟨-, hhand, hitems, hd, -⟩ | ⟨-, -, hkilled⟩
      · exact ih (hsame.symm.trans hended)
      · cases hrunning.symm.trans hended
      · refine ⟨hd, ?_⟩
        unfold Stage.pending
        rw [hhand, hitems]
        rfl
      · cases hkilled.symm.trans hended
    obtain ⟨hd, hpending⟩ := hbefore
    have hkill : move ≠ .kill := by
      rintro rfl
      have hkilled : st.service.kill.life = .ended := hended
      rw [Service.kill_of_open hallowed] at hkilled
      cases hkilled
    have hafter := Stage.pending_after h hd hallowed hkill
    rw [hpending] at hafter
    exact ⟨(Stage.reachable_after h hd hallowed).1, (List.append_eq_nil_iff.1 hafter.symm).2⟩

/-- Once nobody is left no request is made. -/
theorem Served.next_shut (h : Served site hs st) (hd : st.service.reachable = false) {move : Move σ}
    (hallowed : st.Allows move) :
    Served site (hs ++ [⟨st, move⟩]) (Happening.after site ⟨st, move⟩) := by
  refine .next hs st move h hallowed ?_
  rintro number request rfl
  rcases Stage.moves_shut hd hallowed with hown | hkill | ⟨desk, hdesk⟩
  · cases hown
  · cases hkill
  · cases hdesk

/-- Once nobody is left, whatever happens next leaves it at that. -/
theorem Served.unreached (h : Served site hs st) (hd : st.service.reachable = false)
    (moves : List (Move σ)) (hallowed : st.AllowsAll site moves) :
    Served site (hs ++ (st.through site moves).1) (st.through site moves).2 ∧
      (st.through site moves).2.service.reachable = false ∧
      entriesOf site (st.through site moves).1 = [] ∧
      ∀ t ∈ turnsOf (st.through site moves).1, t.Shut site := by
  -- `reachable` stays false, so that each further move finds the same situation
  induction moves generalizing hs st with
  | nil => exact ⟨(List.append_nil hs).symm ▸ h, hd, rfl, List.forall_mem_nil _⟩
  | cons move moves ih =>
    obtain ⟨hmove, hmoves⟩ := hallowed
    obtain ⟨hserved, hlast, hentries, hturns⟩ :=
      ih (h.next_shut hd hmove) (Stage.reachable_after h hd hmove).1 hmoves
    rw [List.append_assoc] at hserved
    refine ⟨hserved, hlast, ?_, fun t ht => ?_⟩
    · show Happening.entered site ⟨st, move⟩ ++ entriesOf site _ = []
      rw [Stage.entered_shut h hd hmove, hentries]
      rfl
    · obtain ⟨happening, hmem, hturn⟩ := List.mem_filterMap.1 ht
      rcases List.mem_cons.1 hmem with rfl | hmem
      · exact Stage.turn_shut h hd hturn
      · exact hturns t (List.mem_filterMap.2 ⟨happening, hmem, hturn⟩)

theorem handledOf_cons (h : Happening σ) (hs : List (Happening σ)) :
    handledOf (h :: hs) = (h.turn?.map Turn.item).toList ++ handledOf hs := by
  unfold handledOf turnsOf
  cases hturn : h.turn? with
  | none => rw [List.filterMap_cons_none hturn]; rfl
  | some t => rw [List.filterMap_cons_some hturn]; rfl

/-- What the controller handles once nobody is left, and what it has yet to do. -/
theorem Served.unwinds (h : Served site hs st) (hd : st.service.reachable = false)
    (moves : List (Move σ)) (hallowed : st.AllowsAll site moves) :
    handledOf (st.through site moves).1 <+: st.pending ∧
    ((∀ h ∈ (st.through site moves).1, h.move ≠ .kill) →
      st.pending = handledOf (st.through site moves).1 ++ (st.through site moves).2.pending ∧
      (st.through site moves).2.left + (st.through site moves).1.countP (fun h => h.move.own) =
        st.left ∧
      (st.service.life ≠ .killed → (st.through site moves).2.service.life ≠ .killed)) := by
  induction moves generalizing hs st with
  | nil => exact ⟨List.nil_prefix, fun _ => ⟨rfl, rfl, id⟩⟩
  | cons move moves ih =>
    obtain ⟨hmove, hmoves⟩ := hallowed
    obtain ⟨hfirst, hexact⟩ :=
      ih (h.next_shut hd hmove) (Stage.reachable_after h hd hmove).1 hmoves
    unfold Stage.through
    dsimp only
    rw [handledOf_cons, List.forall_mem_cons, List.countP_cons]
    -- a controller that is thrown away loses what it had yet to handle
    by_cases hkill : move = .kill
    · subst hkill
      have hnone : (Happening.after site ⟨st, .kill⟩).pending = [] :=
        (Stage.reachable_after h hd hmove).2
      rw [hnone, List.prefix_nil] at hfirst
      refine ⟨?_, fun hno => absurd rfl hno.1⟩
      rw [hfirst]
      exact List.nil_prefix
    · have hpending := Stage.pending_after h hd hmove hkill
      have hleft := Stage.left_after h hd hmove hkill
      refine ⟨hpending ▸ (List.prefix_append_right_inj _).2 hfirst, fun hno => ?_⟩
      obtain ⟨hitems, hcount, hlife⟩ := hexact hno.2
      refine ⟨?_, ?_, fun hst => hlife (Stage.not_killed_after hmove hkill hst)⟩
      · rw [hpending, hitems, List.append_assoc]
      · have hown : (if move.own = true then 1 else 0) = move.own.toNat := by
          cases move.own <;> rfl
        rw [hown, ← hleft, ← hcount, Nat.add_assoc]

/-- What becomes of a service once nobody is left who could send. -/
structure ShutDown (site : Site σ) (st : Stage σ) (post : List (Happening σ)) (last : Stage σ) :
    Prop where
  /-- Nobody comes back: no caller, no handle, and no sink. -/
  nobody : last.service.handle = false ∧ last.service.callers = [] ∧
    last.service.controller.desk.sinks = []
  /-- Nothing enters the inbox any more. -/
  entries : entriesOf site post = []
  /-- No slot can be armed, and nothing is started. -/
  turns : ∀ t ∈ turnsOf post, t.Shut site
  /-- What was left is handled in order. -/
  ordered : handledOf post <+: st.pending
  /-- The controller can move until it ends. -/
  goesOn : last.service.isOpen = true → ∃ move : Move σ, move.own = true ∧ last.Allows move
  /-- It ends with a certain number of moves, neither before nor after, and has then handled
      everything; unless it is thrown away. -/
  returns : (∀ h ∈ post, h.move ≠ .kill) →
    post.countP (fun h => h.move.own) ≤ st.left ∧
    (last.service.life = .ended ↔ post.countP (fun h => h.move.own) = st.left) ∧
    (last.service.life = .ended → handledOf post = st.pending)

/-- A controller does not end as long as anybody could send.  Once nobody is left nobody comes back, and
    the controller handles what it has, and ends. -/
theorem shutdown (h : Served site hs st) :
    (st.service.life = .ended → st.service.reachable = false ∧ st.pending = []) ∧
    (st.service.isOpen = true → st.service.reachable = false →
      ∀ moves, st.AllowsAll site moves →
        ShutDown site st (st.through site moves).1 (st.through site moves).2) := by
  refine ⟨h.returned, fun hopen hd moves hallowed => ?_⟩
  obtain ⟨hserved, hlast, hentries, hturns⟩ := h.unreached hd moves hallowed
  obtain ⟨hfirst, hexact⟩ := h.unwinds hd moves hallowed
  refine
    { nobody := Service.reachable_eq_false_iff.1 hlast
      entries := hentries
      turns := hturns
      ordered := hfirst
      goesOn := Stage.can_move
      returns := fun hno => ?_ }
  obtain ⟨hpending, hcount, hlife⟩ := hexact hno
  have hkilled : (st.through site moves).2.service.life ≠ .killed := by
    refine hlife fun hkilled => ?_
    unfold Service.isOpen at hopen
    rw [hkilled] at hopen
    cases hopen
  -- the count is zero exactly when the controller has ended
  have hended : (st.through site moves).2.service.life = .ended ↔ (st.through site moves).2.left = 0 :=
    ⟨fun hended => Stage.left_eq_zero hended (hserved.returned hended).2,
      fun hzero => (Stage.life_of_left hzero).resolve_right hkilled⟩
  refine ⟨by omega, hended.trans (by omega), fun hend => ?_⟩
  rw [hpending, (hserved.returned hend).2, List.append_nil]

end

/-! ## A service that is left

  The handle is dropped while three messages are queued, the last of which asks for a playback. -/

namespace Deserted

/-- The service before anything has happened. -/
def start : Stage Unit :=
  ⟨{ controller := { desk := { outside := () } }
     inbox := { free := max 1 Sample.site.settings.inboxCapacity } }, none⟩

/-- The player asks to be told. -/
def watch : Item := .message Sample.call (.observe Sample.player)

/-- Until the handle is dropped. -/
def moves : List (Move Unit) :=
  [.begin, .ask 1 (.tell Sample.call (.createSession true .sendRecv "")), .look 1, .take, .handle,
    .complete ⟨.negotiation, 1⟩ Sample.offer.outcome, .take, .handle,
    .ask 2 (.tell Sample.call .createGroup), .look 2,
    .ask 3 (.tell Sample.call (.observe Sample.player)), .look 3,
    .ask 4 (.tell Sample.player (.play ⟨[], 1⟩)), .look 4, .dropHandle]

/-- Where that leaves the service. -/
def last : Stage Unit := (start.through Sample.site moves).2

theorem served : Served Sample.site (start.through Sample.site moves).1 last :=
  (Served.start () {} start.service rfl).through moves
    ⟨rfl, Nat.zero_lt_one, rfl, ⟨rfl, rfl, List.cons_ne_nil _ _⟩, ⟨rfl, Option.some_ne_none _⟩,
      List.mem_cons_self, ⟨rfl, rfl, List.cons_ne_nil _ _⟩, ⟨rfl, Option.some_ne_none _⟩,
      Nat.zero_lt_one, rfl, Nat.zero_lt_one, rfl, Nat.zero_lt_one, rfl, rfl, trivial⟩
    (by decide)

/-- What the controller does then. -/
def rest : List (Move Unit) := [.take, .handle, .take, .handle, .take, .handle, .finish]

theorem allowed : last.AllowsAll Sample.site rest :=
  ⟨⟨rfl, rfl, List.cons_ne_nil _ _⟩, ⟨rfl, Option.some_ne_none _⟩, ⟨rfl, rfl, List.cons_ne_nil _ _⟩,
    ⟨rfl, Option.some_ne_none _⟩, ⟨rfl, rfl, List.cons_ne_nil _ _⟩, ⟨rfl, Option.some_ne_none _⟩,
    ⟨rfl, rfl, rfl⟩, trivial⟩

end Deserted

/-- The three messages are handled in order, the playback fails for want of anybody who could complete
    it, and the controller returns. -/
theorem shutdown_deserted :
    Deserted.last.service.reachable = false ∧
      ShutDown Sample.site Deserted.last (Deserted.last.through Sample.site Deserted.rest).1
        (Deserted.last.through Sample.site Deserted.rest).2 ∧
      (Deserted.last.through Sample.site Deserted.rest).2.service.life = .ended ∧
      handledOf (Deserted.last.through Sample.site Deserted.rest).1 =
        [Sample.group, Deserted.watch, Sample.play] ∧
      (turnsOf (Deserted.last.through Sample.site Deserted.rest).1).getLast?.map
          (fun t => noticesOf (t.effects Sample.site)) =
        some [(Sample.player, .operationResult .playback (.error .channelClosed))] :=
  ⟨rfl, (shutdown Deserted.served).2 rfl rfl Deserted.rest Deserted.allowed, rfl, rfl, rfl⟩

end CallMedia
