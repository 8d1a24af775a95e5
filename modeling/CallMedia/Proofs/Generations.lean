/-
  Generations and sinks, over every run.

  A turn begins a new generation of at most one category, and hands over the sink of that very generation
  (`Begins`); no turn goes back to an earlier one.  So no sink is ever handed over twice, and each is in
  one place at most: with the media server, among the completions that wait, or used up by a turn that
  handled its completion (`Run.tickets`).  It is counted here, place by place.

  Two things follow that every account of a completion needs: a completion that waits has not been
  handled before (`Run.unhandled`), and a generation of an activity is begun by one turn only
  (`Run.begun_once`).
-/
import CallMedia.Proofs.Run

namespace CallMedia

/-! ## Sinks handed over -/

/-- The sink that an effect hands to the media server. -/
def Effect.sink? : Effect → Option Sink
  | started _ sink _ => some sink
  | _ => none

/-- The sinks that effects hand over, in order. -/
def sinksOf (es : List Effect) : List Sink := es.filterMap Effect.sink?

theorem sinksOf_append (es es' : List Effect) : sinksOf (es ++ es') = sinksOf es ++ sinksOf es' :=
  List.filterMap_append

theorem sinksOf_telling (w : Surroundings) (rs : List Recipient) (n : Notice) :
    sinksOf (rs.map fun r => w.telling r n) = [] :=
  w.filterMap_telling (fun _ _ _ => rfl) rs n

theorem mem_sinksOf {es : List Effect} {what : Operation} {sink : Sink} {answer : Answer}
    (h : .started what sink answer ∈ es) : sink ∈ sinksOf es :=
  List.mem_filterMap.2 ⟨_, h, rfl⟩

/-- The sink that a completion came through. -/
def Completion.sink (e : Completion) : Sink := ⟨e.category, e.generation⟩

/-- What comes of the sinks that effects hand over: no more than was handed over. -/
theorem count_kept_le (es : List Effect) (k : Sink) :
    (es.filterMap Effect.held?).count k +
      ((es.filterMap Effect.reported?).map Completion.sink).count k ≤ (sinksOf es).count k := by
  unfold sinksOf
  -- by induction on the effects: only a start hands over a sink,
  -- and its fate puts it in one of the two places or in none
  induction es with
  | nil => exact Nat.le_refl 0
  | cons e es ih =>
    cases e with
    | started what sink answer =>
      have hsink : (Effect.started what sink answer).sink? = some sink := rfl
      rw [List.filterMap_cons_some hsink, List.count_cons]
      obtain ⟨result, fate⟩ := answer
      cases fate with
      | held =>
        have hheld : (Effect.started what sink ⟨result, .held⟩).held? = some sink := rfl
        rw [List.filterMap_cons_some hheld, List.filterMap_cons_none rfl, List.count_cons]
        omega
      | dropped =>
        rw [List.filterMap_cons_none rfl, List.filterMap_cons_none rfl]
        omega
      | completed outcome =>
        have hreported : (Effect.started what sink ⟨result, .completed outcome⟩).reported? =
            sink.complete? outcome := rfl
        rw [List.filterMap_cons_none rfl]
        cases hc : sink.complete? outcome with
        | none =>
          rw [List.filterMap_cons_none (hreported.trans hc)]
          omega
        | some e =>
          have hsame : e.sink = sink := by
            obtain ⟨hcat, hgen⟩ := Sink.category_of_complete? hc
            unfold Completion.sink
            rw [hcat, hgen]
          rw [List.filterMap_cons_some (hreported.trans hc), List.map_cons, List.count_cons, hsame]
          omega
    | _ => exact ih

/-! ## What a turn begins

`Begins` is what a turn can do to the generations, and to the sinks with them.  Either no generation
changes and no sink is handed over, or that of one category goes up by one and the sink of the new one
is handed over, once.  It is shown for each part of a turn and put together from there; what is done
besides hands over no sink (`Begins.after`, `Begins.before`). -/

/-- From one leg to another, at most one generation begins, and its sink is handed over. -/
def Begins (l l' : Leg) (es : List Effect) : Prop :=
  (sinksOf es = [] ∧ ∀ c, (l'.slot c).generation = (l.slot c).generation) ∨
  ∃ c, sinksOf es = [l.nextSink c] ∧ ∀ c', (l'.slot c').generation =
    if c' = c then (l.slot c).generation + 1 else (l.slot c').generation

section

variable {w : Surroundings} {l l₀ l' : Leg} {es : List Effect}

/-- Only the generations of the leg before count. -/
theorem Begins.of_same (h : Begins l₀ l' es)
    (hsame : ∀ c, (l₀.slot c).generation = (l.slot c).generation) : Begins l l' es := by
  rcases h with ⟨hnone, hgen⟩ | ⟨c, hone, hgen⟩
  · exact .inl ⟨hnone, fun c => (hgen c).trans (hsame c)⟩
  · refine .inr ⟨c, ?_, fun c' => ?_⟩
    · rw [hone, Leg.nextSink, Leg.nextSink, hsame c]
    · rw [hgen c', hsame c, hsame c']

/-- A sink that is handed over is that of the generation that begins. -/
theorem Begins.of_started (h : Begins l l' es) {what : Operation} {sink : Sink} {answer : Answer}
    (hm : .started what sink answer ∈ es) :
    sink.generation = (l.slot sink.category).generation + 1 ∧
      (l'.slot sink.category).generation = sink.generation := by
  have hsink := mem_sinksOf hm
  rcases h with ⟨hnone, hgen⟩ | ⟨c, hone, hgen⟩
  · rw [hnone] at hsink
    cases hsink
  · rw [hone, List.mem_singleton] at hsink
    subst hsink
    exact ⟨rfl, (hgen c).trans (if_pos rfl)⟩

/-- No generation is ever gone back to. -/
theorem Begins.le (h : Begins l l' es) (c : Category) :
    (l.slot c).generation ≤ (l'.slot c).generation := by
  rcases h with ⟨hnone, hgen⟩ | ⟨c', hone, hgen⟩
  · exact Nat.le_of_eq (hgen c).symm
  · rw [hgen c]
    split
    · next hc =>
      rw [hc]
      exact Nat.le_succ _
    · exact Nat.le_refl _

/-- Only the sinks that are handed over count. -/
theorem Begins.of_sinks {es' : List Effect} (h : Begins l l' es) (hes : sinksOf es' = sinksOf es) :
    Begins l l' es' := by
  rcases h with ⟨hnone, hgen⟩ | ⟨c, hone, hgen⟩
  · exact .inl ⟨hes.trans hnone, hgen⟩
  · exact .inr ⟨c, hes.trans hone, hgen⟩

/-- Something is done before that hands over no sink. -/
theorem Begins.after (h : Begins l l' es) {es₁ : List Effect} (h₁ : sinksOf es₁ = []) :
    Begins l l' (es₁ ++ es) := by
  refine h.of_sinks ?_
  rw [sinksOf_append, h₁, List.nil_append]

/-- Something is done afterwards that hands over no sink. -/
theorem Begins.before (h : Begins l l' es) {es₂ : List Effect} (h₂ : sinksOf es₂ = []) :
    Begins l l' (es ++ es₂) := by
  refine h.of_sinks ?_
  rw [sinksOf_append, h₂, List.append_nil]

/-- Nothing is begun where no sink is handed over and the slots keep their generations. -/
theorem Begins.nothing (hes : sinksOf es = []) (hslots : l'.slots = l.slots) : Begins l l' es := by
  refine .inl ⟨hes, fun c => ?_⟩
  unfold Leg.slot
  rw [hslots]

/-- A launch begins a generation, unless the slot cannot be armed. -/
theorem Launched.begins {c : Category} {what : Operation} {result : Except Fault Nat}
    (h : Launched w l c what result l' es) : Begins l l' es := by
  have hgen : ∀ b c', ((l.begun c b).slot c').generation =
      if c' = c then (l.slot c).generation + 1 else (l.slot c').generation := by
    intro b c'
    rw [Leg.slot_begun]
    split <;> rfl
  cases h with
  | closed hopen => exact .inl ⟨rfl, fun _ => rfl⟩
  | refused e fate hopen => exact .inr ⟨c, rfl, hgen false⟩
  | accepted fate hopen => exact .inr ⟨c, rfl, hgen true⟩

/-- A step of the negotiation is a launch, and a notice if that fails. -/
theorem Negotiates.begins {what : Operation} (h : Negotiates w l what l' es) : Begins l l' es := by
  cases h with
  | begun g l' es hl => exact hl.begins
  | failed e l' es hl => exact hl.begins.before (sinksOf_telling w _ _)

/-- What is done before a start hands over no sink. -/
theorem sinksOf_prepared (a : Activity) (group : GroupHandle) : sinksOf (prepared a group) = [] := by
  unfold prepared
  split <;> rfl

/-- An attempt begins a generation if the media server is asked. -/
theorem Attempted.begins {a : Activity} {what : GroupHandle → Operation} {sender : Recipient}
    {r : Option Nat} (h : Attempted w a what sender l l₀ r l' es)
    (hsame : l₀.slots = l.slots) : Begins l l' es := by
  have hgen₀ : ∀ c, (l₀.slot c).generation = (l.slot c).generation := by
    intro c
    unfold Leg.slot
    rw [hsame]
  have htold : ∀ n, sinksOf (w.tellingAll l₀ n) = [] := fun n => sinksOf_telling w _ n
  -- naming who asks leaves the generations as they are
  have hsame' : ∀ b c, ((l₀.askedBy a sender (l₀.slot (.group a)).generation b).slot c).generation =
      (l₀.slot c).generation := by
    intro b c
    rw [Leg.askedBy, Leg.slot_setSlot]
    split
    · next hc => rw [hc]
    · rfl
  -- and arming moves on that of the activity alone
  have hnext : ∀ b c, ((l₀.askedBy a sender ((l₀.slot (.group a)).generation + 1) b).slot c).generation =
      if c = .group a then (l₀.slot (.group a)).generation + 1 else (l₀.slot c).generation := by
    intro b c
    rw [Leg.askedBy, Leg.slot_setSlot]
    split <;> rfl
  cases h with
  | unfit e idle => exact .inl ⟨rfl, fun _ => rfl⟩
  | unprepared group e idle digits =>
    exact .inl ⟨htold _, fun c => (hsame' false c).trans (hgen₀ c)⟩
  | closed group idle hopen =>
    refine .inl ⟨?_, fun c => (hsame' false c).trans (hgen₀ c)⟩
    rw [sinksOf_append, sinksOf_prepared, htold]
    rfl
  | refused group e fate idle hopen =>
    have hone : Begins l₀ (l₀.askedBy a sender ((l₀.slot (.group a)).generation + 1) false)
        [.started (what group) (l₀.nextSink (.group a)) ⟨.error e, fate⟩] :=
      .inr ⟨.group a, rfl, hnext false⟩
    exact ((hone.before (htold _)).after (sinksOf_prepared a group)).of_same hgen₀
  | accepted group fate idle hopen =>
    have hone : Begins l₀ ((l₀.askedBy a sender ((l₀.slot (.group a)).generation + 1) true).running a
        ((l₀.slot (.group a)).generation + 1))
        [.started (what group) (l₀.nextSink (.group a)) ⟨.ok (), fate⟩] :=
      .inr ⟨.group a, rfl, hnext true⟩
    exact (hone.after (sinksOf_prepared a group)).of_same hgen₀

theorem ActiveStopped.sinksOf {result : Except Fault (Option Active)}
    (h : ActiveStopped l result es) : CallMedia.sinksOf es = [] := by
  cases h <;> rfl

/-- Nothing that comes of a stop hands over a sink, whether an artifact is made or not. -/
theorem Stopped.sinksOf {reader : Recording.Reader} {apiVersion : String} {artifact : Bool}
    (h : Stopped reader apiVersion w artifact l l' es) : CallMedia.sinksOf es = [] := by
  cases h with
  | other was es hs hw => exact hs.sinksOf
  | failed e es hs =>
    rw [sinksOf_append, hs.sinksOf]
    exact sinksOf_telling w _ _
  | plain g es hs hr => exact hs.sinksOf
  | dropped g r es hs hr hg hd => exact hs.sinksOf
  | filed g r accountId store m es hs hr hg ha haccount hstore hm =>
    rw [sinksOf_append, hs.sinksOf]
    rfl
  | unfiled g r accountId store m e es hs hr hg ha haccount hstore hm =>
    rw [sinksOf_append, hs.sinksOf]
    exact sinksOf_telling w _ _

/-- Stopping begins nothing, and what is awaited stays so. -/
theorem Stopped.begins {reader : Recording.Reader} {apiVersion : String} {artifact : Bool}
    (h : Stopped reader apiVersion w artifact l l' es) : Begins l l' es :=
  .nothing h.sinksOf (by rcases h.leg with rfl | rfl <;> rfl)

/-- Stopping the group as a whole hands over none. -/
theorem GroupStopped.sinksOf (h : GroupStopped w l es) : CallMedia.sinksOf es = [] := by
  cases h with
  | quiet was es hs =>
    rw [sinksOf_append, hs.sinksOf]
    exact sinksOf_telling w _ _
  | failed e es hs =>
    rw [sinksOf_append, hs.sinksOf]
    exact sinksOf_telling w _ _

theorem GroupStopped.begins (h : GroupStopped w l es) : Begins l { l with active := none } es :=
  .nothing h.sinksOf rfl

end

/-- A turn begins one generation at most. -/
theorem Turned.begins {σ : Type} {site : Site σ} {w : Surroundings} {p p' : Phase} {l l' : Leg}
    {item : Item} {es : List Effect} (h : Turned site w p l item p' l' es) : Begins l l' es := by
  have htold : ∀ (rs : List Recipient) n, sinksOf (rs.map fun r => w.telling r n) = [] :=
    fun rs n => sinksOf_telling w rs n
  -- disarming a slot, which every accepted outcome does, keeps its generation
  have hdisarmed : ∀ c c', ((l.disarmed c).slot c').generation = (l.slot c').generation := by
    intro c c'
    rw [Leg.slot_disarmed]
    split
    · next hc => rw [hc]; rfl
    · rfl
  cases h with
  | ignored item hout => exact .nothing rfl rfl
  | opened sender outbound mode sdp l' es hp ho =>
    cases ho with
    | noSession e => exact .nothing (htold _ _) rfl
    | noConnection name e => exact .nothing (htold _ _) rfl
    | negotiates name name' l' es hn =>
      -- the slot is bound to the owning call before the first step, which keeps its generation
      have hbegins := hn.begins.of_same (l := l) fun c => by
        rw [Leg.connected, Leg.slot_setSlot]
        split
        · next hc => rw [hc]; rfl
        · rfl
      exact hbegins.of_sinks rfl
  | closed sender es hp hr =>
    refine .inl ⟨?_, fun c => ?_⟩
    · rw [sinksOf_append]
      cases hr with
      | nothing hs => exact htold _ _
      | released s answer hs => exact htold _ _
    · show (l.slots.disarmAll.get c).generation = _
      rw [Slots.get_disarmAll]
      rfl
  | updated sender sdp k l' es hp hk hn => exact hn.begins
  | agreed g o localSdp hp awaited ho => exact .inl ⟨htold _ _, hdisarmed .negotiation⟩
  | broke g o fault hp awaited ho => exact .inl ⟨htold _ _, hdisarmed .negotiation⟩
  | groupCreated sender l' es hg hc => cases hc <;> exact .nothing rfl rfl
  | groupDestroyed sender l' es hd => cases hd <;> exact .nothing rfl rfl
  | groupStopped sender es hs => exact hs.begins
  | attempted sender m k r l' es hp hm ht =>
    have hbegins : Begins l l' es := ht.begins rfl
    obtain ⟨recording, hkept⟩ := k.kept_cases w.clock l' r
    rw [hkept]
    exact hbegins
  | stopped sender artifact l' es ha hs => exact hs.begins
  | stoppedRecording sender accountId store g l' es hp ha hs =>
    exact hs.begins.of_same fun _ => rfl
  | joined sender m mixer l' es hp hm hj => cases hj <;> exact .nothing (htold _ _) rfl
  | left sender l' es hp hc hl =>
    cases hl with
    | left k mixer hk hm => exact .nothing rfl rfl
    | refused k mixer e hk hm => exact .nothing (htold _ _) rfl
  | rejoined sender m direction k mixer answer hp hd hk hm => exact .nothing rfl rfl
  | observed sender observer => exact .nothing rfl rfl
  | unobserved sender observer => exact .nothing rfl rfl
  | finished e a result hcat awaited hr => exact .inl ⟨htold _ _, hdisarmed (.group a)⟩

/-! ## Where the sinks are

From the moment it is handed over a sink is kept by the media server, or waits as a completion, or was
used up by a turn, or is gone.  Nothing makes a second one of it.  The counts are of one sink in the
list of all places together; a list is used, and not three sets, because the same completion twice in
the queue is what is to be excluded. -/

/-- The sink that an item uses up. -/
def Item.sink? : Item → Option Sink
  | .completion e => some e.sink
  | _ => none

/-- The sinks that turns have used up. -/
def handledSinks {σ : Type} (ts : List (Turn σ)) : List Sink := ts.filterMap fun t => t.item.sink?

/-- Every place where a sink can be: with the media server, waiting as a completion, or used up. -/
def places {σ : Type} (ts : List (Turn σ)) (c : Controller σ) (queued : List Completion) :
    List Sink :=
  handledSinks ts ++ (c.desk.sinks ++ queued.map Completion.sink)

/-- A turn uses up the sink of its item, if the item has one. -/
theorem handledSinks_concat {σ : Type} (ts : List (Turn σ)) (t : Turn σ) :
    handledSinks (ts ++ [t]) = handledSinks ts ++ t.item.sink?.toList := by
  unfold handledSinks
  rw [List.filterMap_append]
  obtain ⟨before, item⟩ := t
  cases item <;> rfl

/-- Taking a completion to handle it moves its sink, and no other. -/
theorem count_leaves {item : Item} {queued : List Completion}
    (h : ∀ e, item = .completion e → e ∈ queued) (k : Sink) :
    item.sink?.toList.count k + ((item.leaves queued).map Completion.sink).count k =
      (queued.map Completion.sink).count k := by
  cases item with
  | completion e =>
    have hperm := (List.perm_cons_erase (h e rfl)).map Completion.sink
    rw [hperm.count_eq k, List.map_cons, List.count_cons]
    show [e.sink].count k + _ = _
    rw [List.count_singleton]
    exact Nat.add_comm _ _
  | message sender m => exact Nat.zero_add _
  | query caller => exact Nat.zero_add _

namespace Run

variable {σ : Type} {site : Site σ} {ts : List (Turn σ)} {c : Controller σ}
  {queued : List Completion}

/-- A sink is in one place at most, and in none unless its generation has begun. -/
theorem tickets (h : Run site ts c queued) (k : Sink) :
    (places ts c queued).count k ≤ 1 ∧
      ((c.desk.leg.slot k.category).generation < k.generation →
        (places ts c queued).count k = 0) := by
  unfold places
  -- by induction on the run; the second half is the stronger part of the
  -- invariant, which says that a sink yet to be handed over is nowhere
  induction h with
  | start d hleg hsinks hposted =>
    have hnone : handledSinks ([] : List (Turn σ)) ++ (d.sinks ++ List.map Completion.sink []) = [] := by
      rw [hsinks]
      rfl
    rw [hnone]
    exact ⟨Nat.zero_le 1, fun _ => rfl⟩
  | turn ts c queued item h hitem ih =>
    obtain ⟨hturned, hgo, -⟩ := Turn.turned (t := ⟨c, item⟩) site h.sound
    have hsinks : (c.handle site item).desk.sinks = _ := hgo.sinks
    have hposted : (c.handle site item).desk.posted = _ := hgo.posted
    have htaken := count_leaves hitem k
    have hkept := count_kept_le (Turn.shown site ⟨c, item⟩) k
    simp only [List.count_append] at ih
    -- the places after the turn: those before, less the sink that moved, and what was handed over
    have hplaces : (handledSinks (ts ++ [⟨c, item⟩]) ++ ((c.handle site item).desk.sinks ++
        (item.leaves queued ++ (c.handle site item).desk.posted).map Completion.sink)).count k ≤
        (handledSinks ts).count k + (c.desk.sinks.count k + (queued.map Completion.sink).count k) +
          (sinksOf (Turn.shown site ⟨c, item⟩)).count k := by
      rw [handledSinks_concat, hsinks, hposted, h.posted]
      simp only [List.count_append, List.map_append, List.nil_append]
      omega
    show (handledSinks (ts ++ [⟨c, item⟩]) ++ ((c.handle site item).desk.sinks ++
        (item.leaves queued ++ (c.handle site item).desk.posted).map Completion.sink)).count k ≤ 1 ∧
      (((c.handle site item).desk.leg.slot k.category).generation < k.generation →
        (handledSinks (ts ++ [⟨c, item⟩]) ++ ((c.handle site item).desk.sinks ++
          (item.leaves queued ++ (c.handle site item).desk.posted).map Completion.sink)).count k = 0)
    -- either nothing has begun, and the bound is as it
    -- was, or one generation has, and its sink counts once
    rcases hturned.begins with ⟨hnone, hgen⟩ | ⟨cat, hone, hgen⟩
    · rw [hnone, List.count_nil, Nat.add_zero] at hplaces
      refine ⟨Nat.le_trans hplaces ih.1, fun hlate => ?_⟩
      have hgen' : ((c.handle site item).desk.leg.slot k.category).generation =
          (c.desk.leg.slot k.category).generation := hgen k.category
      rw [hgen'] at hlate
      exact Nat.le_zero.1 (ih.2 hlate ▸ hplaces)
    · rw [hone, List.count_singleton] at hplaces
      have hgen' : ((c.handle site item).desk.leg.slot k.category).generation =
          if k.category = cat then (c.desk.leg.slot cat).generation + 1
          else (c.desk.leg.slot k.category).generation := hgen k.category
      rw [hgen']
      by_cases hk : c.desk.leg.nextSink cat = k
      · -- the sink handed over is new
        have hcat : k.category = cat := by rw [← hk]; rfl
        have hkgen : k.generation = (c.desk.leg.slot cat).generation + 1 := by rw [← hk]; rfl
        have hfresh := ih.2 (by rw [hcat, hkgen]; exact Nat.lt_succ_self _)
        rw [hfresh, beq_iff_eq.2 hk, if_pos rfl] at hplaces
        rw [if_pos hcat, hkgen]
        exact ⟨hplaces, fun hlate => absurd hlate (Nat.lt_irrefl _)⟩
      · -- another sink than the one handed over, which counts as before
        have hne : (c.desk.leg.nextSink cat == k) = false := beq_eq_false_iff_ne.2 hk
        rw [hne, if_neg Bool.false_ne_true, Nat.add_zero] at hplaces
        refine ⟨Nat.le_trans hplaces ih.1, fun hlate => ?_⟩
        have hlate' : (c.desk.leg.slot k.category).generation < k.generation := by
          split at hlate
          · next hcat => rw [hcat]; omega
          · exact hlate
        exact Nat.le_zero.1 (ih.2 hlate' ▸ hplaces)
  | complete ts c queued sink outcome e h hsink he ih =>
    -- completing a sink moves it from the media server to the queue
    have hsame : e.sink = sink := by
      obtain ⟨hcat, hgen⟩ := Sink.category_of_complete? he
      unfold Completion.sink
      rw [hcat, hgen]
    have hperm := (List.perm_cons_erase hsink).count_eq k
    have hcount : (handledSinks ts ++ (c.desk.sinks.erase sink ++
        (queued ++ [e]).map Completion.sink)).count k =
        (handledSinks ts ++ (c.desk.sinks ++ queued.map Completion.sink)).count k := by
      rw [List.count_cons] at hperm
      simp only [List.count_append, List.map_append, List.map_cons, List.map_nil, hsame,
        List.count_singleton]
      omega
    show (handledSinks ts ++ (c.desk.sinks.erase sink ++ _)).count k ≤ 1 ∧ (_ →
      (handledSinks ts ++ (c.desk.sinks.erase sink ++ _)).count k = 0)
    rw [hcount]
    exact ih
  | drop ts c queued sink h hsink ih =>
    have hperm := (List.perm_cons_erase hsink).count_eq k
    have hcount : (handledSinks ts ++ (c.desk.sinks.erase sink ++
        queued.map Completion.sink)).count k ≤
        (handledSinks ts ++ (c.desk.sinks ++ queued.map Completion.sink)).count k := by
      rw [List.count_cons] at hperm
      simp only [List.count_append]
      omega
    exact ⟨Nat.le_trans hcount ih.1, fun hlate => Nat.le_zero.1 (ih.2 hlate ▸ hcount)⟩
  | meanwhile ts c queued d h hleg hsinks hposted ih =>
    show (handledSinks ts ++ (d.sinks ++ _)).count k ≤ 1 ∧ ((d.leg.slot _).generation < _ →
      (handledSinks ts ++ (d.sinks ++ _)).count k = 0)
    rw [hleg, hsinks]
    exact ih

/-- A completion that waits has not been handled before. -/
theorem unhandled (h : Run site ts c queued) {e : Completion} (he : e ∈ queued) :
    e.sink ∉ handledSinks ts := by
  intro hm
  -- else its sink would be in two places, in the queue and among those used up
  have hone := (h.tickets e.sink).1
  have hwaits := List.count_pos_iff.2 (List.mem_map_of_mem (f := Completion.sink) he)
  have hused := List.count_pos_iff.2 hm
  unfold places at hone
  rw [List.count_append, List.count_append] at hone
  omega

/-- A sink that was used up is of a generation that has begun. -/
theorem handled_le (h : Run site ts c queued) {k : Sink} (hk : k ∈ handledSinks ts) :
    k.generation ≤ (c.desk.leg.slot k.category).generation := by
  refine Nat.le_of_not_lt fun hlate => ?_
  have hnone := (h.tickets k).2 hlate
  have hused := List.count_pos_iff.2 hk
  unfold places at hnone
  rw [List.count_append] at hnone
  omega

/-- A sink that was handed over is of a generation that has begun. -/
theorem started_le (h : Run site ts c queued) {t : Turn σ} (ht : t ∈ ts) {what : Operation}
    {sink : Sink} {answer : Answer} (hm : .started what sink answer ∈ t.effects site) :
    sink.generation ≤ (c.desk.leg.slot sink.category).generation := by
  -- by induction on the run: the turn that hands over
  -- the sink begins its generation, and none goes back
  refine h.invariant (P := fun ts _ l => t ∈ ts →
    sink.generation ≤ (l.slot sink.category).generation) nofun ?_ ht
  intro ts u queued hbefore ih htu
  obtain ⟨hturned, -, -⟩ := Turn.turned (t := u) site hbefore.sound
  rcases List.mem_append.1 htu with htu | htu
  · exact Nat.le_trans (ih htu) (hturned.begins.le _)
  · rw [List.mem_singleton] at htu
    subst htu
    exact Nat.le_of_eq (hturned.begins.of_started ((Turn.mem_shown site t).2 ⟨hm, rfl⟩)).2.symm

/-- A sink is handed over by one turn only. -/
theorem begun_once (h : Run site ts c queued) {earlier earlier' between between' : List (Turn σ)}
    {i i' : Turn σ} (hts : ts = earlier ++ i :: between) (hts' : ts = earlier' ++ i' :: between')
    {what what' : Operation} {sink : Sink} {answer answer' : Answer}
    (hm : .started what sink answer ∈ i.effects site)
    (hm' : .started what' sink answer' ∈ i'.effects site) :
    earlier = earlier' ∧ i = i' ∧ between = between' := by
  -- a sink that was handed over before is not that of a generation that begins
  have hnever : ∀ {earlier between : List (Turn σ)} {i i' : Turn σ} {what what' : Operation}
      {answer answer' : Answer}, ts = earlier ++ i :: between →
      .started what sink answer ∈ i.effects site → i' ∈ earlier →
      .started what' sink answer' ∉ i'.effects site := by
    intro earlier between i i' what what' answer answer' heq hm hmem hm'
    obtain ⟨queued', hbefore, -⟩ := Run.before (heq ▸ h)
    obtain ⟨hturned, -, -⟩ := Turn.turned (t := i) site hbefore.sound
    have hle := hbefore.started_le hmem hm'
    have hnext := (hturned.begins.of_started ((Turn.mem_shown site i).2 ⟨hm, rfl⟩)).1
    omega
  -- two places in one list: one is before the other, which is excluded, or they are the same
  rcases List.append_eq_append_iff.1 (hts.symm.trans hts') with ⟨xs, hxs, heq⟩ | ⟨xs, hxs, heq⟩
  · cases xs with
    | nil =>
      cases heq
      exact ⟨(hxs.trans (List.append_nil earlier)).symm, rfl, rfl⟩
    | cons x xs =>
      cases heq
      refine absurd hm (hnever hts' hm' ?_)
      rw [hxs]
      exact List.mem_append_right _ List.mem_cons_self
  · cases xs with
    | nil =>
      cases heq
      exact ⟨hxs.trans (List.append_nil earlier'), rfl, rfl⟩
    | cons x xs =>
      cases heq
      refine absurd hm' (hnever hts hm ?_)
      rw [hxs]
      exact List.mem_append_right _ List.mem_cons_self

end Run

end CallMedia
