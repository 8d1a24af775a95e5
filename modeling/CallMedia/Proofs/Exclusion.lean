/-
  One activity at a time, over every run.

  The media server is asked for an activity only while nothing is in flight.  What it accepts is in
  flight from then on, and stays so until one of four things happens (`Ends`): its outcome is accepted,
  it is asked to stop, or its group or its session is released.  So between two activities that it was
  asked for, the first of which it accepted, one of these lies; it never has two to do at once.

  What is stopped counts as ended whatever the media server answered.  Its outcome may still come, and
  is then still accepted, but it does not end what was started meanwhile.
-/
import CallMedia.Proofs.Activities
import CallMedia.Proofs.Generations

namespace CallMedia

/-! ## How an activity ends

The four ways, and the step lemma: an activity that runs goes on, or ends in one of them. -/

/-- What ends a generation of an activity that a group of a session is in. -/
def Ends (l : Leg) (item : Item) (es : List Effect) (a : Activity) (g : Nat) (group : GroupHandle)
    (session : SessionHandle) : Prop :=
  (∃ e, item = .completion e ∧ e.category = .group a ∧ e.generation = g ∧
    ((l.slot (.group a)).accept g).1 = true) ∨
  (∃ answer, .performed (.stop a group) answer ∈ es) ∨
  (∃ answer, .performed (.releaseGroup group) answer ∈ es) ∨
  (∃ answer, .performed (.releaseSession session) answer ∈ es)

/-- An activity in flight, with what it needs. -/
def Leg.Runs (l : Leg) (a : Activity) (g : Nat) (group : GroupHandle) (session : SessionHandle) :
    Prop :=
  l.active = some ⟨a, g⟩ ∧ l.group = some group ∧ l.session = some session

section

variable {σ : Type} {site : Site σ} {w : Surroundings} {p p' : Phase} {l l' : Leg} {item : Item}
  {es : List Effect} {a : Activity} {g : Nat} {group : GroupHandle} {session : SessionHandle}

/-- A stop of what runs asks the media server to stop it. -/
theorem Stopped.asks {reader : Recording.Reader} {apiVersion : String} {artifact : Bool}
    (h : Stopped reader apiVersion w artifact l l' es) (hr : l.Runs a g group session) :
    ∃ answer, .performed (.stop a group) answer ∈ es := by
  obtain ⟨result, es₁, es₂, rfl, hactive⟩ := h.active
  obtain ⟨answer, hmem⟩ := hactive.asks hr.1 hr.2.1
  exact ⟨answer, List.mem_append_left _ hmem⟩

/-- An activity in flight stays so, unless it ends. -/
theorem Turned.keeps (h : Turned site w p l item p' l' es) (hs : Sound p l)
    (hr : l.Runs a g group session) :
    l'.Runs a g group session ∨ Ends l item es a g group session := by
  obtain ⟨hactive, hgroup, hsession⟩ := id hr
  have hbusy : l.active ≠ none := Option.ne_none_iff_exists'.2 ⟨_, hactive⟩
  -- most turns do not touch an activity that runs; those that end it say how
  cases h with
  | ignored item hout => exact .inl hr
  | opened sender outbound mode sdp l' es hp ho =>
    have hheld : l.session ≠ none := Option.ne_none_iff_exists'.2 ⟨session, hsession⟩
    exact absurd hp (hs.ne_of_session hheld).1
  | closed sender es hp hrel =>
    cases hrel with
    | nothing hnone => rw [hsession] at hnone; cases hnone
    | released s answer hsome =>
      rw [hsession] at hsome
      cases hsome
      exact .inr (.inr (.inr (.inr ⟨answer, List.mem_cons_self⟩)))
  | updated sender sdp k l' es hp hk hn =>
    rcases hn.leg with rfl | ⟨b, rfl⟩
    · exact .inl hr
    · exact .inl hr
  -- an answer in the negotiation leaves the group alone
  | agreed g o localSdp hp awaited ho => exact .inl hr
  | broke g o fault hp awaited ho => exact .inl hr
  | groupCreated sender l' es hg hc => rw [hgroup] at hg; cases hg
  | groupDestroyed sender l' es hd =>
    cases hd with
    | absent hg => rw [hgroup] at hg; cases hg
    | released group' answer hg =>
      rw [hgroup] at hg
      cases hg
      exact .inr (.inr (.inr (.inl ⟨answer, List.mem_cons_self⟩)))
  | groupStopped sender es hst =>
    refine .inr (.inr (.inl ?_))
    cases hst with
    | quiet was es hst =>
      obtain ⟨answer, hmem⟩ := hst.asks hactive hgroup
      exact ⟨answer, List.mem_append_left _ hmem⟩
    | failed e es hst =>
      obtain ⟨answer, hmem⟩ := hst.asks hactive hgroup
      exact ⟨answer, List.mem_append_left _ hmem⟩
  | attempted sender m k r l' es hp hm ht =>
    -- the group is busy, so nothing is even tried
    cases ht with
    | unfit e idle =>
      obtain ⟨recording, hkept⟩ := k.kept_cases w.clock (k.noted l) none
      rw [hkept]
      exact .inl hr
    | unprepared group e idle digits => exact absurd (Leg.idleGroup_eq_ok idle).2 hbusy
    | closed group idle hopen => exact absurd (Leg.idleGroup_eq_ok idle).2 hbusy
    | refused group e fate idle hopen => exact absurd (Leg.idleGroup_eq_ok idle).2 hbusy
    | accepted group fate idle hopen => exact absurd (Leg.idleGroup_eq_ok idle).2 hbusy
  | stopped sender artifact l' es ha hst => exact .inr (.inr (.inl (hst.asks hr)))
  | stoppedRecording sender accountId store g l' es hp ha hst =>
    exact .inr (.inr (.inl (hst.asks (l := l.remember accountId store) hr)))
  | joined sender m mixer l' es hp hm hj =>
    cases hj with
    | joined k hk => exact .inl hr
    | refused k e hk => exact .inl hr
  | left sender l' es hp hc hl =>
    cases hl with
    | left k mixer hk hm => exact .inl hr
    | refused k mixer e hk hm => exact .inl hr
  | rejoined sender m direction k mixer answer hp hd hk hm => exact .inl hr
  | observed sender observer => exact .inl hr
  | unobserved sender observer => exact .inl hr
  | finished e b result hcat awaited hres =>
    by_cases hsame : (⟨a, g⟩ : Active) = ⟨b, e.generation⟩
    · cases hsame
      exact .inr (.inl ⟨e, rfl, hcat, rfl, (Slot.accept_iff _ _).2 awaited⟩)
    · refine .inl ⟨?_, hgroup, hsession⟩
      show (if l.active = some ⟨b, e.generation⟩ then none else l.active) = some ⟨a, g⟩
      rw [hactive, if_neg fun heq => hsame (Option.some.inj heq)]

end

/-! ## How an activity begins

A turn starts one operation at most, and so one activity at most. -/

/-- The activity that a sink is to report on. -/
def Sink.activity? : Sink → Option Activity
  | ⟨.group a, _⟩ => some a
  | _ => none

/-- The activity that an effect asks the media server for. -/
def Effect.activity? (e : Effect) : Option Activity := e.sink?.bind Sink.activity?

/-- A turn asks for one activity at most. -/
theorem Turned.length_activities {σ : Type} {site : Site σ} {w : Surroundings} {p p' : Phase}
    {l l' : Leg} {item : Item} {es : List Effect} (h : Turned site w p l item p' l' es) :
    (es.filterMap Effect.activity?).length ≤ 1 := by
  have hsinks : es.filterMap Effect.activity? = (sinksOf es).filterMap Sink.activity? :=
    List.filterMap_filterMap.symm
  have hone : (sinksOf es).length ≤ 1 := by
    -- a turn hands over one sink at most
    rcases h.begins with ⟨hnone, -⟩ | ⟨c, hone, -⟩
    · rw [hnone]
      exact Nat.zero_le 1
    · rw [hone]
      exact Nat.le_refl 1
  rw [hsinks]
  exact Nat.le_trans (List.length_filterMap_le _ _) hone

/-! ## Every run

By induction over the turns after the one in which it was accepted, an activity runs on until one of
them ends it. -/

section

variable {σ : Type} {site : Site σ} {ts : List (Turn σ)} {c : Controller σ}
  {queued : List Completion}

/-- What a turn was asked for and the media server accepted runs on after it, until a turn ends it. -/
theorem Run.runs_on (h : Run site ts c queued) {earlier between : List (Turn σ)} {i : Turn σ}
    (hts : ts = earlier ++ i :: between) {what : Operation} {a : Activity} {g : Nat}
    {answer : Answer} (hm : .started what ⟨.group a, g⟩ answer ∈ i.effects site)
    (hok : answer.result = .ok ()) :
    ∃ group session, what.group? = some group ∧ i.before.desk.leg.session = some session ∧
      ((∃ u ∈ between, Ends u.before.desk.leg u.item (u.effects site) a g group session) ∨
        c.desk.leg.Runs a g group session) := by
  have hrun : ∀ between, ts = earlier ++ i :: between →
      ∃ group session, what.group? = some group ∧ i.before.desk.leg.session = some session ∧
        ((∃ u ∈ between, Ends u.before.desk.leg u.item (u.effects site) a g group session) ∨
          c.desk.leg.Runs a g group session) := by
    refine h.invariant (P := fun ts _ l => ∀ between, ts = earlier ++ i :: between →
      ∃ group session, what.group? = some group ∧ i.before.desk.leg.session = some session ∧
        ((∃ u ∈ between, Ends u.before.desk.leg u.item (u.effects site) a g group session) ∨
          l.Runs a g group session)) ?_ ?_
    · intro between hnil
      exact absurd hnil.symm (List.append_ne_nil_of_right_ne_nil earlier (List.cons_ne_nil i between))
    · intro ts t queued hbefore ih between heq
      have hsound := hbefore.sound
      obtain ⟨hturned, -, -⟩ := Turn.turned (t := t) site hsound
      -- the last turn is the one that started it, or comes after that one
      rcases Run.concat_cases heq with ⟨-, rfl, rfl⟩ | ⟨between', rfl, hts'⟩
      · have hshown : .started what ⟨.group a, g⟩ answer ∈ t.shown site :=
          (Turn.mem_shown site t).2 ⟨hm, rfl⟩
        obtain ⟨sender, group, -, -, hgroup, hwhat, -, -, hflight⟩ :=
          (hturned.touched a).of_started hshown
        obtain ⟨hactive, hgroup', hsession'⟩ := hflight hok
        have hheld : t.before.desk.leg.session ≠ none :=
          hsound.connected (hsound.grouped (Option.ne_none_iff_exists'.2 ⟨group, hgroup⟩))
        obtain ⟨session, hsession⟩ := Option.ne_none_iff_exists'.1 hheld
        exact ⟨group, session, hwhat, hsession,
          .inr ⟨hactive, hgroup'.trans hgroup, hsession'.trans hsession⟩⟩
      · obtain ⟨group, session, hwhat, hsession, hrest⟩ := ih between' hts'
        refine ⟨group, session, hwhat, hsession, ?_⟩
        rcases hrest with ⟨u, hu, hends⟩ | hruns
        · exact .inl ⟨u, List.mem_append_left _ hu, hends⟩
        · rcases hturned.keeps hsound hruns with hruns' | hends
          · exact .inr hruns'
          · refine .inl ⟨t, List.mem_append_right _ (List.mem_singleton_self t), ?_⟩
            have hin : ∀ e, e ∈ t.shown site → e ∈ t.effects site :=
              fun e he => ((Turn.mem_shown site t).1 he).1
            rcases hends with hdone | ⟨answer, hmem⟩ | ⟨answer, hmem⟩ | ⟨answer, hmem⟩
            · exact .inl hdone
            · exact .inr (.inl ⟨answer, hin _ hmem⟩)
            · exact .inr (.inr (.inl ⟨answer, hin _ hmem⟩))
            · exact .inr (.inr (.inr ⟨answer, hin _ hmem⟩))
  exact hrun between hts

/-- Activities exclude each other.  In every reachable state the activity in flight has its group, and
    is awaited by the slot of its kind with its generation.  In every run a turn asks for one activity
    at most, and only while nothing is in flight; between an activity that was accepted and the next one
    asked for lies what ended it; and what is asked to stop is what is in flight. -/
theorem exclusion (h : Run site ts c queued) :
    (∀ a, c.desk.leg.active = some a → c.desk.leg.group ≠ none ∧
      (c.desk.leg.slot (.group a.activity)).pending = true ∧
      (c.desk.leg.slot (.group a.activity)).generation = a.generation) ∧
    (∀ t ∈ ts, ((t.effects site).filterMap Effect.activity?).length ≤ 1 ∧
      ∀ what a g answer, .started what ⟨.group a, g⟩ answer ∈ t.effects site →
        t.before.desk.leg.active = none) ∧
    (∀ earlier i between j later what a g answer what' a' g' answer',
      ts = earlier ++ i :: (between ++ j :: later) →
      .started what ⟨.group a, g⟩ answer ∈ i.effects site → answer.result = .ok () →
      .started what' ⟨.group a', g'⟩ answer' ∈ j.effects site →
      ∃ group session, what.group? = some group ∧ i.before.desk.leg.session = some session ∧
        ∃ u ∈ between, Ends u.before.desk.leg u.item (u.effects site) a g group session) ∧
    (∀ t ∈ ts, ∀ a group answer, .performed (.stop a group) answer ∈ t.effects site →
      t.before.desk.leg.group = some group ∧ ∃ g, t.before.desk.leg.active = some ⟨a, g⟩) := by
  have hturned : ∀ t ∈ ts, Turned site t.before.desk.surroundings t.before.phase t.before.desk.leg
      t.item (t.after site).phase (t.after site).desk.leg (t.shown site) :=
    fun t ht => (Turn.turned (t := t) site (h.sound_of_mem ht)).1
  have hidle : ∀ t ∈ ts, ∀ what a g answer, .started what ⟨.group a, g⟩ answer ∈ t.effects site →
      t.before.desk.leg.active = none := by
    intro t ht what a g answer hm
    obtain ⟨sender, group, -, hnone, -⟩ :=
      ((hturned t ht).touched a).of_started ((Turn.mem_shown site t).2 ⟨hm, rfl⟩)
    exact hnone
  refine ⟨fun a ha => ?_, fun t ht => ⟨?_, hidle t ht⟩, ?_, fun t ht a group answer hm => ?_⟩
  · obtain ⟨hg, hpending, hgeneration⟩ := h.sound.busy a ha
    exact ⟨hg, hpending, hgeneration.symm⟩
  · rw [t.filterMap_effects site _ fun _ => rfl]
    exact (hturned t ht).length_activities
  · -- were nothing in between to end it, it would still run, and the second would not have been tried
    intro earlier i between j later what a g answer what' a' g' answer' hts hm hok hm'
    have hj : ts = (earlier ++ i :: between) ++ j :: later := by
      rw [hts, List.append_assoc, List.cons_append]
    obtain ⟨queued', hbefore, -⟩ := Run.before (hj ▸ h)
    obtain ⟨group, session, hwhat, hsession, hends | hruns⟩ := hbefore.runs_on rfl hm hok
    · exact ⟨group, session, hwhat, hsession, hends⟩
    · have hmem : j ∈ ts := by
        rw [hj]
        exact List.mem_append_right _ List.mem_cons_self
      have hnone := hidle j hmem what' a' g' answer' hm'
      rw [hruns.1] at hnone
      cases hnone
  · exact (hturned t ht).stops ((Turn.mem_shown site t).2 ⟨hm, rfl⟩)

/-- A second play is accepted once the first is stopped, and not before. -/
theorem exclusion_replayed :
    ∃ answer answer',
      .started (.play ⟨"1"⟩ ⟨[], .times 0⟩) ⟨.group .playback, 1⟩ answer ∈
        Turn.effects Sample.site ⟨Sample.grouped, Sample.play⟩ ∧
      .started (.play ⟨"1"⟩ ⟨[], .times 0⟩) ⟨.group .playback, 2⟩ answer' ∈
        Turn.effects Sample.site ⟨Sample.stopped, Sample.play⟩ ∧
      ∃ group session, Sample.grouped.desk.leg.session = some session ∧
        Ends Sample.played.desk.leg Sample.stop
          (Turn.effects Sample.site ⟨Sample.played, Sample.stop⟩) .playback 1 group session := by
  have hrun : Run Sample.site
      [⟨Sample.fresh, Sample.create⟩, ⟨Sample.offered, .completion Sample.offer⟩,
        ⟨Sample.active, Sample.group⟩, ⟨Sample.grouped, Sample.play⟩, ⟨Sample.played, Sample.stop⟩,
        ⟨Sample.stopped, Sample.play⟩] (Sample.handled Sample.stopped Sample.play)
      [Sample.playEnd] :=
    .turn _ Sample.stopped [Sample.playEnd] Sample.play Sample.run_stopped nofun
  have hfirst : .started (.play ⟨"1"⟩ ⟨[], .times 0⟩) ⟨.group .playback, 1⟩ ⟨.ok (), .held⟩ ∈
      Turn.effects Sample.site ⟨Sample.grouped, Sample.play⟩ := List.mem_of_getElem? (i := 1) rfl
  have hsecond : .started (.play ⟨"1"⟩ ⟨[], .times 0⟩) ⟨.group .playback, 2⟩ ⟨.ok (), .held⟩ ∈
      Turn.effects Sample.site ⟨Sample.stopped, Sample.play⟩ := List.mem_of_getElem? (i := 1) rfl
  obtain ⟨-, -, hbetween, -⟩ := exclusion hrun
  obtain ⟨group, session, -, hsession, u, hu, hends⟩ := hbetween
    [⟨Sample.fresh, Sample.create⟩, ⟨Sample.offered, .completion Sample.offer⟩,
      ⟨Sample.active, Sample.group⟩] ⟨Sample.grouped, Sample.play⟩ [⟨Sample.played, Sample.stop⟩]
    ⟨Sample.stopped, Sample.play⟩ [] _ .playback 1 _ _ .playback 2 _ rfl hfirst rfl hsecond
  cases List.mem_singleton.1 hu
  exact ⟨_, _, hfirst, hsecond, group, session, hsession, hends⟩

end

end CallMedia
