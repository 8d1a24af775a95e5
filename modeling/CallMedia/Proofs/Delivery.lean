/-
  Who hears of an outcome, over every run.

  An operation that the media server accepted is outstanding until its outcome is handled, or until it is
  disturbed: by a later request for the same activity that finds the group idle, whatever becomes of it,
  or by the end of the session.  Stopping does not disturb it, nor does losing the group.

  An outcome that is handled while its operation is outstanding is given to the sender of the message
  that the operation was started for, and to nobody else; any other outcome is dropped without a trace
  outside the journal.  What makes it so is one invariant (`Run.slot_iff`): a slot awaits a generation
  for a recipient exactly if that recipient's message had the generation accepted, nothing has disturbed
  it since, and no outcome of it has been handled yet.
-/
import CallMedia.Proofs.Activities
import CallMedia.Proofs.Generations

namespace CallMedia

/-! ## Operations outstanding

This is read off the turns alone: one of them accepted the operation, and none after it disturbed it. -/

namespace Turn

variable {σ : Type} (site : Site σ) (t : Turn σ) (a : Activity)

/-- A turn that makes an operation of an activity obsolete: a request for the same activity finds the
    group idle, or the session is closed. -/
def Disturbs : Prop :=
  (∃ sender, Passes site.settings t.before.phase t.before.desk.leg t.item a sender) ∨
    Closes t.before.phase t.item

/-- A turn in which a message of the given sender has a generation of an activity started, and the media
    server accepts it. -/
def Accepts (g : Nat) (sender : Recipient) : Prop :=
  (∃ m, t.item = .message sender m) ∧
    ∃ what answer, .started what ⟨.group a, g⟩ answer ∈ t.effects site ∧ answer.result = .ok ()

end Turn

/-- A generation of an activity was accepted for a sender, and nothing has disturbed it since. -/
def Outstanding {σ : Type} (site : Site σ) (a : Activity) (g : Nat) (sender : Recipient)
    (ts : List (Turn σ)) : Prop :=
  ∃ earlier i between, ts = earlier ++ i :: between ∧ i.Accepts site a g sender ∧
    ∀ u ∈ between, ¬ u.Disturbs site a

section

variable {σ : Type} {site : Site σ} {ts : List (Turn σ)} {t : Turn σ} {a : Activity} {g : Nat}
  {sender : Recipient}

/-- A turn adds what it has accepted, and takes away what it disturbs. -/
theorem outstanding_concat :
    Outstanding site a g sender (ts ++ [t]) ↔
      t.Accepts site a g sender ∨ (Outstanding site a g sender ts ∧ ¬ t.Disturbs site a) :=
  since_concat

/-- What a turn accepts is what it starts. -/
theorem Turn.accepts_iff :
    t.Accepts site a g sender ↔
      (∃ m, t.item = .message sender m) ∧
        ∃ what answer, (what, g, answer) ∈ startsOf (.group a) (t.shown site) ∧
          answer.result = .ok () := by
  unfold Turn.Accepts
  refine and_congr_right fun _ => exists_congr fun what => exists_congr fun answer =>
    and_congr_left fun _ => ?_
  rw [mem_startsOf, Turn.mem_shown]
  exact ⟨fun hm => ⟨hm, rfl⟩, fun hm => hm.1⟩

end

/-! ## The invariant

The slot of an activity keeps a generation, a flag and a recipient, and nothing else of its past.  The
invariant says that this is enough to tell what is outstanding. -/

namespace Run

variable {σ : Type} {site : Site σ} {ts : List (Turn σ)} {c : Controller σ}
  {queued : List Completion}

/-- A slot that awaits an outcome knows whose it is. -/
theorem bound (h : Run site ts c queued) (a : Activity)
    (hp : (c.desk.leg.slot (.group a)).pending = true) :
    ∃ r, c.desk.leg.slot (.group a) = ⟨(c.desk.leg.slot (.group a)).generation, true, some r⟩ := by
  refine h.invariant (P := fun _ _ l => (l.slot (.group a)).pending = true →
    ∃ r, l.slot (.group a) = ⟨(l.slot (.group a)).generation, true, some r⟩) ?_ ?_ hp
  · intro hp
    cases a <;> cases hp
  · intro ts t queued hbefore ih hp
    obtain ⟨hturned, -, -⟩ := Turn.turned (t := t) site hbefore.sound
    -- a slot is bound and armed in one turn, so that it never awaits without a recipient
    cases hturned.touched a with
    | bound sender hpass hslot hstarts hactive => rw [hslot] at hp; cases hp
    | started sender what group answer hpass hgroup hwhat hslot hstarts hactive hsame =>
      rw [hslot] at hp ⊢
      dsimp only at hp
      rw [hp]
      exact ⟨sender, rfl⟩
    | closed hc hslot hstarts => rw [hslot] at hp; cases hp
    | answered e hitem hcat hw hslot hstarts => rw [hslot] at hp; cases hp
    | untouched hpass hc ha hslot hstarts =>
      rw [hslot] at hp ⊢
      exact ih hp

/-- A slot awaits a generation for a recipient exactly if that is outstanding for it, and no outcome of
    it has been handled. -/
theorem slot_iff (h : Run site ts c queued) (a : Activity) (g : Nat) (r : Recipient) :
    c.desk.leg.slot (.group a) = ⟨g, true, some r⟩ ↔
      Outstanding site a g r ts ∧ ⟨.group a, g⟩ ∉ handledSinks ts := by
  refine h.invariant (P := fun ts _ l => l.slot (.group a) = ⟨g, true, some r⟩ ↔
    Outstanding site a g r ts ∧ ⟨.group a, g⟩ ∉ handledSinks ts) ?_ ?_
  · constructor
    · intro hslot
      cases a <;> cases hslot
    · exact fun hout => absurd hout.1 not_since_nil
  · intro ts t queued hbefore ih
    obtain ⟨hturned, -, -⟩ := Turn.turned (t := t) site hbefore.sound
    rw [outstanding_concat, handledSinks_concat, List.mem_append, not_or, Turn.accepts_iff]
    -- where nothing is started, nothing is accepted
    have hquiet : startsOf (.group a) (t.shown site) = [] →
        ¬ ((∃ m, t.item = .message r m) ∧ ∃ what answer,
          (what, g, answer) ∈ startsOf (.group a) (t.shown site) ∧ answer.result = .ok ()) := by
      rintro hnone ⟨-, what, answer, hm, -⟩
      rw [hnone] at hm
      cases hm
    cases hturned.touched a with
    | bound sender hpass hslot hstarts hactive =>
      refine iff_of_false (fun heq => ?_) ?_
      · rw [hslot] at heq
        cases heq
      · rintro ⟨hout | ⟨-, hundisturbed⟩, -⟩
        · exact hquiet hstarts hout
        · exact hundisturbed (.inl ⟨sender, hpass⟩)
    | started sender what group answer hpass hgroup hwhat hslot hstarts hactive hsame =>
      obtain ⟨-, -, m, k, hitem, hk, hka⟩ := id hpass
      rw [hslot, hstarts, hitem]
      constructor
      · intro heq
        cases hr : answer.result with
        | error e => rw [hr] at heq; cases heq
        | ok u =>
          rw [hr] at heq
          cases heq
          refine ⟨.inl ⟨⟨m, rfl⟩, what, answer, List.mem_singleton_self _, hr⟩, fun hm => ?_, nofun⟩
          -- the generation is new, so no outcome of it can have been handled
          have hle := hbefore.handled_le hm
          exact Nat.not_succ_le_self _ hle
      · rintro ⟨⟨⟨m', heq⟩, what', answer', hm, hok⟩ | ⟨-, hundisturbed⟩, -⟩
        · rw [List.mem_singleton] at hm
          cases hm
          cases heq
          rw [hok]
          rfl
        · exact absurd (.inl ⟨sender, hpass⟩) hundisturbed
    | closed hc hslot hstarts =>
      refine iff_of_false (fun heq => ?_) ?_
      · rw [hslot] at heq
        cases heq
      · rintro ⟨hout | ⟨-, hundisturbed⟩, -⟩
        · exact hquiet hstarts hout
        · exact hundisturbed (.inr hc)
    | answered e hitem hcat hw hslot hstarts =>
      refine iff_of_false (fun heq => ?_) ?_
      · rw [hslot] at heq
        cases heq
      · rintro ⟨hout | ⟨hout, -⟩, hold, hnew⟩
        · exact hquiet hstarts hout
        · -- what is outstanding and unhandled is awaited, and that is what has just been handled
          have heq := ih.2 ⟨hout, hold⟩
          refine hnew ?_
          rw [hitem]
          have hsink : e.sink = ⟨.group a, g⟩ := by
            unfold Completion.sink
            rw [hcat, hw.2, heq]
          exact List.mem_singleton.2 hsink.symm
    | untouched hpass hc ha hslot hstarts =>
      -- neither side changes, unless an outcome were handled that the slot awaits
      have hundisturbed : ¬ t.Disturbs site a := by
        rintro (⟨sender, hp⟩ | hclose)
        · exact hpass sender hp
        · exact hc hclose
      rw [hslot, ih]
      constructor
      · rintro ⟨hout, hold⟩
        refine ⟨.inr ⟨hout, hundisturbed⟩, hold, fun hnew => ?_⟩
        have heq := ih.2 ⟨hout, hold⟩
        cases hitem : t.item with
        | message sender m => rw [hitem] at hnew; cases hnew
        | query caller => rw [hitem] at hnew; cases hnew
        | completion e =>
          rw [hitem] at hnew
          have hsink : (⟨.group a, g⟩ : Sink) = e.sink := List.mem_singleton.1 hnew
          have hcat : e.category = .group a := (congrArg Sink.category hsink).symm
          have hgen : e.generation = g := (congrArg Sink.generation hsink).symm
          refine ha e hitem hcat ?_
          unfold Leg.Awaits
          rw [heq]
          exact ⟨rfl, hgen⟩
      · rintro ⟨hout | ⟨hout, -⟩, hold, -⟩
        · exact absurd hout (hquiet hstarts)
        · exact ⟨hout, hold⟩

end Run

/-! ## Handling an outcome

What the slot awaits decides what comes of an outcome, and the invariant says what it awaits. -/

section

variable {σ : Type} {site : Site σ} {w : Surroundings} {p p' : Phase} {l l' : Leg} {e : Completion}
  {a : Activity} {es : List Effect}

/-- An outcome of an activity that is awaited goes to the recipient that the slot names, and ends the
    activity in flight if it is that very one. -/
theorem Turned.reports (h : Turned site w p l (.completion e) p' l' es)
    (hcat : e.category = .group a) {r : Recipient}
    (hslot : l.slot (.group a) = ⟨e.generation, true, some r⟩) :
    (∃ result, e.outcome.result? l.endKey = some result ∧
      noticesOf es = [(r, .operationResult a result)]) ∧
    l'.active = if l.active = some ⟨a, e.generation⟩ then none else l.active := by
  have hawaits : l.Awaits (.group a) e.generation := by
    unfold Leg.Awaits
    rw [hslot]
    exact ⟨rfl, rfl⟩
  cases h with
  | ignored item hout => exact absurd (hcat ▸ hawaits) hout
  | agreed g o localSdp hp awaited ho => cases hcat
  | broke g o fault hp awaited ho => cases hcat
  | finished e b result hcat' awaited hr =>
    rw [hcat] at hcat'
    cases hcat'
    refine ⟨⟨result, hr, ?_⟩, rfl⟩
    unfold Surroundings.reporting
    rw [w.noticesOf_telling, hslot]
    rfl

/-- An outcome of an activity that is not awaited changes nothing and shows nothing. -/
theorem Turned.drops (h : Turned site w p l (.completion e) p' l' es)
    (hcat : e.category = .group a) (hw : ¬ l.Awaits (.group a) e.generation) :
    p' = p ∧ l' = l ∧ es = [] := by
  cases h with
  | ignored item hout => exact ⟨rfl, rfl, rfl⟩
  | agreed g o localSdp hp awaited ho => cases hcat
  | broke g o fault hp awaited ho => cases hcat
  | finished e b result hcat' awaited hr =>
    rw [hcat] at hcat'
    cases hcat'
    exact absurd awaited hw

end

/-- Outcomes reach whoever asked, and only them.  Take any run, and an outcome of an activity that is
    handled in it.

    If the media server accepted its operation, then a result is given exactly if the operation was not
    disturbed in between; it is then one result, of that activity, to the sender of the message that the
    operation was started for, nobody is told anything else, and the activity in flight is cleared
    exactly if it is that very one.  In every other case, such as that the media server rejected the
    operation, nothing changes and nothing is shown. -/
theorem completion_delivered {σ : Type} {site : Site σ} {pre post : List (Turn σ)} {t : Turn σ}
    {c : Controller σ} {queued : List Completion} (h : Run site (pre ++ t :: post) c queued)
    {e : Completion} (hitem : t.item = .completion e) {a : Activity}
    (hcat : e.category = .group a) :
    (∀ earlier i between sender, pre = earlier ++ i :: between →
      i.Accepts site a e.generation sender →
      ((∃ r b result, (r, .operationResult b result) ∈ noticesOf (t.effects site)) ↔
        ∀ u ∈ between, ¬ u.Disturbs site a) ∧
      ((∀ u ∈ between, ¬ u.Disturbs site a) →
        (∃ result, e.outcome.result? t.before.desk.leg.endKey = some result ∧
          noticesOf (t.effects site) = [(sender, .operationResult a result)]) ∧
        (t.after site).desk.leg.active =
          if t.before.desk.leg.active = some ⟨a, e.generation⟩ then none
          else t.before.desk.leg.active)) ∧
    ((∀ sender, ¬ Outstanding site a e.generation sender pre) →
      (t.after site).phase = t.before.phase ∧ (t.after site).desk.leg = t.before.desk.leg ∧
        t.shown site = []) ∧
    (∀ i ∈ pre, ∀ what answer fault, .started what ⟨.group a, e.generation⟩ answer ∈ i.effects site →
      answer.result = .error fault → ∀ sender, ¬ Outstanding site a e.generation sender pre) := by
  obtain ⟨queued', hbefore, hwaits⟩ := h.before
  obtain ⟨hturned, -, -⟩ := Turn.turned (t := t) site hbefore.sound
  rw [hitem] at hturned
  have hunhandled : ⟨.group a, e.generation⟩ ∉ handledSinks pre := by
    have hnot := hbefore.unhandled (hwaits e hitem)
    unfold Completion.sink at hnot
    rw [hcat] at hnot
    exact hnot
  have hslot : ∀ r, t.before.desk.leg.slot (.group a) = ⟨e.generation, true, some r⟩ ↔
      Outstanding site a e.generation r pre := by
    intro r
    rw [hbefore.slot_iff]
    exact and_iff_left hunhandled
  -- what is not outstanding is not awaited either
  have hdrops : (∀ sender, ¬ Outstanding site a e.generation sender pre) →
      (t.after site).phase = t.before.phase ∧ (t.after site).desk.leg = t.before.desk.leg ∧
        t.shown site = [] := by
    intro hnone
    refine hturned.drops hcat fun hw => ?_
    obtain ⟨r, hr⟩ := hbefore.bound a hw.1
    rw [← hw.2] at hr
    exact hnone r ((hslot r).1 hr)
  -- what is outstanding is awaited, for whoever asked
  have hreports : ∀ r, Outstanding site a e.generation r pre →
      (∃ result, e.outcome.result? t.before.desk.leg.endKey = some result ∧
        noticesOf (t.effects site) = [(r, .operationResult a result)]) ∧
      (t.after site).desk.leg.active =
        if t.before.desk.leg.active = some ⟨a, e.generation⟩ then none
        else t.before.desk.leg.active := by
    intro r hr
    rw [Turn.noticesOf_effects]
    exact hturned.reports hcat ((hslot r).2 hr)
  refine ⟨fun earlier i between sender hpre hi => ⟨⟨?_, ?_⟩, ?_⟩, hdrops, ?_⟩
  · -- a result was given, so something is outstanding: it can only be what `i` had started
    rintro ⟨r, b, result, hm⟩
    have hsome : ∃ r', Outstanding site a e.generation r' pre := by
      refine Classical.byContradiction fun hnone => ?_
      obtain ⟨-, -, hquiet⟩ := hdrops fun r' hr' => hnone ⟨r', hr'⟩
      rw [Turn.noticesOf_effects, hquiet] at hm
      cases hm
    obtain ⟨r', earlier', i', between', hpre', hi', hundisturbed⟩ := hsome
    obtain ⟨-, what, answer, hstart, -⟩ := hi
    obtain ⟨-, what', answer', hstart', -⟩ := hi'
    obtain ⟨-, -, hbetween⟩ := hbefore.begun_once hpre hpre' hstart hstart'
    rw [hbetween]
    exact hundisturbed
  · intro hundisturbed
    obtain ⟨⟨result, -, htold⟩, -⟩ := hreports sender ⟨earlier, i, between, hpre, hi, hundisturbed⟩
    refine ⟨sender, a, result, ?_⟩
    rw [htold]
    exact List.mem_singleton_self _
  · intro hundisturbed
    exact hreports sender ⟨earlier, i, between, hpre, hi, hundisturbed⟩
  · rintro i hi what answer fault hstart hrejected sender
      ⟨earlier', i', between', hpre', ⟨-, what', answer', hstart', haccepted⟩, -⟩
    obtain ⟨earlier, between, hpre⟩ := List.append_of_mem hi
    obtain ⟨-, rfl, -⟩ := hbefore.begun_once hpre hpre' hstart hstart'
    -- the slot after the turn tells whether the operation was accepted, so it cannot be both
    have hsound := h.sound_of_mem (List.mem_append_left _ hi)
    have htouched := (Turn.turned (t := i) site hsound).1.touched a
    obtain ⟨_, _, -, -, -, -, -, hslot₁, -⟩ :=
      htouched.of_started ((Turn.mem_shown site i).2 ⟨hstart, rfl⟩)
    obtain ⟨_, _, -, -, -, -, -, hslot₂, -⟩ :=
      htouched.of_started ((Turn.mem_shown site i).2 ⟨hstart', rfl⟩)
    rw [hslot₁, hrejected, haccepted] at hslot₂
    cases hslot₂

/-- The end of the play reaches the player, and nobody else. -/
theorem completion_delivered_played :
    Turn.Accepts Sample.site ⟨Sample.grouped, Sample.play⟩ .playback 1 Sample.player ∧
    ∃ result, Sample.playEnd.outcome.result? "" = some result ∧
      noticesOf (Turn.effects Sample.site ⟨Sample.played, .completion Sample.playEnd⟩) =
        [(Sample.player, .operationResult .playback result)] := by
  have hrun : Run Sample.site
      ([⟨Sample.fresh, Sample.create⟩, ⟨Sample.offered, .completion Sample.offer⟩,
        ⟨Sample.active, Sample.group⟩, ⟨Sample.grouped, Sample.play⟩] ++
        ⟨Sample.played, .completion Sample.playEnd⟩ :: [])
      (Sample.handled Sample.played (.completion Sample.playEnd)) [] :=
    .turn _ Sample.played [Sample.playEnd] (.completion Sample.playEnd) Sample.run_played
      fun e he => by
        cases he
        exact List.mem_cons_self
  have haccepts : Turn.Accepts Sample.site ⟨Sample.grouped, Sample.play⟩ .playback 1
      Sample.player :=
    ⟨⟨_, rfl⟩, .play ⟨"1"⟩ ⟨[], .times 0⟩, ⟨.ok (), .held⟩, List.mem_of_getElem? (i := 1) rfl, rfl⟩
  obtain ⟨hdelivered, -, -⟩ :=
    completion_delivered hrun (e := Sample.playEnd) rfl (a := .playback) rfl
  obtain ⟨-, hreports⟩ := hdelivered
    [⟨Sample.fresh, Sample.create⟩, ⟨Sample.offered, .completion Sample.offer⟩,
      ⟨Sample.active, Sample.group⟩] ⟨Sample.grouped, Sample.play⟩ [] Sample.player rfl haccepts
  obtain ⟨⟨result, hresult, htold⟩, -⟩ := hreports fun u hu => absurd hu List.not_mem_nil
  exact ⟨haccepts, result, hresult, htold⟩

end CallMedia
