/-
  Stopping is total and final.

  What the group does is stopped by a stop, with an artifact or without, and by stopping the group
  (`Item.Halts`).  Whatever the media server answers, nothing is in flight afterwards.  It was asked once,
  to stop just what was in flight, on the group that is held; where nothing was, nobody was asked for
  anything.  Besides the activity, only the call recording that was being written is let go of
  (`Turn.Halted`), and it is the slots being left alone that lets the outcome of what was stopped still
  reach whoever asked for it.

  Nothing but an activity that the media server accepts brings one back in flight.  Until then every
  further stop is out of place, and so it is ignored (`Run.idle_since`).
-/
import CallMedia.Proofs.Delivery
import CallMedia.Proofs.Ignoring
import CallMedia.Proofs.InFlight

namespace CallMedia

/-! ## What is asked of the media server

A stop that asks for an artifact also speaks to a store.  So what it asks of the media server is
filtered out, and is shown to be what `stopActive` asks, whatever comes after it. -/

/-- Whether an effect asks the media server for something. -/
def Effect.asksServer : Effect → Bool
  | created .. | performed .. | started .. => true
  | stored .. | told .. | logged _ => false

/-- Whether an item stops what the group does. -/
def Item.Halts : Item → Prop
  | .message _ .stopGroup | .message _ (.stop _) => True
  | _ => False

section

variable {w : Surroundings} {l l' : Leg} {es : List Effect}

/-- Stopping what is in flight asks the media server, and does nothing else. -/
theorem ActiveStopped.filter_asksServer {result : Except Fault (Option Active)}
    (h : ActiveStopped l result es) : es.filter Effect.asksServer = es := by
  cases h <;> rfl

/-- Where something is in flight on a group, it is stopped there, and asked for once. -/
theorem ActiveStopped.once {result : Except Fault (Option Active)} (h : ActiveStopped l result es)
    {a : Active} {group : GroupHandle} (ha : l.active = some a) (hg : l.group = some group) :
    ∃ answer, es = [.performed (.stop a.activity group) answer] := by
  cases h with
  | idle ha' => rw [ha] at ha'; cases ha'
  | groupless a' ha' hg' => rw [hg] at hg'; cases hg'
  | stopped a' group' ha' hg' =>
    cases Option.some.inj (ha.symm.trans ha')
    cases Option.some.inj (hg.symm.trans hg')
    exact ⟨_, rfl⟩
  | refused a' group' e ha' hg' =>
    cases Option.some.inj (ha.symm.trans ha')
    cases Option.some.inj (hg.symm.trans hg')
    exact ⟨_, rfl⟩

/-- Where nothing is in flight, nothing is asked for. -/
theorem ActiveStopped.never {result : Except Fault (Option Active)} (h : ActiveStopped l result es)
    (ha : l.active = none) : es = [] := by
  cases h with
  | idle ha' => rfl
  | groupless a ha' hg => rfl
  | stopped a group ha' hg => rw [ha] at ha'; cases ha'
  | refused a group e ha' hg => rw [ha] at ha'; cases ha'

/-- All that a stop asks of the media server is to stop what is in flight. -/
theorem Stopped.asked {reader : Recording.Reader} {apiVersion : String} {artifact : Bool}
    (h : Stopped reader apiVersion w artifact l l' es) :
    ∃ result, ActiveStopped l result (es.filter Effect.asksServer) := by
  have htold : ∀ n, (w.tellingCall l n).filter Effect.asksServer = [] :=
    fun n => w.filter_telling (fun _ _ _ => rfl) _ n
  have hrest : ∀ {result es₁ es₂}, ActiveStopped l result es₁ → es₂.filter Effect.asksServer = [] →
      ∃ result, ActiveStopped l result ((es₁ ++ es₂).filter Effect.asksServer) := by
    intro result es₁ es₂ hs hnone
    refine ⟨result, ?_⟩
    rw [List.filter_append, hs.filter_asksServer, hnone, List.append_nil]
    exact hs
  cases h with
  | other was es hs hw => exact ⟨_, hs.filter_asksServer.symm ▸ hs⟩
  | plain g es hs hr => exact ⟨_, hs.filter_asksServer.symm ▸ hs⟩
  | dropped g r es hs hr hg hd => exact ⟨_, hs.filter_asksServer.symm ▸ hs⟩
  | failed e es hs => exact hrest hs (htold _)
  | filed g r accountId store m es hs hr hg ha haccount hstore hm => exact hrest hs rfl
  | unfiled g r accountId store m e es hs hr hg ha haccount hstore hm => exact hrest hs (htold _)

/-- All that stopping a group asks of the media server is to stop what is in flight. -/
theorem GroupStopped.asked (h : GroupStopped w l es) :
    ∃ result, ActiveStopped l result (es.filter Effect.asksServer) ∧
      (l.active = none → ∀ e ∈ es, e.asks = false) := by
  have hcases : ∃ result es₁ n, ActiveStopped l result es₁ ∧ es = es₁ ++ w.tellingAll l n := by
    cases h with
    | quiet was es₁ hs => exact ⟨_, es₁, _, hs, rfl⟩
    | failed e es₁ hs => exact ⟨_, es₁, _, hs, rfl⟩
  obtain ⟨result, es₁, n, hs, rfl⟩ := hcases
  refine ⟨result, ?_, fun ha => ?_⟩
  · have htold : (w.tellingAll l n).filter Effect.asksServer = [] :=
      w.filter_telling (fun _ _ _ => rfl) _ n
    rw [List.filter_append, hs.filter_asksServer, htold, List.append_nil]
    exact hs
  · rw [hs.never ha]
    exact w.not_asks _ n

end

/-! ## One stop

What a turn does that stops something is read off the relation for it, without looking at the answers:
the cases differ in what is told and filed, not in what is let go of. -/

section

variable {σ : Type} {site : Site σ} {w : Surroundings} {p p' : Phase} {l l' : Leg} {item : Item}
  {es : List Effect}

/-- A stop lets go of what is in flight, and at most of the call recording, and of nothing else. -/
theorem Turned.halted (h : Turned site w p l item p' l' es) (hitem : item.Halts) :
    p' = p ∧ l' = { l with active := none, recording := l'.recording } ∧
    (∃ result, ActiveStopped l result (es.filter Effect.asksServer)) ∧
    (l.active = none → ∀ e ∈ es, e.asks = false) := by
  -- two kinds of turn stop what the group does, and a stop
  -- may be out of place; no other handles such an item
  cases h with
  | ignored item hout =>
    cases item with
    | message sender m =>
      cases m with
      | stop artifact =>
        have hidle : l.active = none := hout
        refine ⟨rfl, ?_, ⟨_, .idle hidle⟩, fun _ => List.forall_mem_nil _⟩
        rw [← hidle]
      | stopGroup => exact hout.elim
      | _ => exact hitem.elim
    | completion e => exact hitem.elim
    | query caller => exact hitem.elim
  | groupStopped sender es hs =>
    obtain ⟨result, hasked, hquiet⟩ := hs.asked
    exact ⟨rfl, rfl, ⟨result, hasked⟩, hquiet⟩
  | stopped sender artifact l' es ha hs =>
    refine ⟨rfl, ?_, hs.asked, fun hidle => absurd hidle ha⟩
    rcases hs.leg with hl | hl <;> rw [hl]
  | attempted sender m k r l' es hp hm ht =>
    cases m with
    | stop artifact => cases hm
    | stopGroup => cases hm
    | _ => exact hitem.elim
  | joined sender m mixer l' es hp hm hj => rcases hm with rfl | rfl <;> exact hitem.elim
  | rejoined sender m direction k mixer answer hp hd hk hm =>
    rcases hd with ⟨rfl, -⟩ | ⟨rfl, -⟩ <;> exact hitem.elim
  | _ => exact hitem.elim

end

/-- A turn that stops what the group does.  The fields say what is so whatever the media server and the
    store answer. -/
structure Turn.Halted {σ : Type} (site : Site σ) (t : Turn σ) : Prop where
  idle : (t.after site).desk.leg.active = none
  phase : (t.after site).phase = t.before.phase
  /-- Every handle and every slot is left alone. -/
  leg : (t.after site).desk.leg =
    { t.before.desk.leg with active := none, recording := (t.after site).desk.leg.recording }
  /-- What was in flight is stopped once, on the group that is held. -/
  once : ∀ a, t.before.desk.leg.active = some a → ∃ group answer,
    t.before.desk.leg.group = some group ∧
    (t.effects site).filter Effect.asksServer = [.performed (.stop a.activity group) answer]
  /-- Where nothing was in flight, neither the media server nor a store is asked for anything. -/
  never : t.before.desk.leg.active = none → ∀ e ∈ t.effects site, e.asks = false
  /-- The outcome of what was stopped is still accepted. -/
  awaited : ∀ a, t.before.desk.leg.active = some a →
    (((t.after site).desk.leg.slot (.group a.activity)).accept a.generation).1 = true

/-- A turn that stops what the group does is one of these. -/
theorem Turn.halted {σ : Type} {site : Site σ} {t : Turn σ}
    (hs : Sound t.before.phase t.before.desk.leg) (hitem : t.item.Halts) : t.Halted site := by
  obtain ⟨hturned, -, -⟩ := t.turned site hs
  obtain ⟨hphase, hleg, ⟨result, hasked⟩, hquiet⟩ := hturned.halted hitem
  rw [← t.filter_effects site fun _ => rfl] at hasked
  refine
    { idle := by rw [hleg]
      phase := hphase
      leg := hleg
      once := fun a ha => ?_
      never := fun ha => t.not_asks_of_shown (hquiet ha)
      awaited := fun a ha => ?_ }
  · -- what is in flight is in flight on a group
    obtain ⟨group, hg⟩ := Option.ne_none_iff_exists'.1 (hs.busy a ha).1
    obtain ⟨answer, honce⟩ := hasked.once ha hg
    exact ⟨group, answer, hg, honce⟩
  · rw [Slot.accept_iff, hleg]
    exact (hs.busy a ha).2

/-! ## What follows a stop -/

namespace Run

variable {σ : Type} {site : Site σ} {pre between : List (Turn σ)} {t : Turn σ} {c : Controller σ}
  {queued : List Completion}

/-- After a stop nothing is in flight until the media server accepts another activity. -/
theorem idle_since (h : Run site (pre ++ t :: between) c queued) (hitem : t.item.Halts)
    (hquiet : ∀ u ∈ between, ∀ what a g fate,
      .started what ⟨.group a, g⟩ ⟨.ok (), fate⟩ ∉ u.effects site) : c.desk.leg.active = none := by
  obtain ⟨queued', hbefore, -⟩ := h.before
  -- the induction is on what follows the stop
  refine h.onwards (P := fun between _ l =>
    (∀ u ∈ between, ∀ what a g fate,
      .started what ⟨.group a, g⟩ ⟨.ok (), fate⟩ ∉ u.effects site) → l.active = none) ?_ ?_ hquiet
  · exact fun _ => (Turn.halted hbefore.sound hitem).idle
  · intro between u queued hrun ih hall
    obtain ⟨hearlier, hu⟩ := List.forall_mem_append.1 hall
    have hidle := ih hearlier
    refine Option.eq_none_iff_forall_ne_some.2 fun a ha => ?_
    obtain ⟨hturned, -, -⟩ := u.turned site hrun.sound
    -- what is in flight after a turn was so before, or was accepted in it
    rcases hturned.recorded.active ha with hactive | ⟨-, what, fate, hstart⟩
    · rw [hidle] at hactive
      cases hactive
    · exact hu u (List.mem_singleton_self u) what _ _ fate ((u.mem_shown site).1 hstart).1

/-- What is handled right after a stop finds the leg as the stop left it. -/
theorem leg_after (h : Run site (pre ++ [t]) c queued) :
    c.desk.leg = (t.after site).desk.leg :=
  h.onwards (P := fun between _ l => between = [] → l = (t.after site).desk.leg) (fun _ => rfl)
    (fun between _ _ _ _ hnil => absurd hnil (List.append_ne_nil_of_right_ne_nil between nofun)) rfl

/-- An outcome of what was stopped, handled next, reaches a recipient as it would have without. -/
theorem outcome_after_halt (h : Run site (pre ++ [t]) c queued) (hitem : t.item.Halts) {a : Active}
    (ha : t.before.desk.leg.active = some a) {e : Completion}
    (hcat : e.category = .group a.activity) (hgen : e.generation = a.generation) :
    ∃ r result, t.before.desk.leg.slot (.group a.activity) = ⟨a.generation, true, some r⟩ ∧
      noticesOf (Turn.effects site ⟨c, .completion e⟩) =
        [(r, .operationResult a.activity result)] := by
  obtain ⟨queued', hbefore, -⟩ := h.before
  have hawaits := (hbefore.sound.busy a ha).2
  obtain ⟨r, hslot⟩ := hbefore.bound a.activity hawaits.1
  rw [← hawaits.2] at hslot
  have hslot' : c.desk.leg.slot (.group a.activity) = ⟨e.generation, true, some r⟩ := by
    rw [h.leg_after, (Turn.halted hbefore.sound hitem).leg, hgen]
    exact hslot
  obtain ⟨hturned, -, -⟩ := Turn.turned (t := ⟨c, .completion e⟩) site h.sound
  obtain ⟨⟨result, -, htold⟩, -⟩ := hturned.reports hcat hslot'
  exact ⟨r, result, hslot, (Turn.noticesOf_effects site _).trans htold⟩

end Run

/-- Stopping is total, and final.  Take any run and a stop that is handled in it, of either kind.

    Whatever the media server and the store answer, nothing is in flight afterwards; the media server was
    asked once, to stop what was in flight, or not at all; phase, handles and slots are left alone
    (`Turn.Halted`).  So an outcome of what was stopped that is handled next still goes to the recipient
    it was meant for.

    Until the media server accepts another activity, any number of further stops, with an artifact or
    without, leave the controller as it is and show nothing. -/
theorem stopped_for_good {σ : Type} {site : Site σ} {pre between : List (Turn σ)} {t : Turn σ}
    {c : Controller σ} {queued : List Completion} (h : Run site (pre ++ t :: between) c queued)
    (hitem : t.item.Halts) :
    t.Halted site ∧
    (between = [] → ∀ a, t.before.desk.leg.active = some a → ∀ e : Completion,
      e.category = .group a.activity → e.generation = a.generation → ∃ r result,
        t.before.desk.leg.slot (.group a.activity) = ⟨a.generation, true, some r⟩ ∧
        noticesOf (Turn.effects site ⟨c, .completion e⟩) =
          [(r, .operationResult a.activity result)]) ∧
    ((∀ u ∈ between, ∀ what a g fate,
        .started what ⟨.group a, g⟩ ⟨.ok (), fate⟩ ∉ u.effects site) →
      c.desk.leg.active = none ∧
      ∀ items : List Item, (∀ item ∈ items, ∃ sender artifact, item = .message sender (.stop artifact)) →
        ∃ lines, items.foldl (fun c item => c.handle site item) c = c.atDesk (·.journal lines)) := by
  obtain ⟨queued', hbefore, -⟩ := h.before
  refine ⟨Turn.halted hbefore.sound hitem, ?_, ?_⟩
  · rintro rfl a ha e hcat hgen
    exact h.outcome_after_halt hitem ha hcat hgen
  · -- with nothing in flight every further stop is out of place
    intro hquiet
    have hidle := h.idle_since hitem hquiet
    refine ⟨hidle, fun items hitems => Controller.unmoved_iff.1 ?_⟩
    refine Controller.foldl_unmoved site fun item hmem => ?_
    obtain ⟨sender, artifact, rfl⟩ := hitems item hmem
    exact hidle

namespace Sample

/-- A media server that reports the end of a collection at once and then refuses it all the same, refuses
    to stop anything, and otherwise does whatever it is asked. -/
def unruly : Site Unit where
  settings := {}
  server := ⟨"sample", .v4 127 0 0 1, 5060, 5⟩
  create s _ := (.ok "1", s)
  perform s what :=
    match what with
    | .stop .. => (.error (.provider "busy"), s)
    | _ => (.ok (), s)
  start s what _ :=
    match what with
    | .collect .. => (⟨.error (.provider "busy"), .completed (.digitCollection (.completed "1"))⟩, s)
    | _ => (⟨.ok (), .held⟩, s)
  store s _ _ := (.ok (), s)

/-- The controller once it has handled an item there. -/
def faced (c : Controller Unit) (item : Item) : Controller Unit :=
  (c.handle unruly item).atDesk fun d => { d with posted := [] }

def seated : Controller Unit := faced (used (faced fresh create) ⟨.negotiation, 1⟩) (.completion offer)

def ready : Controller Unit := faced seated group

def playing : Controller Unit := faced ready play

/-- The session is active and has its group; nothing was collected or stopped so far. -/
theorem run_ready :
    Run unruly [⟨fresh, create⟩, ⟨used (faced fresh create) ⟨.negotiation, 1⟩, .completion offer⟩,
      ⟨seated, group⟩] ready [] :=
  .turn _ seated [] group
    (.turn _ _ [offer] (.completion offer)
      (.complete _ _ [] _ offer.outcome _ (.turn [] fresh [] create (.start _ rfl rfl rfl) nofun)
        List.mem_cons_self rfl)
      fun e he => by
        cases he
        exact List.mem_cons_self)
    nofun

end Sample

/-- A play is stopped, which the media server refuses: it counts as stopped nevertheless, its end still
    reaches the player, and a second stop is ignored. -/
theorem stopped_for_good_refused :
    Sample.playing.desk.leg.active = some ⟨.playback, 1⟩ ∧
    Turn.Halted Sample.unruly ⟨Sample.playing, Sample.stop⟩ ∧
    (∃ result, noticesOf (Turn.effects Sample.unruly
        ⟨Sample.faced Sample.playing Sample.stop, .completion Sample.playEnd⟩) =
      [(Sample.player, .operationResult .playback result)]) ∧
    ∃ lines, (Sample.faced Sample.playing Sample.stop).handle Sample.unruly Sample.stop =
      (Sample.faced Sample.playing Sample.stop).atDesk (·.journal lines) := by
  have hrun : Run Sample.unruly
      ([⟨Sample.fresh, Sample.create⟩,
        ⟨Sample.used (Sample.faced Sample.fresh Sample.create) ⟨.negotiation, 1⟩,
          .completion Sample.offer⟩,
        ⟨Sample.seated, Sample.group⟩, ⟨Sample.ready, Sample.play⟩] ++
        ⟨Sample.playing, Sample.stop⟩ :: [])
      (Sample.faced Sample.playing Sample.stop) [] :=
    .turn _ Sample.playing [] Sample.stop
      (.turn _ Sample.ready [] Sample.play Sample.run_ready nofun) nofun
  obtain ⟨hhalted, houtcome, hagain⟩ := stopped_for_good hrun trivial
  obtain ⟨r, result, hslot, htold⟩ := houtcome rfl ⟨.playback, 1⟩ rfl Sample.playEnd rfl rfl
  have hname : r = Sample.player := Option.some.inj (congrArg Slot.replyTo hslot).symm
  subst hname
  obtain ⟨-, hignored⟩ := hagain (List.forall_mem_nil _)
  refine ⟨rfl, hhalted, ⟨result, htold⟩, hignored [Sample.stop] ?_⟩
  exact List.forall_mem_singleton.2 ⟨Sample.call, false, rfl⟩

end CallMedia
