/-
  A closed session is silent.

  A controller goes on handling items once its session is closed: requests still come in, some of them
  allowed in any phase, and the outcomes of operations that were in flight arrive late and in any order.
  Nothing of this reaches the media server or a store.  What carries the argument is that closing leaves
  nothing held and nothing awaited (`Sound.bare`), so that every item that would have something done is
  out of place, or finds nothing to do.

  What is left are answers (`farewells`): an observer that registers hears that it observes, whoever asks
  for a group hears that there is no session, and to destroy or to stop the group counts as done.
-/
import CallMedia.Proofs.Run

namespace CallMedia

/-- Whether an effect asks the media server or a store for something. -/
def Effect.asks : Effect → Bool
  | created .. | performed .. | started .. | stored .. => true
  | told .. | logged _ => false

/-- What a closed session still answers to an item, and whom. -/
def farewells (call : Recipient) (observers : Observers) : Item → List (Recipient × Notice)
  | .message _ (.observe observer) => [(observer, .observing)]
  | .message sender .createGroup => [(sender, .failure (.resourceUnavailable "media session"))]
  | .message _ .destroyGroup => [(call, .groupDestroyed)]
  | .message _ .stopGroup => observers.toList.map fun r => (r, .groupStateChanged .inactive)
  | _ => []

/-- A turn at a session that was closed with the leg `l`: it stays closed, no outcome would be accepted,
    nobody is asked for anything, nobody is told more than the answer to the item, and of the leg nothing
    but the register of observers changes. -/
structure Turn.Silent {σ : Type} (site : Site σ) (call : Recipient) (l : Leg) (t : Turn σ) : Prop where
  unaccepted : ∀ c g, ((t.before.desk.leg.slot c).accept g).1 = false
  phase : (t.after site).phase = .inactive
  leg : (t.after site).desk.leg = { l with observers := (t.after site).desk.leg.observers }
  unasked : ∀ e ∈ t.effects site, e.asks = false
  told : noticesOf (t.effects site) = farewells call t.before.desk.leg.observers t.item

/-! ## One turn

A turn from `inactive` is one of those that do not ask for another phase.  What is left is shown case
by case, and most cases contradict that nothing is held. -/

section

variable {σ : Type} {site : Site σ} {w : Surroundings} {p : Phase} {l l' : Leg} {item : Item}
  {es : List Effect}

/-- What is out of place at a session that holds no group is not answered. -/
theorem OutOfPlace.unanswered (h : OutOfPlace p l item) (hg : l.group = none) (call : Recipient)
    (observers : Observers) : farewells call observers item = [] := by
  cases item with
  | completion e => rfl
  | query caller => rfl
  | message sender m =>
    cases m with
    | createGroup => exact absurd hg h
    | destroyGroup => exact absurd h id
    | stopGroup => exact absurd h id
    | observe observer => exact absurd h id
    | _ => rfl

/-- Notices ask nobody for anything. -/
theorem Surroundings.not_asks (w : Surroundings) (rs : List Recipient) (n : Notice) :
    ∀ e ∈ rs.map fun r => w.telling r n, e.asks = false := by
  intro e he
  obtain ⟨r, -, rfl⟩ := List.mem_map.1 he
  rfl

/-- At a closed session nothing comes of an item but its answer. -/
theorem Turned.silent (h : Turned site w .inactive l item p l' es) (hs : Sound .inactive l)
    {call : Recipient} (hcall : l.call = some call) :
    p = .inactive ∧ l' = { l with observers := l'.observers } ∧ (∀ e ∈ es, e.asks = false) ∧
      noticesOf es = farewells call l.observers item := by
  obtain ⟨hsession, -, hslots⟩ := hs.bare (.inr rfl)
  obtain ⟨-, hgroup, -, -, hactive⟩ := hs.nothing_held hsession
  -- no outcome is awaited, so none is acted on
  have hunawaited : ∀ {c g}, ¬ l.Awaits c g := by
    intro c g hw
    have hpending := hw.1
    rw [hslots c] at hpending
    cases hpending
  cases h with
  | ignored item hout => exact ⟨rfl, rfl, List.forall_mem_nil _, (hout.unanswered hgroup call _).symm⟩
  | closed sender es hp hr => rcases hp with hp | hp | hp <;> cases hp
  | agreed g o localSdp hp awaited ho => exact absurd awaited hunawaited
  | broke g o fault hp awaited ho => exact absurd awaited hunawaited
  | finished e a result hcat awaited hr => exact absurd awaited hunawaited
  | stopped sender artifact l' es ha hstop => exact absurd hactive ha
  | groupCreated sender l' es hg hc =>
    -- there is no session, and the other cases would need one
    cases hc with
    | noSession hnone => exact ⟨rfl, rfl, w.not_asks [sender] _, rfl⟩
    | noConnection s hsome hk => rw [hsession] at hsome; cases hsome
    | refused s k e hsome hk => rw [hsession] at hsome; cases hsome
    | unjoined s k name e answer hsome hk => rw [hsession] at hsome; cases hsome
    | joined s k name hsome hk => rw [hsession] at hsome; cases hsome
  | groupDestroyed sender l' es hd =>
    -- there is no group to release, and the call is answered all the same
    cases hd with
    | released group answer hsome => rw [hgroup] at hsome; cases hsome
    | absent hnone =>
      refine ⟨rfl, rfl, w.not_asks [l.call.getD sender] _, ?_⟩
      rw [hcall]
      rfl
  | groupStopped sender es hstop =>
    -- nothing was in flight, so nothing is stopped, and the observers hear that the group is quiet
    have hidle : es = w.tellingAll l (.groupStateChanged .inactive) := by
      cases hstop with
      | quiet was es ha =>
        cases ha with
        | idle hnone => rfl
        | groupless a hsome hg => rw [hactive] at hsome; cases hsome
        | stopped a group hsome hg => rw [hactive] at hsome; cases hsome
      | failed e es ha => exact absurd hactive (ha.busy nofun)
    rw [hidle]
    refine ⟨rfl, ?_, w.not_asks _ _, w.noticesOf_telling _ _⟩
    show { l with active := none } = l
    rw [← hactive]
  | observed sender observer => exact ⟨rfl, rfl, w.not_asks [observer] _, rfl⟩
  | unobserved sender observer => exact ⟨rfl, rfl, List.forall_mem_nil _, rfl⟩
  | opened sender outbound mode sdp l' es hp ho => cases hp
  | updated sender sdp k l' es hp hk hn => cases hp
  | attempted sender m k r l' es hp hm ht => cases hp
  | stoppedRecording sender accountId store g l' es hp ha hstop => cases hp
  | joined sender m mixer l' es hp hm hj => cases hp
  | left sender l' es hp hc hl => cases hp
  | rejoined sender m direction k mixer answer hp hd hk hm => cases hp

end

namespace Turn

variable {σ : Type} {site : Site σ} {t : Turn σ}

/-- Nobody is asked for anything in the journal. -/
theorem not_asks_of_shown (h : ∀ e ∈ t.shown site, e.asks = false) :
    ∀ e ∈ t.effects site, e.asks = false := by
  intro e he
  by_cases hv : e.visible = true
  · exact h e ((t.mem_shown site).2 ⟨he, hv⟩)
  · cases e with
    | logged line => rfl
    | _ => exact absurd rfl hv

/-- A turn at a closed session is silent. -/
theorem silent (hs : Sound t.before.phase t.before.desk.leg) (hp : t.before.phase = .inactive)
    {call : Recipient} (hcall : t.before.desk.leg.call = some call) {l : Leg}
    (hl : t.before.desk.leg = { l with observers := t.before.desk.leg.observers }) :
    t.Silent site call l := by
  obtain ⟨hturned, -, -⟩ := t.turned site hs
  rw [hp] at hturned hs
  obtain ⟨hphase, hleg, hasks, htold⟩ := hturned.silent hs hcall
  refine
    { unaccepted := fun c g => ?_
      phase := hphase
      leg := ?_
      unasked := t.not_asks_of_shown hasks
      told := (t.noticesOf_effects site).trans htold }
  · -- accepting an outcome takes a slot that awaits one
    refine Bool.eq_false_iff.2 fun hg => ?_
    have hpending := ((Slot.accept_iff _ g).1 hg).1
    rw [(hs.bare (.inr rfl)).2.2 c] at hpending
    cases hpending
  · rw [hl] at hleg
    exact hleg

end Turn

/-! ## Runs -/

/-- Once a session is closed it is silent.  In whatever way a run goes on from there, through messages
    and queries of anybody and late outcomes in any order, every turn is: there is an owning call, and no
    outcome is accepted, no request goes to the media server or to a store, the only notices are the
    answers to those who still ask, and the leg stays as it was up to its observers. -/
theorem silent_once_closed {σ : Type} {site : Site σ} {pre post : List (Turn σ)} {t : Turn σ}
    {c : Controller σ} {queued : List Completion} (h : Run site (pre ++ t :: post) c queued)
    (hp : t.before.phase = .inactive) :
    ∃ call, t.before.desk.leg.call = some call ∧
      (∀ u ∈ t :: post, u.Silent site call t.before.desk.leg) ∧
      c.phase = .inactive ∧
      c.desk.leg = { t.before.desk.leg with observers := c.desk.leg.observers } := by
  obtain ⟨queued', hbefore, -⟩ := h.before
  obtain ⟨call, hcall⟩ := hbefore.sound.call_of_ne (by rw [hp]; decide)
  have ht : t.Silent site call t.before.desk.leg := Turn.silent hbefore.sound hp hcall rfl
  refine ⟨call, hcall, ?_⟩
  -- through all turns after `t`
  refine h.onwards (P := fun post p l => (∀ u ∈ t :: post, u.Silent site call t.before.desk.leg) ∧
    p = .inactive ∧ l = { t.before.desk.leg with observers := l.observers }) ?_ ?_
  · exact ⟨List.forall_mem_singleton.2 ht, ht.phase, ht.leg⟩
  · rintro post u queued hrun ⟨hearlier, hphase, hleg⟩
    have hcall' : u.before.desk.leg.call = some call := by
      rw [hleg]
      exact hcall
    have hu : u.Silent site call t.before.desk.leg := Turn.silent hrun.sound hphase hcall' hleg
    exact ⟨List.forall_mem_append.2 ⟨hearlier, List.forall_mem_singleton.2 hu⟩, hu.phase, hu.leg⟩

namespace Sample

def closed : Controller Unit := handled played close

def late : Controller Unit := handled closed (.completion playEnd)

def watch : Item := .message player (.observe player)

/-- The session is closed while a play is in flight; then its end arrives, and an observer. -/
theorem run_watched :
    Run site ([⟨fresh, create⟩, ⟨offered, .completion offer⟩, ⟨active, group⟩, ⟨grouped, play⟩,
      ⟨played, close⟩] ++ ⟨closed, .completion playEnd⟩ :: [⟨late, watch⟩]) (handled late watch) [] :=
  .turn _ late [] watch
    (.turn _ closed [playEnd] (.completion playEnd) (.turn _ played [playEnd] close run_played nofun)
      fun e he => by
        cases he
        exact List.mem_cons_self)
    nofun

end Sample

/-- The end of a play that comes after the close is silent, and an observer hears that it observes. -/
theorem silent_once_closed_watched :
    Sample.closed.phase = .inactive ∧
    Turn.Silent Sample.site Sample.call Sample.closed.desk.leg
      ⟨Sample.closed, .completion Sample.playEnd⟩ ∧
    noticesOf (Turn.effects Sample.site ⟨Sample.late, Sample.watch⟩) =
      [(Sample.player, .observing)] := by
  obtain ⟨call, hcall, hall, -, -⟩ := silent_once_closed Sample.run_watched rfl
  have hname : call = Sample.call := Option.some.inj (hcall.symm.trans rfl)
  subst hname
  obtain ⟨hlate, hwatch⟩ := List.forall_mem_cons.1 hall
  exact ⟨rfl, hlate, (List.forall_mem_singleton.1 hwatch).told⟩

end CallMedia
