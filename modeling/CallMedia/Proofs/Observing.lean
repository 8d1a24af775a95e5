/-
  Observers are passive.

  Take two sequences of occurrences that agree but for the coming and going of observers, the queries, and
  the closing of mailboxes (`Occurrence.passive`).  A controller that goes through either ends up in the
  same phase, with the same leg up to its register of observers; and it asks the media server and the
  stores for the same things in the same order, gets the same answers, and gives the same notices to
  everybody but the observers (`observers_passive`).  So whoever watches a session, and whether anybody
  listens, makes no difference to it.

  Which notices are meant for the observers is a question of the item and of the leg before it
  (`Item.broadcasts`): what stopping the group has to say, what an activity on an idle group has to say
  unless it goes well, a join that failed, and the confirmation that goes to a new observer.  That nothing
  else is left out of the comparison is part of the theorem (`Turn.Broadcasts`): what is left out of a
  turn is one and the same notice to each entry of the register, or that confirmation.

  The argument is the one for any system that is to be independent of some of its inputs.  Being alike but
  for the observers (`Controller.Twins`) is kept by what is not passive, which says the same on both sides
  (`Twins.befall`); and what is passive leads to a controller of the same kind and says nothing that
  counts (`twins_of_passive`).
-/
import CallMedia.Proofs.Alike
import CallMedia.Proofs.InFlight
import CallMedia.Proofs.Silence

namespace CallMedia

/-! ## What is meant for the observers

A notice does not say whom it is for.  It takes the item, and the leg before it, to tell which notices
are broadcast. -/

/-- Whether a notice given for an item is meant for the observers; the leg is that before the item. -/
def Item.broadcasts (l : Leg) : Item → Notice → Bool
  | .message _ .stopGroup, _ => true
  | .message _ (.play _), _ | .message _ (.collect _), _ | .message _ (.record _), _
  | .message _ (.startRecording _), _ => l.group.isSome && l.active.isNone
  | .message _ (.joinBridge _), .failure _ | .message _ (.joinConference _), .failure _ => true
  | .message _ (.observe _), _ => true
  | _, _ => false

/-- Whether an item merely watches: an observer that comes or goes, or a query. -/
def Item.passive : Item → Bool
  | .message _ (.observe _) | .message _ (.stopObserving _) | .query _ => true
  | _ => false

namespace Turn

variable {σ : Type} (site : Site σ) (t : Turn σ)

/-- What a turn comes to for everybody but the observers. -/
def besides : List Effect :=
  (t.effects site).filterMap (Effect.besides (t.item.broadcasts t.before.desk.leg))

/-- The notices of a turn that are meant for the observers. -/
def broadcast : List (Recipient × Notice) :=
  (noticesOf (t.effects site)).filter fun x => t.item.broadcasts t.before.desk.leg x.2

/-- What is meant for the observers is one notice that all of them get, or the confirmation that a new one
    gets, or nothing. -/
def Broadcasts : Prop :=
  (∃ n, t.broadcast site = t.before.desk.leg.observers.toList.map fun r => (r, n)) ∨
  (∃ sender observer, t.item = .message sender (.observe observer) ∧
    t.broadcast site = [(observer, .observing)]) ∨
  t.broadcast site = []

/-- What a turn comes to for everybody else is read off what it has written down. -/
theorem besides_eq (c : Controller σ) (item : Item) {es : List Effect}
    (h : (c.handle site item).desk.trace = c.desk.trace ++ es) :
    besides site ⟨c, item⟩ = es.filterMap (Effect.besides (item.broadcasts c.desk.leg)) := by
  unfold besides
  rw [effects_eq (t := ⟨c, item⟩) h]

end Turn

section

variable {σ : Type} {site : Site σ} {w : Surroundings} {p p' : Phase} {l l' : Leg} {item : Item}
  {es : List Effect}

/-- An activity is refused to its sender alone where the group is missing or busy. -/
theorem Leg.not_idle_of_error {a : Activity} {e : Fault} (h : l.idleGroup a = .error e) :
    (l.group.isSome && l.active.isNone) = false := by
  unfold idleGroup at h
  split at h
  · next hg => rw [hg]; rfl
  · cases h
  · next ha => rw [ha, Option.isNone_some, Bool.and_false]

/-- An activity passes only where the group is there and idle. -/
theorem Leg.idle_of_ok {a : Activity} {group : GroupHandle} (h : l.idleGroup a = .ok group) :
    (l.group.isSome && l.active.isNone) = true := by
  obtain ⟨hg, ha⟩ := Leg.idleGroup_eq_ok h
  rw [hg, ha]
  rfl

/-- Every message that asks for an activity broadcasts in the same case. -/
theorem Message.broadcasts_of_ask? {settings : Settings} {m : Message} {k : Ask}
    (h : m.ask? settings = some k) (sender : Recipient) (n : Notice) :
    (Item.message sender m).broadcasts l n = (l.group.isSome && l.active.isNone) := by
  cases m <;> cases h <;> rfl

/-- Where nothing is marked, nothing is left out. -/
theorem filter_broadcasts_eq_nil (h : ∀ n, item.broadcasts l n = false)
    (xs : List (Recipient × Notice)) : xs.filter (fun x => item.broadcasts l x.2) = [] :=
  List.filter_eq_nil_iff.2 fun x _ => by rw [h]; exact Bool.false_ne_true

/-- Where everything is marked, everything is left out. -/
theorem filter_broadcasts_eq_self (h : ∀ n, item.broadcasts l n = true)
    (xs : List (Recipient × Notice)) : xs.filter (fun x => item.broadcasts l x.2) = xs :=
  List.filter_eq_self.2 fun x _ => h x.2

/-- What an attempt on an idle group has to say, it says to the observers. -/
theorem Attempted.broadcasts {a : Activity} {what : GroupHandle → Operation} {sender : Recipient}
    {l₀ : Leg} {r : Option Nat} (h : Attempted w a what sender l l₀ r l' es)
    (hidle : (l.group.isSome && l.active.isNone) = true) :
    (∃ n, noticesOf es = l₀.observers.toList.map fun o => (o, n)) ∨ noticesOf es = [] := by
  cases h with
  | unfit e idle =>
    rw [Leg.not_idle_of_error idle] at hidle
    cases hidle
  | unprepared group e idle digits => exact .inl ⟨_, w.noticesOf_telling _ _⟩
  | closed group idle hopen =>
    refine .inl ⟨.operationResult a (.error .channelClosed), ?_⟩
    rw [noticesOf_append, noticesOf_prepared]
    exact w.noticesOf_telling _ _
  | refused group e fate idle hopen =>
    refine .inl ⟨.operationResult a (.error e), ?_⟩
    rw [noticesOf_append, noticesOf_prepared]
    exact w.noticesOf_telling _ _
  | accepted group fate idle hopen =>
    refine .inr ?_
    rw [noticesOf_append, noticesOf_prepared]
    rfl

/-- Stopping the group has one thing to say, and says it to the observers. -/
theorem GroupStopped.broadcasts (h : GroupStopped w l es) :
    ∃ n, noticesOf es = l.observers.toList.map fun o => (o, n) := by
  have hquiet : ∀ {result : Except Fault (Option Active)} {es : List Effect},
      ActiveStopped l result es → noticesOf es = [] := by
    intro result es hs
    cases hs <;> rfl
  cases h with
  | quiet was es hs =>
    refine ⟨.groupStateChanged .inactive, ?_⟩
    rw [noticesOf_append, hquiet hs]
    exact w.noticesOf_telling _ _
  | failed e es hs =>
    refine ⟨.failure e, ?_⟩
    rw [noticesOf_append, hquiet hs]
    exact w.noticesOf_telling _ _

/-- What is left out of a turn is one notice to every observer, or a confirmation, or nothing. -/
theorem Turned.broadcasts (h : Turned site w p l item p' l' es) :
    (∃ n, (noticesOf es).filter (fun x => item.broadcasts l x.2) =
      l.observers.toList.map fun o => (o, n)) ∨
    (∃ sender observer, item = .message sender (.observe observer) ∧
      (noticesOf es).filter (fun x => item.broadcasts l x.2) = [(observer, .observing)]) ∨
    (noticesOf es).filter (fun x => item.broadcasts l x.2) = [] := by
  cases h with
  | ignored item hout => exact .inr (.inr rfl)
  | groupStopped sender es hs =>
    rw [filter_broadcasts_eq_self fun _ => rfl]
    exact .inl hs.broadcasts
  | attempted sender m k r l' es hp hm ht =>
    -- an attempt on a busy group is answered to its sender, and marks nothing
    have hmarks := Message.broadcasts_of_ask? (l := l) hm sender
    cases hidle : l.group.isSome && l.active.isNone with
    | false => exact .inr (.inr (filter_broadcasts_eq_nil (fun n => (hmarks n).trans hidle) _))
    | true =>
      rw [filter_broadcasts_eq_self fun n => (hmarks n).trans hidle]
      rcases ht.broadcasts hidle with htold | htold
      · exact .inl htold
      · exact .inr (.inr htold)
  | joined sender m mixer l' es hp hm hj =>
    cases hj with
    | joined k hc =>
      refine .inr (.inr ?_)
      show (noticesOf (w.tellingCall l .joinComplete)).filter _ = []
      rw [Surroundings.tellingCall, w.noticesOf_telling, List.filter_eq_nil_iff]
      intro x hx
      obtain ⟨call, -, rfl⟩ := List.mem_map.1 hx
      rcases hm with rfl | rfl <;> exact Bool.false_ne_true
    | refused k e hc =>
      refine .inl ⟨.failure e, ?_⟩
      show (noticesOf (w.tellingAll l (.failure e))).filter _ = _
      rw [Surroundings.tellingAll, w.noticesOf_telling, List.filter_eq_self]
      intro x hx
      obtain ⟨o, -, rfl⟩ := List.mem_map.1 hx
      rcases hm with rfl | rfl <;> rfl
  | observed sender observer => exact .inr (.inl ⟨sender, observer, rfl, rfl⟩)
  | rejoined sender m direction k mixer answer hp hd hk hm => exact .inr (.inr rfl)
  | _ => exact .inr (.inr (filter_broadcasts_eq_nil (fun _ => rfl) _))

end

/-! ## Controllers that differ in their observers

Twins agree in everything but the register of observers, the closed mailboxes and what is written down.
What is passive keeps them so, whichever of the two it happens to; what is not does so if it happens to
both. -/

/-- What can happen to a controller.  This is more than in a run: the item may be a completion that
    nobody queued. -/
inductive Occurrence (σ : Type) where
  /-- It handles an item, and what was completed meanwhile is queued. -/
  | handled (item : Item)
  /-- The media server completes a sink, or lets go of it. -/
  | used (sink : Sink)
  /-- The media server, the stores, the callers, the files or the clock change. -/
  | passed (callers : Nat) (files : Files) (clock : Instant) (drift : σ → σ)
  /-- Mailboxes are closed. -/
  | deafened (deaf : List String)

namespace Occurrence

variable {σ : Type}

/-- Whether an occurrence is to make no difference. -/
def passive : Occurrence σ → Bool
  | .handled item => item.passive
  | .deafened _ => true
  | _ => false

/-- The turn that an occurrence is, if it is one. -/
def turn? (c : Controller σ) : Occurrence σ → Option (Turn σ)
  | .handled item => some ⟨c, item⟩
  | _ => none

end Occurrence

namespace Controller

variable {σ : Type} (site : Site σ)

/-- The controller after something has happened to it. -/
def befall (c : Controller σ) : Occurrence σ → Controller σ
  | .handled item => (c.handle site item).atDesk fun d => { d with posted := [] }
  | .used sink => c.atDesk fun d => { d with sinks := d.sinks.erase sink }
  | .passed callers files clock drift =>
    c.atDesk fun d => { d with callers, files, clock, outside := drift d.outside }
  | .deafened deaf => c.atDesk fun d => { d with deaf }

/-- The turns that a controller takes through a list of occurrences, and the controller in the end. -/
def through : Controller σ → List (Occurrence σ) → List (Turn σ) × Controller σ
  | c, [] => ([], c)
  | c, x :: xs =>
    let (ts, last) := through (c.befall site x) xs
    ((x.turn? c).toList ++ ts, last)

/-- Two controllers in one phase, at desks that differ in their observers at most. -/
structure Twins (c c' : Controller σ) : Prop where
  phase : c'.phase = c.phase
  desk : c.desk.Twins c'.desk

variable {c c' c'' : Controller σ} {item : Item}

theorem Twins.refl (c : Controller σ) : c.Twins c := ⟨rfl, .refl c.desk⟩

theorem Twins.symm (h : c.Twins c') : c'.Twins c := ⟨h.phase.symm, h.desk.symm⟩

theorem Twins.trans (h : c.Twins c') (h' : c'.Twins c'') : c.Twins c'' :=
  ⟨h'.phase.trans h.phase, h.desk.trans h'.desk⟩

namespace Alike

variable {b : Notice → Bool} {t t' : List Effect}

/-- What is not passive is acted on alike, where the notices that are meant for the observers are
    marked. -/
theorem receive (h : c.Alike b t t' c') (sender : Recipient) (m : Message)
    (hm : (Item.message sender m).passive = false)
    (hb : ∀ n, (Item.message sender m).broadcasts c.desk.leg n = true → b n = true) :
    Alike b t t' (c.receive site sender m) (c'.receive site sender m) := by
  -- on an idle group an activity has something to say to the observers only
  have hidle : (∀ n, (Item.message sender m).broadcasts c.desk.leg n =
        (c.desk.leg.group.isSome && c.desk.leg.active.isNone)) →
      ∀ {a} group, c.desk.leg.idleGroup a = .ok group → ∀ n, b n = true :=
    fun hmarks _ _ hg n => hb n ((hmarks n).trans (Leg.idle_of_ok hg))
  -- one case for each message, and in each the lemma about its handler
  cases m with
  | createSession outbound mode sdp => exact h.createSession site sender outbound mode sdp
  | closeSession => exact h.closeSession site
  | updateSession sdp => exact h.updateSession site sdp
  | createGroup => exact h.atDesk (h.2.createGroup site sender)
  | destroyGroup => exact h.atDesk (h.2.destroyGroup site sender)
  | stopGroup => exact h.atDesk (h.2.stopGroup site fun n => hb n rfl)
  | mute => exact h.whenActive (h.2.rejoinMixer site _ _)
  | unmute => exact h.whenActive (h.2.rejoinMixer site _ _)
  | startRecording order =>
    exact h.whenActive (h.2.startRecording site (hidle fun _ => rfl) sender order)
  | stopRecording accountId store => exact h.whenActive (h.2.stopRecording site accountId store)
  | play order => exact h.whenActive (h.2.play site (hidle fun _ => rfl) sender order)
  | collect order => exact h.whenActive (h.2.collect site (hidle fun _ => rfl) sender order)
  | record order => exact h.whenActive (h.2.record site (hidle fun _ => rfl) sender order).snd
  | stop artifact => exact h.atDesk (h.2.stop site artifact)
  | joinBridge mixer => exact h.whenActive (h.2.joinMixer site (fun e => hb _ rfl) sender mixer _)
  | joinConference mixer =>
    exact h.whenActive (h.2.joinMixer site (fun e => hb _ rfl) sender mixer _)
  | leave => exact h.whenActive (h.2.leaveMixer site)
  | observe observer => cases hm
  | stopObserving observer => cases hm

/-- An item that is not passive is handled alike. -/
theorem handle (h : c.Alike b t t' c') (hitem : item.passive = false)
    (hb : ∀ n, item.broadcasts c.desk.leg n = true → b n = true) :
    Alike b t t' (c.handle site item) (c'.handle site item) := by
  have hnoted : ∀ what, Alike b t t' (c.noteHandling what) (c'.noteHandling what) :=
    fun _ => h.atDesk h.2.log
  cases item with
  | message sender m => exact (hnoted _).receive site sender m hitem hb
  | completion e => exact (hnoted _).arrive site e
  | query caller => cases hitem

end Alike

/-- An item that is not passive is handled alike, and comes to the same for everybody else. -/
theorem Twins.handle (h : c.Twins c') (item : Item) (hitem : item.passive = false) :
    (c.handle site item).Twins (c'.handle site item) ∧
      Turn.besides site ⟨c', item⟩ = Turn.besides site ⟨c, item⟩ := by
  have hbegin : c.Alike (item.broadcasts c.desk.leg) c.desk.trace c'.desk.trace c' :=
    ⟨h.phase, h.desk.alike _⟩
  obtain ⟨hphase, hend⟩ := hbegin.handle site hitem fun n hn => hn
  refine ⟨⟨hphase, hend.toTwins⟩, ?_⟩
  obtain ⟨es, es', htrace, htrace', hes⟩ := hend.trace
  have hmarks : item.broadcasts c'.desk.leg = item.broadcasts c.desk.leg :=
    h.desk.read (fun l => item.broadcasts l) fun l os => rfl
  calc Turn.besides site ⟨c', item⟩
      = es'.filterMap (Effect.besides (item.broadcasts c'.desk.leg)) :=
        Turn.besides_eq site c' item htrace'
    _ = es'.filterMap (Effect.besides (item.broadcasts c.desk.leg)) := by rw [hmarks]
    _ = es.filterMap (Effect.besides (item.broadcasts c.desk.leg)) := hes
    _ = Turn.besides site ⟨c, item⟩ := (Turn.besides_eq site c item htrace).symm

/-- An observer that comes makes a twin, and has nothing but a confirmation. -/
theorem observe_twins (observer : Recipient) (d : Desk σ) :
    d.Twins (observe observer d) ∧
      ∃ es, (observe observer d).trace = d.trace ++ es ∧
        es.filterMap (Effect.besides fun _ => true) = [] := by
  obtain ⟨es, htell, hes⟩ := Desk.tell_written (fun _ => true) observer .observing d
  unfold observe
  rw [htell]
  exact ⟨⟨rfl, rfl, rfl, rfl, rfl, rfl, rfl⟩, es, rfl, hes⟩

/-- What is passive leads to a twin, and comes to nothing for everybody else. -/
theorem twins_of_passive (c : Controller σ) (item : Item) (hitem : item.passive = true) :
    c.Twins (c.handle site item) ∧ Turn.besides site ⟨c, item⟩ = [] := by
  cases item with
  | message sender m =>
    cases m with
    | observe observer =>
      -- the line that says what is handled comes first
      obtain ⟨htwins, es, htrace, hes⟩ := observe_twins observer
        (c.noteHandling s!"message {(Message.observe observer).name}").desk
      have hnoted : c.desk.Twins (c.noteHandling s!"message {(Message.observe observer).name}").desk :=
        ⟨rfl, rfl, rfl, rfl, rfl, rfl, rfl⟩
      refine ⟨⟨rfl, hnoted.trans htwins⟩, ?_⟩
      rw [Turn.besides_eq site c (.message sender (.observe observer))
        (htrace.trans (List.append_assoc _ _ _))]
      exact hes
    | stopObserving observer =>
      refine ⟨⟨rfl, ⟨rfl, rfl, rfl, rfl, rfl, rfl, rfl⟩⟩, ?_⟩
      rw [Turn.besides_eq site c (.message sender (.stopObserving observer)) rfl]
      rfl
    | _ => cases hitem
  | completion e => cases hitem
  | query caller =>
    refine ⟨.refl c, ?_⟩
    rw [Turn.besides_eq site c (.query caller) (List.append_nil _).symm]
    rfl

/-- The same goes for all that is passive, between turns. -/
theorem twins_befall (hposted : c.desk.posted = []) {x : Occurrence σ} (hx : x.passive = true) :
    c.Twins (c.befall site x) ∧ (x.turn? c).toList.flatMap (Turn.besides site) = [] := by
  cases x with
  | handled item =>
    obtain ⟨htwins, hbesides⟩ := twins_of_passive site c item hx
    refine ⟨⟨htwins.phase, { htwins.desk with posted := hposted.symm }⟩, ?_⟩
    exact congrArg (· ++ []) hbesides
  | deafened deaf => exact ⟨⟨rfl, ⟨rfl, rfl, rfl, rfl, rfl, rfl, rfl⟩⟩, rfl⟩
  | used sink => cases hx
  | passed callers files clock drift => cases hx

/-- What is not passive keeps twins twins. -/
theorem Twins.befall (h : c.Twins c') {x : Occurrence σ} (hx : x.passive = false) :
    (c.befall site x).Twins (c'.befall site x) ∧
      (x.turn? c').toList.flatMap (Turn.besides site) =
        (x.turn? c).toList.flatMap (Turn.besides site) := by
  cases x with
  | handled item =>
    obtain ⟨htwins, hbesides⟩ := h.handle site item hx
    refine ⟨⟨htwins.phase, { htwins.desk with posted := rfl }⟩, ?_⟩
    exact congrArg (· ++ []) hbesides
  | used sink =>
    exact ⟨⟨h.phase, { h.desk with sinks := congrArg (List.erase · sink) h.desk.sinks }⟩, rfl⟩
  | passed callers files clock drift =>
    exact ⟨⟨h.phase, { h.desk with
      outside := congrArg drift h.desk.outside, callers := rfl, files := rfl, clock := rfl }⟩, rfl⟩
  | deafened deaf => cases hx

/-- Nothing is left over from a turn. -/
theorem posted_befall (hposted : c.desk.posted = []) (x : Occurrence σ) :
    (c.befall site x).desk.posted = [] := by
  cases x with
  | handled item => rfl
  | _ => exact hposted

/-- Through a list of occurrences, and through what of it is not passive, twins come to the same. -/
theorem Twins.through (h : c.Twins c') (hposted : c.desk.posted = []) (xs : List (Occurrence σ)) :
    (c.through site xs).2.Twins (c'.through site (xs.filter fun x => !x.passive)).2 ∧
      (c'.through site (xs.filter fun x => !x.passive)).1.flatMap (Turn.besides site) =
        (c.through site xs).1.flatMap (Turn.besides site) := by
  -- by induction on the occurrences; a passive one moves one of the twins only
  induction xs generalizing c c' with
  | nil => exact ⟨h, rfl⟩
  | cons x xs ih =>
    cases hx : x.passive with
    | true =>
      obtain ⟨htwins, hnothing⟩ := twins_befall site hposted hx
      obtain ⟨hlast, hbesides⟩ := ih (htwins.symm.trans h) (posted_befall site hposted x)
      rw [List.filter_cons_of_neg (by rw [hx]; decide)]
      refine ⟨hlast, ?_⟩
      show _ = ((x.turn? c).toList ++ _).flatMap _
      rw [List.flatMap_append, hnothing, hbesides, List.nil_append]
    | false =>
      obtain ⟨htwins, hsame⟩ := h.befall site hx
      obtain ⟨hlast, hbesides⟩ := ih htwins (posted_befall site hposted x)
      rw [List.filter_cons_of_pos (by rw [hx]; decide)]
      refine ⟨hlast, ?_⟩
      show ((x.turn? c').toList ++ _).flatMap _ = ((x.turn? c).toList ++ _).flatMap _
      rw [List.flatMap_append, List.flatMap_append, hsame, hbesides]

/-! ## Every turn on the way

What is left out of the comparison is no more than what is meant for the observers: one notice that each
of them gets, or the confirmation for a new one. -/

/-- Whatever happens, a sound controller stays sound. -/
theorem sound_befall (hs : Sound c.phase c.desk.leg) (x : Occurrence σ) :
    Sound (c.befall site x).phase (c.befall site x).desk.leg := by
  cases x with
  | handled item => exact (Turn.turned (t := ⟨c, item⟩) site hs).1.sound hs
  | _ => exact hs

/-- Every turn on the way from a sound controller begins at one. -/
theorem sound_through (hs : Sound c.phase c.desk.leg) (xs : List (Occurrence σ)) :
    ∀ t ∈ (c.through site xs).1, Sound t.before.phase t.before.desk.leg := by
  -- by induction on the occurrences
  induction xs generalizing c with
  | nil => exact List.forall_mem_nil _
  | cons x xs ih =>
    refine List.forall_mem_append.2 ⟨?_, ih (sound_befall site hs x)⟩
    cases x with
    | handled item => exact List.forall_mem_singleton.2 hs
    | _ => exact List.forall_mem_nil _

end Controller

/-- What a turn does not count is meant for the observers. -/
theorem Turn.broadcasts {σ : Type} (site : Site σ) {t : Turn σ}
    (hs : Sound t.before.phase t.before.desk.leg) : t.Broadcasts site := by
  obtain ⟨hturned, -, -⟩ := t.turned site hs
  unfold Turn.Broadcasts Turn.broadcast
  rw [t.noticesOf_effects]
  exact hturned.broadcasts

/-- Observers are passive.  Let a controller go through two lists of occurrences, which agree but for
    observers that come and go, queries, and mailboxes that are closed.

    In the end the phase is the same, and so is the leg but for the register of observers.  The requests
    to the media server and the stores, their answers, and the notices to everybody but the observers are
    the same on both ways, in the same order.  And of no turn is more left out of this than one notice to
    every observer, or the confirmation for a new one. -/
theorem observers_passive {σ : Type} {site : Site σ} {c : Controller σ} (h : Reachable site c)
    {xs ys : List (Occurrence σ)}
    (hsame : xs.filter (fun x => !x.passive) = ys.filter (fun x => !x.passive)) :
    (c.through site ys).2.phase = (c.through site xs).2.phase ∧
    (∃ observers, (c.through site ys).2.desk.leg =
      { (c.through site xs).2.desk.leg with observers }) ∧
    (c.through site ys).1.flatMap (Turn.besides site) =
      (c.through site xs).1.flatMap (Turn.besides site) ∧
    ∀ t ∈ (c.through site xs).1 ++ (c.through site ys).1, t.Broadcasts site := by
  have hposted : c.desk.posted = [] := by
    obtain ⟨ts, queued, hrun⟩ := h
    exact hrun.posted
  obtain ⟨hxs, hbesides⟩ := (Controller.Twins.refl c).through site hposted xs
  obtain ⟨hys, hbesides'⟩ := (Controller.Twins.refl c).through site hposted ys
  rw [← hsame] at hys hbesides'
  have htwins := hxs.trans hys.symm
  refine ⟨htwins.phase, ⟨_, htwins.desk.leg⟩, hbesides'.symm.trans hbesides, ?_⟩
  intro t ht
  refine t.broadcasts site ?_
  rcases List.mem_append.1 ht with ht | ht
  · exact Controller.sound_through site h.sound xs t ht
  · exact Controller.sound_through site h.sound ys t ht

namespace Sample

/-- A play that is stopped with its group. -/
def alone : List (Occurrence Unit) := [.handled play, .handled stopGroup]

/-- The same with somebody who watches, and no longer listens. -/
def attended : List (Occurrence Unit) :=
  [.handled watch, .deafened ["mailbox of the player"], .handled play, .handled (.query 1),
    .handled stopGroup]

end Sample

/-- Whether the play is watched or not, it is started and stopped, and nobody else hears of it; the
    observer would have heard that the group is quiet. -/
theorem observers_passive_attended :
    (Sample.grouped.through Sample.site Sample.attended).2.phase = .active ∧
    (Sample.grouped.through Sample.site Sample.attended).1.flatMap (Turn.besides Sample.site) =
      (Sample.grouped.through Sample.site Sample.alone).1.flatMap (Turn.besides Sample.site) ∧
    (Sample.grouped.through Sample.site Sample.alone).1.flatMap (Turn.besides Sample.site) =
      [.started (.play ⟨"1"⟩ (PlayOrder.request ⟨[], 1⟩)) ⟨.group .playback, 1⟩ ⟨.ok (), .held⟩,
        .performed (.stop .playback ⟨"1"⟩) (.ok ())] ∧
    (Sample.grouped.through Sample.site Sample.attended).1.flatMap (Turn.broadcast Sample.site) =
      [(Sample.player, .observing), (Sample.player, .groupStateChanged .inactive)] := by
  have hreachable : Reachable Sample.site Sample.grouped := ⟨_, _, Sample.run_grouped⟩
  obtain ⟨hphase, -, hbesides, -⟩ :=
    @observers_passive Unit Sample.site _ hreachable Sample.alone Sample.attended rfl
  exact ⟨hphase.trans rfl, hbesides, rfl, rfl⟩

end CallMedia
