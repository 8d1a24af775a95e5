/-
  What the media server allocates, and what is asked of it in those names.

  Every request to the media server names sessions, connections and groups (`Effect.names`), and some
  allocate one or release one (`Effect.allocated?`, `Effect.released?`).  A controller keeps custody of
  one of each at most.  `Custody.Through` reads effects one after the other, and checks each against
  what is held at that moment: nothing else may be named, a session is asked for only once, and a group
  only while there is none.

  Every turn takes the custody of the leg before to that of the leg after (`Turned.custody`).  Most turns
  only use what is held (`Custody.Uses`); the four that do more are those in which a session is opened or
  closed and a group created or destroyed.  A group that cannot be joined is in custody for a moment
  although the leg never holds it.
-/
import CallMedia.Proofs.Activities

namespace CallMedia

/-! ## Handles -/

/-- What the media server allocates. -/
inductive Handle where
  | session (s : SessionHandle)
  | connection (k : ConnectionHandle)
  | group (g : GroupHandle)
deriving DecidableEq, Repr

/-- The handle that an allocation returns under a name. -/
def Creation.handle : Creation → String → Handle
  | .session, name => .session ⟨name⟩
  | .connection .., name => .connection ⟨name⟩
  | .group _, name => .group ⟨name⟩

/-- The session that an allocation takes place in. -/
def Creation.session? : Creation → Option SessionHandle
  | .session => none
  | .connection s _ | .group s => some s

/-- The handles that a command names; mixers are not allocated for the leg. -/
def Command.names : Command → List Handle
  | .join k _ (.group g) | .unjoin k (.group g) => [.connection k, .group g]
  | .join k _ (.mixer _) | .unjoin k (.mixer _) => [.connection k]
  | .flushDigits g | .stop _ g | .releaseGroup g => [.group g]
  | .releaseSession s => [.session s]

/-- The handle that an operation names. -/
def Operation.handle : Operation → Handle
  | .generateOffer k | .processOffer k _ | .processAnswer k _ => .connection k
  | .play g _ | .collect g _ | .record g _ => .group g

namespace Effect

/-- The handles that are named to the media server. -/
def names : Effect → List Handle
  | created what _ => what.session?.toList.map .session
  | performed what _ => what.names
  | started what _ _ => [what.handle]
  | _ => []

/-- The handle that the media server returned. -/
def allocated? : Effect → Option Handle
  | created what (.ok name) => some (what.handle name)
  | _ => none

/-- The handle that the media server returned, with the session that it belongs to. -/
def allotted? : Effect → Option (SessionHandle × Handle)
  | created what (.ok name) => what.session?.map fun s => (s, what.handle name)
  | _ => none

/-- The handle that the media server was asked to release. -/
def released? : Effect → Option Handle
  | performed (.releaseGroup g) _ => some (.group g)
  | performed (.releaseSession s) _ => some (.session s)
  | _ => none

/-- Whether a session was asked for. -/
def asksSession : Effect → Bool
  | created .session _ => true
  | _ => false

end Effect

/-! ## Custody

What is held changes with five kinds of effect only, and every request has to comply with what is held
when it is made (`Admits`).  Nearly all effects do less: they use what is held (`Uses`), and then what
is held does not change.  So `Through` is mostly shown by `Through.of_uses`. -/

/-- What is held of the media server at some moment, and whether a session was ever asked for. -/
structure Custody where
  opened : Bool := false
  session : Option SessionHandle := none
  connection : Option ConnectionHandle := none
  group : Option GroupHandle := none
deriving DecidableEq, Repr

namespace Custody

/-- Whether a handle is held. -/
def Holds (h : Custody) : Handle → Prop
  | .session s => h.session = some s
  | .connection k => h.connection = some k
  | .group g => h.group = some g

/-- What is held after an effect. -/
def after (h : Custody) : Effect → Custody
  | .created .session (.ok name) => { h with opened := true, session := some ⟨name⟩ }
  | .created .session (.error _) => { h with opened := true }
  | .created (.connection ..) (.ok name) => { h with connection := some ⟨name⟩ }
  | .created (.group _) (.ok name) => { h with group := some ⟨name⟩ }
  | .performed (.releaseGroup _) _ => { h with group := none }
  | .performed (.releaseSession _) _ => { h with session := none, connection := none, group := none }
  | _ => h

/-- What an effect has to comply with. -/
structure Admits (h : Custody) (e : Effect) : Prop where
  holds : ∀ x ∈ e.names, h.Holds x
  first : e.asksSession = true → h = {}
  single : ∀ g, e.allocated? = some (.group g) → h.group = none

/-- Effects, one after the other, that lead from what is held to what is held then. -/
def Through (h : Custody) : List Effect → Custody → Prop
  | [], h' => h' = h
  | e :: es, h' => h.Admits e ∧ (h.after e).Through es h'

variable {h h' h'' : Custody} {e : Effect} {es es' : List Effect}

/-- One stretch of effects after another. -/
theorem Through.append (ht : h.Through es h') (ht' : h'.Through es' h'') :
    h.Through (es ++ es') h'' := by
  -- by induction on the first stretch; what is held at its start varies
  induction es generalizing h with
  | nil =>
    cases ht
    exact ht'
  | cons e es ih => exact ⟨ht.1, ih ht.2⟩

/-- An effect that names nothing but what is held, and changes nothing of it. -/
structure Uses (h : Custody) (e : Effect) : Prop where
  holds : ∀ x ∈ e.names, h.Holds x
  unasked : e.asksSession = false
  kept : e.allocated? = none
  unreleased : e.released? = none

/-- What uses what is held leaves it as it is. -/
theorem Uses.after (hu : h.Uses e) : h.after e = h := by
  unfold Custody.after
  split
  · exact nomatch hu.kept
  · exact nomatch hu.unasked
  · exact nomatch hu.kept
  · exact nomatch hu.kept
  · exact nomatch hu.unreleased
  · exact nomatch hu.unreleased
  · rfl

/-- An effect that uses what is held complies with it. -/
theorem Uses.admits (hu : h.Uses e) : h.Admits e where
  holds := hu.holds
  first ha := by
    rw [hu.unasked] at ha
    cases ha
  single g hg := by
    rw [hu.kept] at hg
    cases hg

/-- Effects that use what is held lead from it to itself. -/
theorem Through.of_uses (hu : ∀ e ∈ es, h.Uses e) : h.Through es h := by
  induction es with
  | nil => rfl
  | cons e es ih =>
    have he := hu e List.mem_cons_self
    refine ⟨he.admits, ?_⟩
    rw [he.after]
    exact ih fun e' he' => hu e' (List.mem_cons_of_mem e he')

/-- Effects that use what is held can follow any others. -/
theorem Through.append_uses (ht : h.Through es h') (hu : ∀ e ∈ es', h'.Uses e) :
    h.Through (es ++ es') h' :=
  ht.append (.of_uses hu)

theorem uses_telling (h : Custody) (w : Surroundings) (rs : List Recipient) (n : Notice) :
    ∀ e ∈ rs.map (fun r => w.telling r n), h.Uses e := by
  intro e he
  obtain ⟨r, -, rfl⟩ := List.mem_map.1 he
  exact ⟨nofun, rfl, rfl, rfl⟩

/-- A store is asked for nothing in the name of a handle. -/
theorem uses_stored (h : Custody) (store : String) (m : Recording.Metadata)
    (answer : Except Fault Unit) : h.Uses (.stored store m answer) := ⟨nofun, rfl, rfl, rfl⟩

theorem uses_started {what : Operation} (hw : h.Holds what.handle) (sink : Sink) (answer : Answer) :
    h.Uses (.started what sink answer) :=
  ⟨fun _ hx => List.mem_singleton.1 hx ▸ hw, rfl, rfl, rfl⟩

/-- A command on what is held, unless it releases it. -/
theorem uses_performed {what : Command} (hw : ∀ x ∈ what.names, h.Holds x) (answer : Except Fault Unit)
    (hr : (Effect.performed what answer).released? = none) : h.Uses (.performed what answer) :=
  ⟨hw, rfl, rfl, hr⟩

/-- An allocation that was refused, in a session that is held. -/
theorem uses_refused {what : Creation} {s : SessionHandle} (hw : what.session? = some s)
    (hs : h.session = some s) (e : Fault) : h.Uses (.created what (.error e)) := by
  refine ⟨fun x hx => ?_, ?_, rfl, rfl⟩
  · change x ∈ what.session?.toList.map Handle.session at hx
    rw [hw] at hx
    cases List.mem_singleton.1 hx
    exact hs
  · cases what with
    | session => cases hw
    | connection s mode => rfl
    | group s => rfl

end Custody

/-- What a leg holds of the media server. -/
def Leg.custody (p : Phase) (l : Leg) : Custody where
  opened := decide (p ≠ .uninitialized)
  session := l.session
  connection := l.connection
  group := l.group

/-! ## What turns use

All that is asked for an activity, a stop, a step of the negotiation or a mixer is asked in the name of
the group or the connection of the leg, and gives none of them up. -/

section

variable {w : Surroundings} {l l' : Leg} {es : List Effect} {h : Custody}

/-- Stopping what is in flight names the group. -/
theorem ActiveStopped.uses {result : Except Fault (Option Active)} (hs : ActiveStopped l result es)
    (hg : h.group = l.group) : ∀ e ∈ es, h.Uses e := by
  have hgroup : ∀ a group answer, l.group = some group →
      ∀ e ∈ [Effect.performed (.stop a group) answer], h.Uses e := by
    intro a group answer hl e he
    rw [List.mem_singleton.1 he]
    refine Custody.uses_performed (fun x hx => ?_) answer rfl
    cases List.mem_singleton.1 hx
    exact hg.trans hl
  cases hs with
  | idle ha => exact List.forall_mem_nil _
  | groupless a ha hg => exact List.forall_mem_nil _
  | stopped a group ha hl => exact hgroup _ _ _ hl
  | refused a group e ha hl => exact hgroup _ _ _ hl

/-- Stopping the group as a whole uses the group that is held, and nothing else. -/
theorem GroupStopped.uses (hs : GroupStopped w l es) (hg : h.group = l.group) :
    ∀ e ∈ es, h.Uses e := by
  cases hs with
  | quiet was es hs =>
    exact List.forall_mem_append.2 ⟨hs.uses hg, h.uses_telling w _ _⟩
  | failed e es hs =>
    exact List.forall_mem_append.2 ⟨hs.uses hg, h.uses_telling w _ _⟩

/-- What comes of a stop names nothing more. -/
theorem Stopped.uses {reader : Recording.Reader} {apiVersion : String} {artifact : Bool}
    (hs : Stopped reader apiVersion w artifact l l' es) (hg : h.group = l.group) :
    ∀ e ∈ es, h.Uses e := by
  cases hs with
  | other was es hs hw => exact hs.uses hg
  | failed e es hs => exact List.forall_mem_append.2 ⟨hs.uses hg, h.uses_telling w _ _⟩
  | plain g es hs hr => exact hs.uses hg
  | dropped g r es hs hr hg' hd => exact hs.uses hg
  | filed g r accountId store m es hs hr hg' ha haccount hstore hm =>
    refine List.forall_mem_append.2 ⟨hs.uses hg, fun e he => ?_⟩
    rw [List.mem_singleton.1 he]
    exact h.uses_stored _ _ _
  | unfiled g r accountId store m e es hs hr hg' ha haccount hstore hm =>
    exact List.forall_mem_append.2 ⟨hs.uses hg,
      List.forall_mem_cons.2 ⟨h.uses_stored _ _ _, h.uses_telling w _ _⟩⟩

/-- A step of the negotiation names the connection it is about. -/
theorem Negotiates.uses {what : Operation} (hn : Negotiates w l what l' es)
    (hw : h.Holds what.handle) : ∀ e ∈ es, h.Uses e := by
  cases hn with
  | begun g l' es hl =>
    cases hl with
    | accepted fate hopen =>
      exact List.forall_mem_singleton.2 (Custody.uses_started hw _ _)
  | failed e l' es hl =>
    cases hl with
    | closed hopen => exact h.uses_telling w _ _
    | refused e fate hopen =>
      exact List.forall_mem_cons.2 ⟨Custody.uses_started hw _ _, h.uses_telling w _ _⟩

/-- An operation that is asked of a group names it, and nothing else. -/
theorem Operation.handle_of_group? {what : Operation} {group : GroupHandle}
    (hw : what.group? = some group) : what.handle = .group group := by
  cases what <;> cases hw <;> rfl

theorem uses_prepared {group : GroupHandle} (hg : h.group = some group) (a : Activity) :
    ∀ e ∈ prepared a group, h.Uses e := by
  unfold prepared
  split
  · refine List.forall_mem_singleton.2 (Custody.uses_performed (fun x hx => ?_) _ rfl)
    cases List.mem_singleton.1 hx
    exact hg
  · exact List.forall_mem_nil _

/-- An attempt names the group that is idle, and nothing else. -/
theorem Attempted.uses {a : Activity} {what : GroupHandle → Operation} {sender : Recipient}
    {l₀ : Leg} {r : Option Nat} (ht : Attempted w a what sender l l₀ r l' es)
    (hwhat : ∀ group, (what group).handle = .group group) (hg : h.group = l.group) :
    ∀ e ∈ es, h.Uses e := by
  -- an idle group is one that the leg holds
  have hheld : ∀ {group}, l.idleGroup a = .ok group → h.group = some group :=
    fun idle => hg.trans (Leg.idleGroup_eq_ok idle).1
  have hholds : ∀ {group}, l.idleGroup a = .ok group → h.Holds (what group).handle := by
    intro group idle
    rw [hwhat]
    exact hheld idle
  cases ht with
  | unfit e idle => exact h.uses_telling w [sender] _
  | unprepared group e idle digits =>
    refine List.forall_mem_cons.2 ⟨Custody.uses_performed (fun x hx => ?_) _ rfl, h.uses_telling w _ _⟩
    cases List.mem_singleton.1 hx
    exact hheld idle
  | closed group idle hopen =>
    exact List.forall_mem_append.2 ⟨uses_prepared (hheld idle) a, h.uses_telling w _ _⟩
  | refused group e fate idle hopen =>
    exact List.forall_mem_append.2 ⟨uses_prepared (hheld idle) a,
      List.forall_mem_cons.2 ⟨Custody.uses_started (hholds idle) _ _, h.uses_telling w _ _⟩⟩
  | accepted group fate idle hopen =>
    exact List.forall_mem_append.2 ⟨uses_prepared (hheld idle) a,
      List.forall_mem_singleton.2 (Custody.uses_started (hholds idle) _ _)⟩

/-- A command on the connection held and a mixer. -/
theorem uses_mixing {k : ConnectionHandle} {what : Command} (hk : h.connection = some k)
    (hw : what.names = [.connection k]) (answer : Except Fault Unit)
    (hr : (Effect.performed what answer).released? = none) : h.Uses (.performed what answer) := by
  refine Custody.uses_performed (fun x hx => ?_) answer hr
  rw [hw] at hx
  cases List.mem_singleton.1 hx
  exact hk

/-- Joining a mixer names the connection; the mixer is not the leg's to allocate. -/
theorem Joined.uses {sender : Recipient} {mixer : MixerHandle} (hj : Joined w sender mixer l l' es)
    (hk : h.connection = l.connection) : ∀ e ∈ es, h.Uses e := by
  cases hj with
  | joined k hc =>
    exact List.forall_mem_cons.2 ⟨uses_mixing (hk.trans hc) rfl _ rfl, h.uses_telling w _ _⟩
  | refused k e hc =>
    exact List.forall_mem_cons.2 ⟨uses_mixing (hk.trans hc) rfl _ rfl, h.uses_telling w _ _⟩

/-- Leaving a mixer uses the connection that is held, and nothing else. -/
theorem Left.uses (hl : Left w l l' es) (hk : h.connection = l.connection) :
    ∀ e ∈ es, h.Uses e := by
  cases hl with
  | left k mixer hc hm => exact List.forall_mem_singleton.2 (uses_mixing (hk.trans hc) rfl _ rfl)
  | refused k mixer e hc hm =>
    exact List.forall_mem_cons.2 ⟨uses_mixing (hk.trans hc) rfl _ rfl, h.uses_telling w _ _⟩

/-! ## What turns allocate and release

The four that do more.  Each is followed effect by effect, with what is held in between. -/

/-- Opening a session starts with empty hands, and ends with what the media server granted. -/
theorem Opened.custody (ho : Opened w l l' es) (hs : l.session = none) (hk : l.connection = none)
    (hg : l.group = none) : (l.custody .uninitialized).Through es (l'.custody .opening) := by
  have hempty : l.custody .uninitialized = {} := by
    unfold Leg.custody
    rw [hs, hk, hg]
    rfl
  -- a session may be asked for, since nothing is held and none was asked for before
  have hasked : ∀ answer, (l.custody .uninitialized).Admits (.created .session answer) := by
    intro answer
    refine ⟨nofun, fun _ => hempty, fun g hg => ?_⟩
    cases answer <;> cases hg
  rw [hempty] at hasked ⊢
  cases ho with
  | noSession e =>
    refine ⟨hasked _, ?_⟩
    have hsame : l.custody .opening = { opened := true } := by
      unfold Leg.custody
      rw [hs, hk, hg]
      rfl
    rw [hsame]
    exact .of_uses (Custody.uses_telling _ w _ _)
  | noConnection name e =>
    refine ⟨hasked _, ?_⟩
    have hsame : ({ l with session := some ⟨name⟩ } : Leg).custody .opening =
        { opened := true, session := some ⟨name⟩ } := by
      unfold Leg.custody
      rw [hk, hg]
      rfl
    rw [hsame]
    exact .of_uses (List.forall_mem_cons.2
      ⟨Custody.uses_refused rfl rfl e, Custody.uses_telling _ w _ _⟩)
  | negotiates name name' l' es hn =>
    have hsame : l'.custody .opening =
        { opened := true, session := some ⟨name⟩, connection := some ⟨name'⟩ } := by
      have hl : l'.custody .opening = (l.connected ⟨name⟩ ⟨name'⟩).custody .opening := by
        rcases hn.leg with rfl | ⟨b, rfl⟩ <;> rfl
      rw [hl]
      unfold Leg.custody
      show Custody.mk _ _ _ l.group = _
      rw [hg]
      rfl
    rw [hsame]
    refine ⟨hasked _, ⟨?_, nofun, nofun⟩, .of_uses (hn.uses ?_)⟩
    · intro x hx
      cases List.mem_singleton.1 hx
      rfl
    · -- whichever side makes the offer, the first step names the new connection
      have hfirst : (Desk.firstStep l ⟨name'⟩).handle = .connection ⟨name'⟩ := by
        unfold Desk.firstStep
        split <;> rfl
      rw [hfirst]
      rfl

/-- Closing it gives up everything that is held. -/
theorem Released.custody (hr : Released l es) {p : Phase} (hp : Sound p l)
    (hne : p ≠ .uninitialized) : (l.custody p).Through es (l.released.custody .inactive) := by
  have hopened : (l.custody p).opened = true := decide_eq_true hne
  have hafter : { l.custody p with session := none, connection := none, group := none } =
      l.released.custody .inactive := by
    rw [show l.custody p = ⟨true, l.session, l.connection, l.group⟩ from
      congrArg (Custody.mk · l.session l.connection l.group) hopened]
    rfl
  cases hr with
  | nothing hs =>
    -- without a session there is no connection and no group either, so there is nothing to give up
    obtain ⟨hk, hg, -⟩ := hp.nothing_held hs
    have hsame : l.custody p = l.released.custody .inactive := by
      rw [← hafter]
      unfold Leg.custody
      rw [hs, hk, hg]
    exact hsame.symm
  | released s answer hs =>
    refine ⟨⟨fun x hx => ?_, nofun, nofun⟩, hafter.symm⟩
    cases List.mem_singleton.1 hx
    exact hs

/-- Creating a group asks for it in the session that is held, while there is none. -/
theorem GroupCreated.custody {sender : Recipient} (hc : GroupCreated w sender l l' es)
    (hg : l.group = none) (p : Phase) : (l.custody p).Through es (l'.custody p) := by
  have hasked : ∀ {s} name, l.session = some s →
      (l.custody p).Admits (.created (.group s) (.ok name)) := by
    intro s name hs
    refine ⟨fun x hx => ?_, nofun, fun _ _ => hg⟩
    cases List.mem_singleton.1 hx
    exact hs
  -- the connection and the new group are both held by the time they are joined
  have hjoins : ∀ {k} s name answer, l.connection = some k →
      ((l.custody p).after (.created (.group s) (.ok name))).Uses
        (.performed (.join k .duplex (.group ⟨name⟩)) answer) := by
    intro k s name answer hk
    refine Custody.uses_performed (fun x hx => ?_) answer rfl
    rcases List.mem_cons.1 hx with rfl | hx
    · exact hk
    · cases List.mem_singleton.1 hx
      rfl
  cases hc with
  | noSession hs => exact .of_uses (Custody.uses_telling _ w [sender] _)
  | noConnection s hs hk => exact .of_uses (Custody.uses_telling _ w [sender] _)
  | refused s k e hs hk =>
    exact .of_uses (List.forall_mem_cons.2
      ⟨Custody.uses_refused rfl hs e, Custody.uses_telling _ w [sender] _⟩)
  | unjoined s k name e answer hs hk =>
    refine ⟨hasked name hs, (hjoins s name _ hk).admits, ?_⟩
    rw [(hjoins s name _ hk).after]
    -- the group was held for a moment, and is given back
    have hback : ({ l.custody p with group := none } : Custody) = l.custody p := by
      unfold Leg.custody
      rw [hg]
    refine ⟨⟨fun x hx => ?_, nofun, nofun⟩, ?_⟩
    · cases List.mem_singleton.1 hx
      rfl
    · show ({ l.custody p with group := none } : Custody).Through _ _
      rw [hback]
      exact .of_uses (Custody.uses_telling _ w [sender] _)
  | joined s k name hs hk =>
    refine ⟨hasked name hs, .of_uses ?_⟩
    exact List.forall_mem_cons.2 ⟨hjoins s name _ hk, Custody.uses_telling _ w [sender] _⟩

/-- Destroying it gives up the group. -/
theorem GroupDestroyed.custody {sender : Recipient} (hd : GroupDestroyed w sender l l' es)
    (p : Phase) : (l.custody p).Through es (l'.custody p) := by
  cases hd with
  | absent hg => exact .of_uses (Custody.uses_telling _ w [_] _)
  | released group answer hg =>
    refine ⟨⟨fun x hx => ?_, nofun, nofun⟩, .of_uses (Custody.uses_telling _ w [_] _)⟩
    cases List.mem_singleton.1 hx
    exact hg

end

/-! ## Turns

A turn is sorted by its item: four messages may have something allocated or released, and of these
there are five outcomes, that nothing comes of them among them. -/

/-- Whether a message may have something allocated or released. -/
def Message.allots : Message → Bool
  | .createSession .. | .closeSession | .createGroup | .destroyGroup => true
  | _ => false

/-- Whether an item may have something allocated or released. -/
def Item.allots : Item → Bool
  | .message _ m => m.allots
  | _ => false

/-- A message that asks for an activity is none of the four. -/
theorem Message.allots_of_ask? {settings : Settings} {m : Message} {k : Ask}
    (h : m.ask? settings = some k) : m.allots = false := by
  cases m <;> cases h <;> rfl

section

variable {σ : Type} {site : Site σ} {w : Surroundings} {p p' : Phase} {l l' : Leg} {item : Item}
  {es : List Effect}

/-- All items but four kinds of message use what is held, and leave it as it is. -/
theorem Turned.uses (ht : Turned site w p l item p' l' es) (hitem : item.allots = false) :
    l'.custody p' = l.custody p ∧ ∀ e ∈ es, (l.custody p).Uses e := by
  have htold : ∀ (rs : List Recipient) n, ∀ e ∈ rs.map (fun r => w.telling r n),
      (l.custody p).Uses e := fun rs n => (l.custody p).uses_telling w rs n
  cases ht with
  | ignored item hout => exact ⟨rfl, List.forall_mem_nil _⟩
  | opened sender outbound mode sdp l' es hp ho => cases hitem
  | closed sender es hp hr => cases hitem
  | updated sender sdp k l' es hp hk hn =>
    subst hp
    refine ⟨?_, hn.uses hk⟩
    rcases hn.leg with rfl | ⟨b, rfl⟩ <;> rfl
  | agreed g o localSdp hp awaited ho =>
    refine ⟨?_, htold _ _⟩
    rcases hp with rfl | rfl <;> rfl
  | broke g o fault hp awaited ho =>
    refine ⟨?_, htold _ _⟩
    rcases hp with rfl | rfl <;> rfl
  | groupCreated sender l' es hg hc => cases hitem
  | groupDestroyed sender l' es hd => cases hitem
  | groupStopped sender es hs => exact ⟨rfl, hs.uses rfl⟩
  | attempted sender m k r l' es hp hm ht =>
    refine ⟨?_, ht.uses (fun group =>
      Operation.handle_of_group? (Message.group_of_ask? hm group)) rfl⟩
    obtain ⟨recording, hkept⟩ := k.kept_cases w.clock l' r
    rw [hkept]
    cases ht <;>
      dsimp only [Leg.custody, Leg.running, Leg.askedBy, Leg.setSlot, Ask.begun, Ask.noted,
        Leg.remember]
  | stopped sender artifact l' es ha hs =>
    refine ⟨?_, hs.uses rfl⟩
    rcases hs.leg with rfl | rfl <;> rfl
  | stoppedRecording sender accountId store g l' es hp ha hs =>
    refine ⟨?_, hs.uses rfl⟩
    rcases hs.leg with rfl | rfl <;> rfl
  | joined sender m mixer l' es hp hm hj =>
    refine ⟨?_, hj.uses rfl⟩
    cases hj <;> rfl
  | left sender l' es hp hc hl =>
    refine ⟨?_, hl.uses rfl⟩
    cases hl <;> rfl
  | rejoined sender m direction k mixer answer hp hd hk hm =>
    exact ⟨rfl, List.forall_mem_singleton.2 (uses_mixing hk rfl answer rfl)⟩
  | observed sender observer => exact ⟨rfl, htold [observer] _⟩
  | unobserved sender observer => exact ⟨rfl, List.forall_mem_nil _⟩
  | finished e a result hcat awaited hr => exact ⟨rfl, htold _ _⟩

/-- What comes of a message that may have something allocated or released. -/
theorem Turned.of_allots (ht : Turned site w p l item p' l' es) (hitem : item.allots = true) :
    (p' = p ∧ l' = l ∧ es = []) ∨
    (p = .uninitialized ∧ p' = .opening ∧ ∃ sender outbound mode sdp,
      Opened w (l.ownedBy sender outbound mode sdp) l' es) ∨
    (Closes p item ∧ p' = .inactive ∧ l' = l.released ∧ ∃ es₁, Released l es₁ ∧
      es = es₁ ++ w.tellingCall l .sessionClosed) ∨
    (p' = p ∧ l.group = none ∧ ∃ sender, GroupCreated w sender l l' es) ∨
    (p' = p ∧ ∃ sender, GroupDestroyed w sender l l' es) := by
  cases ht with
  | ignored item hout => exact .inl ⟨rfl, rfl, rfl⟩
  | opened sender outbound mode sdp l' es hp ho =>
    exact .inr (.inl ⟨hp, rfl, sender, outbound, mode, sdp, ho⟩)
  | closed sender es hp hr =>
    exact .inr (.inr (.inl ⟨⟨hp, sender, rfl⟩, rfl, rfl, es, hr, rfl⟩))
  | groupCreated sender l' es hg hc => exact .inr (.inr (.inr (.inl ⟨rfl, hg, sender, hc⟩)))
  | groupDestroyed sender l' es hd => exact .inr (.inr (.inr (.inr ⟨rfl, sender, hd⟩)))
  | attempted sender m k r l' es hp hm ht =>
    exact nomatch (Message.allots_of_ask? hm).symm.trans hitem
  | joined sender m mixer l' es hp hm hj => rcases hm with rfl | rfl <;> cases hitem
  | rejoined sender m direction k mixer answer hp hd hk hm =>
    rcases hd with ⟨rfl, -⟩ | ⟨rfl, -⟩ <;> cases hitem
  | _ => cases hitem

/-- Every turn takes what was held before it to what is held after it. -/
theorem Turned.custody (ht : Turned site w p l item p' l' es) (h : Sound p l) :
    (l.custody p).Through es (l'.custody p') := by
  cases hitem : item.allots with
  | false =>
    obtain ⟨hsame, huses⟩ := ht.uses hitem
    rw [hsame]
    exact .of_uses huses
  | true =>
    rcases ht.of_allots hitem with ⟨rfl, rfl, rfl⟩ | ⟨rfl, rfl, sender, outbound, mode, sdp, ho⟩ |
      ⟨⟨hp, -⟩, rfl, rfl, es₁, hr, rfl⟩ | ⟨rfl, hg, sender, hc⟩ | ⟨rfl, sender, hd⟩
    · rfl
    · have hs := (h.bare (.inl rfl)).1
      obtain ⟨hk, hg, -⟩ := h.nothing_held hs
      have hthrough : ((l.ownedBy sender outbound mode sdp).custody .uninitialized).Through es _ :=
        ho.custody hs hk hg
      exact hthrough
    · have hne : p ≠ .uninitialized := by rcases hp with rfl | rfl | rfl <;> decide
      exact (hr.custody h hne).append_uses (Custody.uses_telling _ w _ _)
    · exact hc.custody hg p'
    · exact hd.custody p'

/-- A session is released only by a request to close it, and only the session that is held. -/
theorem Turned.releases (ht : Turned site w p l item p' l' es) {s : SessionHandle}
    {answer : Except Fault Unit} (hm : .performed (.releaseSession s) answer ∈ es) :
    Closes p item ∧ l.session = some s := by
  cases ht.commanded hm with
  | closed sender s hp hs => exact ⟨⟨hp, sender, rfl⟩, hs⟩

/-- What comes of a request that closes the session. -/
theorem Turned.of_closes (ht : Turned site w p l item p' l' es) (hitem : Closes p item) :
    p' = .inactive ∧ l' = l.released ∧ ∃ es₁, Released l es₁ ∧
      es = es₁ ++ w.tellingCall l .sessionClosed := by
  obtain ⟨hp, sender, rfl⟩ := hitem
  cases ht with
  | ignored item hout => exact absurd hp hout
  | closed sender es hp hr => exact ⟨rfl, rfl, es, hr, rfl⟩
  | attempted sender m k r l' es hp hm ht => cases hm
  | joined sender m mixer l' es hp hm hj => rcases hm with hm | hm <;> cases hm
  | rejoined sender m direction k mixer answer hp hd hk hm =>
    rcases hd with ⟨hd, -⟩ | ⟨hd, -⟩ <;> cases hd

end

end CallMedia
