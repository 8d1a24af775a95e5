/-
  Which mixers a connection is in.

  A controller remembers one mixer, the current one.  The media server keeps a connection in every mixer
  that it was joined to and has not been taken out of (`JoinedTo`), and the two need not agree: a join is
  given while the connection is in another mixer, without a leave before it, and then the other mixer is
  merely forgotten (`Displaced`).

  So the current mixer is the one joined last, if it has not been left (`Run.mixer_iff`).  A leave takes
  the connection out of the current mixer alone, and whatever was displaced stays joined; there is nothing
  left then that could take the connection out of it, but the end of the session.
-/
import CallMedia.Proofs.Commands
import CallMedia.Proofs.PhaseChanges
import CallMedia.Proofs.Silence

namespace CallMedia

/-! ## Joining and leaving

A join has the connection put into a mixer, a leave has it taken out of one.  Muting asks for a join
too, but in another direction and from another item, and the connection is in the mixer already; that
is why `Joins` looks at the item. -/

/-- Whether an item that asks to join a mixer had the connection joined to it. -/
def Joins (item : Item) (es : List Effect) (mixer : MixerHandle) : Prop :=
  item.mixer? = some mixer ∧ ∃ k, .performed (.join k .duplex (.mixer mixer)) (.ok ()) ∈ es

/-- Whether the connection was taken out of a mixer. -/
def Leaves (es : List Effect) (mixer : MixerHandle) : Prop :=
  ∃ k, .performed (.unjoin k (.mixer mixer)) (.ok ()) ∈ es

/-- What a turn can do to the current mixer. -/
inductive Mixed (l : Leg) (item : Item) (l' : Leg) (es : List Effect) : Prop
  /-- The connection is joined to a mixer, and to that one only. -/
  | joined (mixer : MixerHandle) (hjoins : ∀ m, Joins item es m ↔ m = mixer)
      (hleaves : ∀ m, ¬ Leaves es m) (hmixer : l'.mixer = some mixer)
  /-- It is taken out of the current mixer, and out of that one only. -/
  | left (mixer : MixerHandle) (hjoins : ∀ m, ¬ Joins item es m)
      (hleaves : ∀ m, Leaves es m ↔ m = mixer) (hwas : l.mixer = some mixer)
      (hmixer : l'.mixer = none)
  /-- It is neither joined to one nor taken out of one. -/
  | kept (hjoins : ∀ m, ¬ Joins item es m) (hleaves : ∀ m, ¬ Leaves es m)
      (hmixer : l'.mixer = l.mixer)

section

variable {σ : Type} {site : Site σ} {w : Surroundings} {p p' : Phase} {l l' : Leg} {item : Item}
  {es : List Effect} {mixer : MixerHandle}

/-- The connection is taken out of the current mixer only, by a request to leave. -/
theorem Turned.of_leaves (h : Turned site w p l item p' l' es) (hl : Leaves es mixer) :
    l.mixer = some mixer ∧ p = .active ∧ ∃ sender, item = .message sender .leave := by
  obtain ⟨k, hm⟩ := hl
  cases h.commanded hm with
  | left sender k mixer hp hk hmixer => exact ⟨hmixer, hp, sender, rfl⟩

/-- A request for an activity asks for no mixer. -/
theorem Message.mixer_of_ask? {settings : Settings} {m : Message} {k : Ask} {sender : Recipient}
    (h : m.ask? settings = some k) : Item.mixer? (.message sender m) = none := by
  cases m <;> cases h <;> rfl

/-- While the session is not closed, a turn joins a mixer, which then is the current one; or it leaves the
    current one; or the current one stays. -/
theorem Turned.mixed (h : Turned site w p l item p' l' es) (hopen : p' ≠ .inactive) :
    Mixed l item l' es := by
  -- only a request to leave takes the connection out, so all other items leave nothing
  have hleaves : (∀ sender, item ≠ .message sender .leave) → ∀ m, ¬ Leaves es m := by
    intro hne m hl
    obtain ⟨-, -, sender, heq⟩ := h.of_leaves hl
    exact hne sender heq
  have hjoins : item.mixer? = none → ∀ m, ¬ Joins item es m := by
    rintro hnone m ⟨hsome, -⟩
    rw [hnone] at hsome
    cases hsome
  -- what is left to show of most turns is that the current mixer stays
  have hkept : item.mixer? = none → (∀ sender, item ≠ .message sender .leave) →
      l'.mixer = l.mixer → Mixed l item l' es :=
    fun hnone hne hmixer => .kept (hjoins hnone) (hleaves hne) hmixer
  cases h with
  | ignored item hout =>
    refine .kept ?_ ?_ rfl
    · rintro m ⟨-, k, hm⟩
      cases hm
    · rintro m ⟨k, hm⟩
      cases hm
  | closed sender es hp hr => exact absurd rfl hopen
  | opened sender outbound mode sdp l' es hp ho =>
    refine hkept rfl nofun ?_
    cases ho with
    | noSession e => rfl
    | noConnection name e => rfl
    | negotiates name name' l' es hn => rcases hn.leg with rfl | ⟨b, rfl⟩ <;> rfl
  | updated sender sdp k l' es hp hk hn =>
    refine hkept rfl nofun ?_
    rcases hn.leg with rfl | ⟨b, rfl⟩ <;> rfl
  | agreed g o localSdp hp awaited ho => exact hkept rfl nofun rfl
  | broke g o fault hp awaited ho => exact hkept rfl nofun rfl
  | groupCreated sender l' es hg hc =>
    refine hkept rfl nofun ?_
    cases hc <;> rfl
  | groupDestroyed sender l' es hd =>
    refine hkept rfl nofun ?_
    cases hd <;> rfl
  | groupStopped sender es hs => exact hkept rfl nofun rfl
  | attempted sender m k r l' es hp hm ht =>
    refine hkept (Message.mixer_of_ask? hm) ?_ ?_
    · rintro sender' heq
      cases heq
      cases hm
    · obtain ⟨recording, hkept⟩ := k.kept_cases w.clock l' r
      rw [hkept]
      cases ht <;> rfl
  | stopped sender artifact l' es ha hs =>
    refine hkept rfl nofun ?_
    rcases hs.leg with rfl | rfl <;> rfl
  | stoppedRecording sender accountId store g l' es hp ha hs =>
    refine hkept rfl nofun ?_
    rcases hs.leg with rfl | rfl <;> rfl
  | joined sender m mixer l' es hp hm hj =>
    have hitem : Item.mixer? (.message sender m) = some mixer := by rcases hm with rfl | rfl <;> rfl
    have hother : ∀ sender', Item.message sender m ≠ .message sender' .leave := by
      rintro sender' heq
      cases heq
      rcases hm with hm | hm <;> cases hm
    cases hj with
    | joined k hk =>
      refine .joined mixer (fun m' => ⟨fun hj => ?_, fun heq => ?_⟩) (hleaves hother) rfl
      · exact Option.some.inj (hj.1.symm.trans hitem)
      · subst heq
        exact ⟨hitem, k, List.mem_cons_self⟩
    | refused k e hk =>
      refine .kept ?_ (hleaves hother) rfl
      rintro m' ⟨-, k', hm'⟩
      rcases List.mem_cons.1 hm' with hm' | hm'
      · cases hm'
      · exact w.not_performed _ _ _ _ hm'
  | left sender l' es hp hc hl =>
    cases hl with
    | left k mixer hk hmixer =>
      refine .left mixer (hjoins rfl) (fun m' => ⟨?_, fun heq => ?_⟩) hmixer rfl
      · rintro ⟨k', hm'⟩
        cases List.mem_singleton.1 hm'
        rfl
      · subst heq
        exact ⟨k, List.mem_cons_self⟩
    | refused k mixer e hk hmixer =>
      refine .kept (hjoins rfl) ?_ rfl
      rintro m' ⟨k', hm'⟩
      rcases List.mem_cons.1 hm' with hm' | hm'
      · cases hm'
      · exact w.not_performed _ _ _ _ hm'
  | rejoined sender m direction k mixer answer hp hd hk hm =>
    rcases hd with ⟨rfl, -⟩ | ⟨rfl, -⟩
    · exact hkept rfl nofun rfl
    · exact hkept rfl nofun rfl
  | observed sender observer => exact hkept rfl nofun rfl
  | unobserved sender observer => exact hkept rfl nofun rfl
  | finished e a result hcat awaited hr => exact hkept rfl nofun rfl

end

/-! ## Turns -/

namespace Turn

variable {σ : Type} (site : Site σ) (t : Turn σ) (mixer : MixerHandle)

/-- Whether a turn joined the connection to a mixer. -/
def Joins : Prop := CallMedia.Joins t.item (t.effects site) mixer

/-- Whether a turn took the connection out of a mixer. -/
def Leaves : Prop := CallMedia.Leaves (t.effects site) mixer

/-- The journal makes no difference to whether a turn joins. -/
theorem joins_iff : t.Joins site mixer ↔ CallMedia.Joins t.item (t.shown site) mixer := by
  refine and_congr_right fun _ => exists_congr fun k => ?_
  rw [mem_shown]
  exact (and_iff_left rfl).symm

/-- The journal makes no difference to whether a turn leaves. -/
theorem leaves_iff : t.Leaves site mixer ↔ CallMedia.Leaves (t.shown site) mixer := by
  refine exists_congr fun k => ?_
  rw [mem_shown]
  exact (and_iff_left rfl).symm

end Turn

section

variable {σ : Type} (site : Site σ) (mixer : MixerHandle) (ts : List (Turn σ)) (t : Turn σ)

/-- Whether the connection was joined to a mixer, and has not been taken out of it since. -/
def JoinedTo : Prop := Since (fun t : Turn σ => t.Joins site mixer) (fun t => t.Leaves site mixer) ts

/-- Whether the connection was joined to another mixer, and has not been joined to this one since. -/
def Displaced : Prop :=
  Since (fun t : Turn σ => ∃ other, other ≠ mixer ∧ t.Joins site other)
    (fun t => t.Joins site mixer) ts

/-- With one turn more the connection is joined, or was and is not taken out. -/
theorem joinedTo_concat :
    JoinedTo site mixer (ts ++ [t]) ↔
      t.Joins site mixer ∨ (JoinedTo site mixer ts ∧ ¬ t.Leaves site mixer) :=
  since_concat

/-- A mixer is displaced by joining another, until it is joined again. -/
theorem displaced_concat :
    Displaced site mixer (ts ++ [t]) ↔
      (∃ other, other ≠ mixer ∧ t.Joins site other) ∨
        (Displaced site mixer ts ∧ ¬ t.Joins site mixer) :=
  since_concat

end

/-! ## Runs -/

namespace Run

variable {σ : Type} {site : Site σ} {ts : List (Turn σ)} {c : Controller σ}
  {queued : List Completion}

/-- While the session is not closed, the current mixer is the one that was joined last, if it has not been
    left. -/
theorem mixer_iff (h : Run site ts c queued) (hopen : c.phase ≠ .inactive) (mixer : MixerHandle) :
    c.desk.leg.mixer = some mixer ↔ JoinedTo site mixer ts ∧ ¬ Displaced site mixer ts := by
  -- by induction on the run; a closed session is never
  -- opened again, so it was open before the turn too
  refine h.invariant (P := fun ts p l => p ≠ .inactive →
    (l.mixer = some mixer ↔ JoinedTo site mixer ts ∧ ¬ Displaced site mixer ts)) ?_ ?_ hopen
  · intro _
    constructor
    · intro hmixer
      cases hmixer
    · exact fun hjoined => absurd hjoined.1 not_since_nil
  · intro ts t queued hbefore ih hopen
    obtain ⟨hturned, -, -⟩ := t.turned site hbefore.sound
    have hopen' : t.before.phase ≠ .inactive := by
      intro hp
      have hsound := hbefore.sound
      rw [hp] at hsound hturned
      obtain ⟨call, hcall⟩ := hsound.call_of_ne (by decide)
      exact hopen (hturned.silent hsound hcall).1
    replace ih := ih hopen'
    rw [joinedTo_concat, displaced_concat]
    simp only [t.joins_iff, t.leaves_iff]
    cases hturned.mixed hopen with
    | joined last hjoins hleaves hmixer =>
      rw [hmixer]
      by_cases heq : mixer = last
      · -- the mixer that is joined displaces every other, and is itself not displaced
        subst heq
        refine iff_of_true rfl ⟨.inl ((hjoins mixer).2 rfl), ?_⟩
        rintro (⟨other, hne, hother⟩ | ⟨-, hnot⟩)
        · exact hne ((hjoins other).1 hother)
        · exact hnot ((hjoins mixer).2 rfl)
      · refine iff_of_false (fun hlast => heq (Option.some.inj hlast).symm) ?_
        rintro ⟨-, hnot⟩
        exact hnot (.inl ⟨last, fun hlast => heq hlast.symm, (hjoins last).2 rfl⟩)
    | left last hjoins hleaves hwas hmixer =>
      -- the mixer that is left was the current one, so no other is joined and not displaced
      rw [hmixer]
      refine iff_of_false nofun ?_
      rintro ⟨hjoined | ⟨hjoined, hnot⟩, hdisplaced⟩
      · exact hjoins mixer hjoined
      · have hcurrent := ih.2 ⟨hjoined, fun hd => hdisplaced (.inr ⟨hd, hjoins mixer⟩)⟩
        rw [hwas] at hcurrent
        exact hnot ((hleaves mixer).2 (Option.some.inj hcurrent).symm)
    | kept hjoins hleaves hmixer =>
      have hnone : ¬ ∃ other, other ≠ mixer ∧ CallMedia.Joins t.item (t.shown site) other := by
        rintro ⟨other, -, hother⟩
        exact hjoins other hother
      rw [hmixer, ih, or_iff_right (hjoins mixer), and_iff_left (hleaves mixer), or_iff_right hnone,
        and_iff_left (hjoins mixer)]

/-- A leave that succeeds ends with no current mixer, and the connection is still in every mixer that was
    displaced. -/
theorem left (h : Run site ts c queued) {item : Item} {mixer : MixerHandle}
    (hleaves : Turn.Leaves site ⟨c, item⟩ mixer) :
    c.desk.leg.mixer = some mixer ∧ (c.handle site item).desk.leg.mixer = none ∧
      ∀ other, JoinedTo site other (ts ++ [⟨c, item⟩]) ↔
        JoinedTo site other ts ∧ Displaced site other ts := by
  have hshown := (Turn.leaves_iff site ⟨c, item⟩ mixer).1 hleaves
  obtain ⟨hturned, -, -⟩ := Turn.turned (t := ⟨c, item⟩) site h.sound
  obtain ⟨hcurrent, hp, sender, heq⟩ := hturned.of_leaves hshown
  dsimp only at hcurrent hp heq
  subst heq
  have hphase : (Turn.after site ⟨c, .message sender .leave⟩).phase = .active :=
    hturned.next.trans hp
  have hactive : c.phase ≠ .inactive := by
    rw [hp]
    decide
  refine ⟨hcurrent, ?_⟩
  cases hturned.mixed (by rw [hphase]; decide) with
  | joined last hjoins hnone hmixer => exact absurd hshown (hnone mixer)
  | kept hjoins hnone hmixer => exact absurd hshown (hnone mixer)
  | left last hjoins honly hwas hmixer =>
    refine ⟨hmixer, fun other => ?_⟩
    have hlast : last = mixer := Option.some.inj (hwas.symm.trans hcurrent)
    subst hlast
    have hcurrent_iff := h.mixer_iff hactive other
    rw [hcurrent] at hcurrent_iff
    rw [joinedTo_concat, Turn.joins_iff, Turn.leaves_iff, honly other, or_iff_right (hjoins other)]
    -- what is joined is the current mixer or displaced
    refine and_congr_right fun hjoined => ⟨fun hne => ?_, fun hdisplaced heq => ?_⟩
    · refine Classical.byContradiction fun hnot => hne ?_
      exact (Option.some.inj (hcurrent_iff.2 ⟨hjoined, hnot⟩)).symm
    · subst heq
      exact (hcurrent_iff.1 rfl).2 hdisplaced

end Run

section

variable {σ : Type} {site : Site σ} {ts : List (Turn σ)} {c : Controller σ}
  {queued : List Completion}

/-- While the session is not closed, of all the mixers that the connection is joined to the current one is
    the one joined last; every other is displaced.  A leave takes the connection out of the current mixer,
    and out of no other: what was displaced stays joined, and there is no current mixer any more. -/
theorem mixer_joined_last (h : Run site ts c queued) (hopen : c.phase ≠ .inactive) :
    (∀ mixer, c.desk.leg.mixer = some mixer ↔
      JoinedTo site mixer ts ∧ ¬ Displaced site mixer ts) ∧
    ∀ item mixer, Turn.Leaves site ⟨c, item⟩ mixer →
      c.desk.leg.mixer = some mixer ∧ (c.handle site item).desk.leg.mixer = none ∧
        ∀ other, JoinedTo site other (ts ++ [⟨c, item⟩]) ↔
          JoinedTo site other ts ∧ Displaced site other ts :=
  ⟨h.mixer_iff hopen, fun _ _ hleaves => h.left hleaves⟩

end

namespace Sample

def bridge : MixerHandle := ⟨"bridge"⟩

def conference : MixerHandle := ⟨"conference"⟩

def toBridge : Item := .message call (.joinBridge bridge)

def toConference : Item := .message call (.joinConference conference)

def leave : Item := .message call .leave

def bridged : Controller Unit := handled active toBridge

def conferred : Controller Unit := handled bridged toConference

/-- A call that is joined to a bridge, and from there to a conference. -/
def conferring : List (Turn Unit) :=
  [⟨fresh, create⟩, ⟨offered, .completion offer⟩, ⟨active, toBridge⟩, ⟨bridged, toConference⟩]

/-- The bridge is joined, and then the conference without leaving the bridge. -/
theorem run_conferred : Run site conferring conferred [] :=
  .turn _ bridged [] toConference (.turn _ active [] toBridge run_active nofun) nofun

/-- The leave takes the connection out of the conference. -/
theorem leaves_conference : Turn.Leaves site ⟨conferred, leave⟩ conference :=
  ⟨⟨"1"⟩, List.mem_of_getElem? (i := 1) rfl⟩

/-- Nothing takes the connection out of the bridge. -/
theorem joinedTo_bridge : JoinedTo site bridge conferring := by
  refine ⟨[⟨fresh, create⟩, ⟨offered, .completion offer⟩], ⟨active, toBridge⟩,
    [⟨bridged, toConference⟩], rfl, ⟨rfl, ⟨"1"⟩, List.mem_of_getElem? (i := 1) rfl⟩, ?_⟩
  intro u hu hleaves
  cases List.mem_singleton.1 hu
  have hsound := run_conferred.sound_of_mem (t := ⟨bridged, toConference⟩)
    (List.mem_of_getElem? (i := 3) rfl)
  obtain ⟨-, -, sender, heq⟩ :=
    (Turn.turned site hsound).1.of_leaves ((Turn.leaves_iff site _ _).1 hleaves)
  cases heq

end Sample

/-- The current mixer is the conference, to which the call was joined last. -/
theorem mixer_joined_last_conference :
    Sample.conferred.phase ≠ .inactive ∧
    JoinedTo Sample.site Sample.conference Sample.conferring ∧
    ¬ Displaced Sample.site Sample.conference Sample.conferring ∧
    (Sample.conferred.handle Sample.site Sample.leave).desk.leg.mixer = none := by
  have hopen : Sample.conferred.phase ≠ .inactive := by decide
  obtain ⟨hcurrent, hleave⟩ := mixer_joined_last Sample.run_conferred hopen
  obtain ⟨hjoined, hplaced⟩ := (hcurrent Sample.conference).1 rfl
  obtain ⟨-, hnone, -⟩ := hleave Sample.leave Sample.conference Sample.leaves_conference
  exact ⟨hopen, hjoined, hplaced, hnone⟩

/-- The call is joined to the bridge, and the current mixer is another.  It leaves, and there is no
    current mixer; the connection is still joined to the bridge. -/
theorem bridge_displaced :
    Run Sample.site Sample.conferring Sample.conferred [] ∧ Sample.conferred.phase = .active ∧
    JoinedTo Sample.site Sample.bridge Sample.conferring ∧
    Sample.conferred.desk.leg.mixer ≠ some Sample.bridge ∧
    Turn.Leaves Sample.site ⟨Sample.conferred, Sample.leave⟩ Sample.conference ∧
    (Sample.conferred.handle Sample.site Sample.leave).desk.leg.mixer = none ∧
    JoinedTo Sample.site Sample.bridge
      (Sample.conferring ++ [⟨Sample.conferred, Sample.leave⟩]) := by
  have hjoined := Sample.joinedTo_bridge
  have hother : Sample.conferred.desk.leg.mixer ≠ some Sample.bridge := by decide
  have hdisplaced : Displaced Sample.site Sample.bridge Sample.conferring :=
    Classical.byContradiction fun hnot =>
      hother ((Sample.run_conferred.mixer_iff (by decide) _).2 ⟨hjoined, hnot⟩)
  obtain ⟨-, hnone, hstill⟩ := Sample.run_conferred.left Sample.leaves_conference
  exact ⟨Sample.run_conferred, rfl, hjoined, hother, Sample.leaves_conference, hnone,
    (hstill Sample.bridge).2 ⟨hjoined, hdisplaced⟩⟩

end CallMedia
