/-
  The commands that are given in a turn.

  `Commanded` lists every command that a controller ever gives to the media server, with the item that it
  is given for and with what is held at that moment.  There is no other (`Turned.commanded`), so that what
  can have led to a command is read off this list.

  Most of the list is one line for a message.  Stopping is shared by three messages, and full duplex by
  two that join a mixer and one that only restores what was muted.
-/
import CallMedia.Proofs.Sound

namespace CallMedia

/-! ## What gives which command

Going through the relations of which turns are made, one after the other: each gives few commands, or
none. -/

/-- No notice asks the media server for anything. -/
theorem Surroundings.not_performed (w : Surroundings) (rs : List Recipient) (n : Notice)
    (what : Command) (answer : Except Fault Unit) :
    .performed what answer ∉ rs.map fun r => w.telling r n := by
  intro hm
  obtain ⟨r, -, hr⟩ := List.mem_map.1 hm
  cases hr

/-- To tell somebody something afterwards gives no command. -/
theorem Surroundings.performed_before (w : Surroundings) {es : List Effect} {rs : List Recipient}
    {n : Notice} {what : Command} {answer : Except Fault Unit}
    (hm : .performed what answer ∈ es ++ rs.map fun r => w.telling r n) :
    .performed what answer ∈ es := by
  rcases List.mem_append.1 hm with hm | hm
  · exact hm
  · exact absurd hm (w.not_performed rs n what answer)

section

variable {w : Surroundings} {l l₀ l' : Leg} {es : List Effect} {what : Command}
  {answer : Except Fault Unit}

/-- Stopping gives a command only for what is in flight, and only of its kind. -/
theorem ActiveStopped.performed {result : Except Fault (Option Active)}
    (h : ActiveStopped l result es) (hm : .performed what answer ∈ es) :
    ∃ a group, what = .stop a.activity group ∧ l.active = some a ∧ l.group = some group := by
  cases h with
  | idle ha => cases hm
  | groupless a ha hg => cases hm
  | stopped a group ha hg =>
    cases List.mem_singleton.1 hm
    exact ⟨a, group, rfl, ha, hg⟩
  | refused a group e ha hg =>
    cases List.mem_singleton.1 hm
    exact ⟨a, group, rfl, ha, hg⟩

/-- What is made of a stop gives no command more. -/
theorem Stopped.performed {reader : Recording.Reader} {apiVersion : String} {artifact : Bool}
    (h : Stopped reader apiVersion w artifact l l' es) (hm : .performed what answer ∈ es) :
    ∃ a group, what = .stop a.activity group ∧ l.active = some a ∧ l.group = some group := by
  -- what is stored and told comes after the effects of the stop itself
  cases h with
  | other was es hs hw => exact hs.performed hm
  | plain g es hs hr => exact hs.performed hm
  | dropped g r es hs hr hg hd => exact hs.performed hm
  | failed e es hs => exact hs.performed (w.performed_before hm)
  | filed g r accountId store m es hs hr hg ha haccount hstore hm' =>
    rcases List.mem_append.1 hm with hm | hm
    · exact hs.performed hm
    · cases List.mem_singleton.1 hm
  | unfiled g r accountId store m e es hs hr hg ha haccount hstore hm' =>
    rcases List.mem_append.1 hm with hm | hm
    · exact hs.performed hm
    · rcases List.mem_cons.1 hm with hm | hm
      · cases hm
      · exact absurd hm (w.not_performed _ _ _ _)

/-- Stopping the group commands what `stopActive` does, and nothing else. -/
theorem GroupStopped.performed (h : GroupStopped w l es) (hm : .performed what answer ∈ es) :
    ∃ a group, what = .stop a.activity group ∧ l.active = some a ∧ l.group = some group := by
  cases h with
  | quiet was es hs => exact hs.performed (w.performed_before hm)
  | failed e es hs => exact hs.performed (w.performed_before hm)

theorem Negotiates.not_performed {op : Operation} (h : Negotiates w l op l' es) (what : Command)
    (answer : Except Fault Unit) : .performed what answer ∉ es := by
  have htold : ∀ (l : Leg) n, .performed what answer ∉ w.tellingCall l n :=
    fun l n => w.not_performed _ n what answer
  cases h with
  | begun g l' es hl => cases hl with | accepted fate hopen => simp
  | failed e l' es hl =>
    cases hl with
    | closed hopen => exact htold _ _
    | refused e fate hopen => simp [htold]

theorem Opened.not_performed (h : Opened w l l' es) : .performed what answer ∉ es := by
  have htold : ∀ n, .performed what answer ∉ w.tellingCall l n :=
    fun n => w.not_performed _ n what answer
  cases h with
  | noSession e => simp [htold]
  | noConnection name e => simp [htold]
  | negotiates name name' l' es hn => simp [hn.not_performed]

/-- To ask for an activity gives a command only where digits are to be discarded first. -/
theorem Attempted.performed {a : Activity} {op : GroupHandle → Operation} {sender : Recipient}
    {r : Option Nat} (h : Attempted w a op sender l l₀ r l' es) (hm : .performed what answer ∈ es) :
    a = .digitCollection ∧ ∃ group, what = .flushDigits group ∧ l.group = some group := by
  have htold : ∀ n, .performed what answer ∉ w.tellingAll l₀ n :=
    fun n => w.not_performed _ n what answer
  -- before the start at most one command is given
  have hprepared : ∀ group, l.idleGroup a = .ok group → .performed what answer ∈ prepared a group →
      a = .digitCollection ∧ ∃ group, what = .flushDigits group ∧ l.group = some group := by
    intro group hidle hm
    unfold prepared at hm
    split at hm
    · next ha =>
      cases List.mem_singleton.1 hm
      exact ⟨ha, group, rfl, (Leg.idleGroup_eq_ok hidle).1⟩
    · cases hm
  cases h with
  | unfit e idle => cases List.mem_singleton.1 hm
  | unprepared group e idle digits =>
    rcases List.mem_cons.1 hm with hm | hm
    · cases hm
      exact ⟨digits, group, rfl, (Leg.idleGroup_eq_ok idle).1⟩
    · exact absurd hm (htold _)
  | closed group idle hopen => exact hprepared group idle (w.performed_before hm)
  | refused group e fate idle hopen =>
    rcases List.mem_append.1 hm with hm | hm
    · exact hprepared group idle hm
    · rcases List.mem_cons.1 hm with hm | hm
      · cases hm
      · exact absurd hm (htold _)
  | accepted group fate idle hopen =>
    rcases List.mem_append.1 hm with hm | hm
    · exact hprepared group idle hm
    · cases List.mem_singleton.1 hm

end

/-! ## Every command

Put together, with what the guards say of phase and leg. -/

/-- The mixer that an item asks to join. -/
def Item.mixer? : Item → Option MixerHandle
  | .message _ (.joinBridge mixer) | .message _ (.joinConference mixer) => some mixer
  | _ => none

/-- What a command is given for, and with what. -/
inductive Commanded (p : Phase) (l : Leg) : Item → Command → Prop
  /-- The session is released when it is closed. -/
  | closed (sender : Recipient) (s : SessionHandle)
      (hp : p = .opening ∨ p = .active ∨ p = .updating) (hs : l.session = some s) :
      Commanded p l (.message sender .closeSession) (.releaseSession s)
  /-- A new group is joined to the connection. -/
  | grouped (sender : Recipient) (k : ConnectionHandle) (name : String)
      (hk : l.connection = some k) (hg : l.group = none) :
      Commanded p l (.message sender .createGroup) (.join k .duplex (.group ⟨name⟩))
  /-- A new group that could not be joined is given back. -/
  | withdrawn (sender : Recipient) (name : String) (hg : l.group = none) :
      Commanded p l (.message sender .createGroup) (.releaseGroup ⟨name⟩)
  /-- A group is released when it is destroyed. -/
  | ungrouped (sender : Recipient) (group : GroupHandle) (hg : l.group = some group) :
      Commanded p l (.message sender .destroyGroup) (.releaseGroup group)
  /-- What is in flight is stopped, for any of three messages. -/
  | stopped (sender : Recipient) (m : Message) (a : Active) (group : GroupHandle)
      (hm : m = .stopGroup ∨ (∃ artifact, m = .stop artifact) ∨
        ∃ accountId store, m = .stopRecording accountId store)
      (ha : l.active = some a) (hg : l.group = some group) :
      Commanded p l (.message sender m) (.stop a.activity group)
  /-- Digits that were buffered are discarded before others are collected. -/
  | flushed (sender : Recipient) (order : CollectOrder) (group : GroupHandle) (hp : p = .active)
      (hg : l.group = some group) :
      Commanded p l (.message sender (.collect order)) (.flushDigits group)
  /-- A bridge or a conference is joined. -/
  | joined (item : Item) (k : ConnectionHandle) (mixer : MixerHandle) (hp : p = .active)
      (hk : l.connection = some k) (hm : item.mixer? = some mixer) :
      Commanded p l item (.join k .duplex (.mixer mixer))
  /-- A mixer is left. -/
  | left (sender : Recipient) (k : ConnectionHandle) (mixer : MixerHandle) (hp : p = .active)
      (hk : l.connection = some k) (hm : l.mixer = some mixer) :
      Commanded p l (.message sender .leave) (.unjoin k (.mixer mixer))
  /-- The leg only listens from now on. -/
  | muted (sender : Recipient) (k : ConnectionHandle) (mixer : MixerHandle) (hp : p = .active)
      (hk : l.connection = some k) (hm : l.mixer = some mixer) :
      Commanded p l (.message sender .mute) (.join k .recv (.mixer mixer))
  /-- The leg speaks again. -/
  | unmuted (sender : Recipient) (k : ConnectionHandle) (mixer : MixerHandle) (hp : p = .active)
      (hk : l.connection = some k) (hm : l.mixer = some mixer) :
      Commanded p l (.message sender .unmute) (.join k .duplex (.mixer mixer))

section

variable {σ : Type} {site : Site σ} {w : Surroundings} {p p' : Phase} {l l' : Leg} {item : Item}
  {es : List Effect} {what : Command} {answer : Except Fault Unit}

/-- Only an order to collect digits asks for digits. -/
theorem Message.collect_of_ask? {settings : Settings} {m : Message} {k : Ask}
    (h : m.ask? settings = some k) (ha : k.activity = .digitCollection) :
    ∃ order, m = .collect order := by
  cases m with
  | collect order => exact ⟨order, rfl⟩
  | _ => cases h <;> cases ha

/-- Whatever command is given in a turn is on the list. -/
theorem Turned.commanded (h : Turned site w p l item p' l' es)
    (hm : .performed what answer ∈ es) : Commanded p l item what := by
  have htold : ∀ (rs : List Recipient) n, .performed what answer ∉ rs.map fun r => w.telling r n :=
    fun rs n => w.not_performed rs n what answer
  -- what is told comes last everywhere, and is no command
  cases h with
  | ignored item hout => cases hm
  | opened sender outbound mode sdp l' es hp ho => exact absurd hm ho.not_performed
  | closed sender es hp hr =>
    replace hm := w.performed_before hm
    cases hr with
    | nothing hs => cases hm
    | released s answer hs =>
      cases List.mem_singleton.1 hm
      exact .closed sender s hp hs
  | updated sender sdp k l' es hp hk hn => exact absurd hm (hn.not_performed _ _)
  | agreed g o localSdp hp awaited ho => exact absurd hm (htold _ _)
  | broke g o fault hp awaited ho => exact absurd hm (htold _ _)
  | groupCreated sender l' es hg hc =>
    cases hc with
    | noSession hs => exact absurd hm (htold [sender] _)
    | noConnection s hs hk => exact absurd hm (htold [sender] _)
    | refused s k e hs hk =>
      rcases List.mem_cons.1 hm with hm | hm
      · cases hm
      · exact absurd hm (htold [sender] _)
    | unjoined s k name e answer hs hk =>
      rcases List.mem_cons.1 hm with hm | hm
      · cases hm
      · rcases List.mem_cons.1 hm with hm | hm
        · cases hm
          exact .grouped sender k name hk hg
        · rcases List.mem_cons.1 hm with hm | hm
          · cases hm
            exact .withdrawn sender name hg
          · exact absurd hm (htold [sender] _)
    | joined s k name hs hk =>
      rcases List.mem_cons.1 hm with hm | hm
      · cases hm
      · rcases List.mem_cons.1 hm with hm | hm
        · cases hm
          exact .grouped sender k name hk hg
        · exact absurd hm (htold [sender] _)
  | groupDestroyed sender l' es hd =>
    cases hd with
    | absent hg => exact absurd hm (htold [l.call.getD sender] _)
    | released group answer hg =>
      rcases List.mem_cons.1 hm with hm | hm
      · cases hm
        exact .ungrouped sender group hg
      · exact absurd hm (htold [l.call.getD sender] _)
  | groupStopped sender es hs =>
    obtain ⟨a, group, rfl, ha, hg⟩ := hs.performed hm
    exact .stopped sender _ a group (.inl rfl) ha hg
  | attempted sender m k r l' es hp hk ht =>
    obtain ⟨ha, group, rfl, hg⟩ := ht.performed hm
    obtain ⟨order, rfl⟩ := Message.collect_of_ask? hk ha
    exact .flushed sender order group hp hg
  | stopped sender artifact l' es ha hs =>
    obtain ⟨a, group, rfl, ha, hg⟩ := hs.performed hm
    exact .stopped sender _ a group (.inr (.inl ⟨artifact, rfl⟩)) ha hg
  | stoppedRecording sender accountId store g l' es hp ha hs =>
    obtain ⟨a, group, rfl, ha, hg⟩ := hs.performed hm
    exact .stopped sender _ a group (.inr (.inr ⟨accountId, store, rfl⟩)) ha hg
  | joined sender m mixer l' es hp hmixer hj =>
    have hitem : Item.mixer? (.message sender m) = some mixer := by rcases hmixer with rfl | rfl <;> rfl
    cases hj with
    | joined k hk =>
      rcases List.mem_cons.1 hm with hm | hm
      · cases hm
        exact .joined _ k mixer hp hk hitem
      · exact absurd hm (htold _ _)
    | refused k e hk =>
      rcases List.mem_cons.1 hm with hm | hm
      · cases hm
        exact .joined _ k mixer hp hk hitem
      · exact absurd hm (htold _ _)
  | left sender l' es hp hc hl =>
    cases hl with
    | left k mixer hk hmixer =>
      cases List.mem_singleton.1 hm
      exact .left sender k mixer hp hk hmixer
    | refused k mixer e hk hmixer =>
      rcases List.mem_cons.1 hm with hm | hm
      · cases hm
        exact .left sender k mixer hp hk hmixer
      · exact absurd hm (htold _ _)
  | rejoined sender m direction k mixer answer hp hd hk hmixer =>
    cases List.mem_singleton.1 hm
    rcases hd with ⟨rfl, rfl⟩ | ⟨rfl, rfl⟩
    · exact .muted sender k mixer hp hk hmixer
    · exact .unmuted sender k mixer hp hk hmixer
  | observed sender observer => exact absurd hm (htold [observer] _)
  | unobserved sender observer => cases hm
  | finished e a result hcat awaited hr => exact absurd hm (htold _ _)

/-- The media server is asked to stop only what is in flight, on the group that is held. -/
theorem Turned.stops (h : Turned site w p l item p' l' es) {a : Activity} {group : GroupHandle}
    (hm : .performed (.stop a group) answer ∈ es) :
    l.group = some group ∧ ∃ g, l.active = some ⟨a, g⟩ := by
  cases h.commanded hm with
  | stopped sender m a group hm ha hg => exact ⟨hg, a.generation, ha⟩

end

end CallMedia
