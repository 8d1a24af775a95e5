/-
  What a leg holds, over every run.

  A leg holds a session, a connection in it, a group and a mixer that the connection is joined to, and an
  activity that the group is in.  They come and go one after the other, and the media server may refuse
  any single one; `Holdings` says what can be relied on all the same.  It is less than `Sound`, which has
  to speak of generations to be kept, and it is what the handlers rely on: an active session can always
  be renegotiated, and there is always a call to tell.
-/
import CallMedia.Proofs.Run

namespace CallMedia

/-- What can be relied on to be held together. -/
structure Holdings (p : Phase) (l : Leg) : Prop where
  /-- There is an owning call once a session has been created. -/
  owned : l.call ≠ none ↔ p ≠ .uninitialized
  /-- A connection is held in a session. -/
  connection : l.connection ≠ none → l.session ≠ none
  /-- And a group takes both. -/
  group : l.group ≠ none → l.session ≠ none ∧ l.connection ≠ none
  /-- Mixer, owner and conferencing mark come and go together, and take a connection. -/
  mixer : (l.mixer ≠ none ↔ l.conferencing = true) ∧ (l.owner ≠ none ↔ l.conferencing = true) ∧
    (l.conferencing = true → l.connection ≠ none)
  /-- An established session has its connection. -/
  established : p = .active ∨ p = .updating → l.session ≠ none ∧ l.connection ≠ none
  /-- Before a session and after it there is nothing at all. -/
  bare : p = .uninitialized ∨ p = .inactive →
    l.session = none ∧ l.connection = none ∧ l.group = none ∧ l.mixer = none ∧ l.active = none ∧
      l.recording = none ∧ ∀ c, (l.slot c).pending = false

/-- What is sound is held together: each clause is one of `Sound`, or follows from two of them. -/
theorem Sound.holdings {p : Phase} {l : Leg} (h : Sound p l) : Holdings p l := by
  have hmark : ∀ {α : Type} {o : Option α}, o.isSome = l.conferencing →
      (o ≠ none ↔ l.conferencing = true) := by
    intro α o ho
    rw [← ho, Option.isSome_iff_ne_none]
  refine
    { owned := not_congr h.owned
      connection := h.connected
      group := fun hg => ⟨h.connected (h.grouped hg), h.grouped hg⟩
      mixer := ⟨hmark h.mixed, hmark h.joined, h.conferring⟩
      established := fun hp => ⟨h.connected (h.established hp), h.established hp⟩
      bare := fun hp => ?_ }
  obtain ⟨hs, hr, hslots⟩ := h.bare hp
  obtain ⟨hk, hg, -, hm, ha⟩ := h.nothing_held hs
  exact ⟨hs, hk, hg, hm, ha, hr, hslots⟩

/-- A notice for an owning call that is not there would leave a line in the journal. -/
theorem Desk.tellCall_lacking {σ : Type} (d : Desk σ) (n : Notice) (h : d.leg.call = none) :
    ∃ line : Line, line.LacksCall ∧ .logged line ∈ (d.tellCall n).trace := by
  unfold tellCall
  rw [h]
  refine ⟨⟨.debug, "No owning call to tell", []⟩, ⟨rfl, ?_⟩,
    List.mem_append_right _ (List.mem_singleton_self _)⟩
  simp

/-- An update of an active session is handed to the media server on the connection held.  Only where the
    inbox is gone is it not: then the call hears of that. -/
theorem Turned.renegotiates {σ : Type} {site : Site σ} {w : Surroundings} {p' : Phase} {l l' : Leg}
    {sender : Recipient} {sdp : String} {es : List Effect}
    (h : Turned site w .active l (.message sender (.updateSession sdp)) p' l' es) :
    ∃ k, l.connection = some k ∧
      (w.inboxOpen = true → ∃ sink answer, .started (.processAnswer k sdp) sink answer ∈ es) ∧
      (w.inboxOpen = false → es = w.tellingCall l (.failure .channelClosed)) := by
  -- an update of an active session is the one thing that such a turn can be
  obtain ⟨-, k, hk, hn⟩ := h.of_update
  refine ⟨k, hk, fun hopen => ?_, fun hclosed => ?_⟩
  · cases hn with
    | begun g l' es hl =>
      cases hl with
      | accepted fate _ => exact ⟨_, _, List.mem_cons_self⟩
    | failed e l' es hl =>
      cases hl with
      | closed hclosed => rw [hopen] at hclosed; cases hclosed
      | refused e fate _ => exact ⟨_, _, List.mem_cons_self⟩
  · cases hn with
    | begun g l' es hl =>
      cases hl with
      | accepted fate hopen => rw [hclosed] at hopen; cases hopen
    | failed e l' es hl =>
      cases hl with
      | closed _ => rfl
      | refused e fate hopen => rw [hclosed] at hopen; cases hopen

/-- In every reachable state things are held together as `Holdings` says.  Hence an update of an active
    session never lacks a connection, and no notice for the owning call is dropped for want of one. -/
theorem holdings_reachable {σ : Type} {site : Site σ} {c : Controller σ} (h : Reachable site c) :
    Holdings c.phase c.desk.leg ∧
    (∀ sender sdp, c.phase = .active → ∃ k, c.desk.leg.connection = some k ∧
      (c.desk.inboxOpen = true → ∃ sink answer, .started (.processAnswer k sdp) sink answer ∈
        Turn.effects site ⟨c, .message sender (.updateSession sdp)⟩) ∧
      (c.desk.inboxOpen = false → ∃ call, c.desk.leg.call = some call ∧
        noticesOf (Turn.effects site ⟨c, .message sender (.updateSession sdp)⟩) =
          [(call, .failure .channelClosed)])) ∧
    (∀ item line, .logged line ∈ Turn.effects site ⟨c, item⟩ → ¬ line.LacksCall) := by
  have hs := h.sound
  refine ⟨hs.holdings, fun sender sdp hp => ?_, fun item line hline => ?_⟩
  · obtain ⟨hturned, -, -⟩ :=
      Turn.turned (t := ⟨c, .message sender (.updateSession sdp)⟩) site hs
    obtain ⟨call, hcall⟩ := hs.call_of_ne (by rw [hp]; decide)
    dsimp only at hturned
    rw [hp] at hturned
    obtain ⟨k, hk, hopen, hclosed⟩ := hturned.renegotiates
    refine ⟨k, hk, fun ho => ?_, fun hc => ⟨call, hcall, ?_⟩⟩
    · obtain ⟨sink, answer, hmem⟩ := hopen ho
      exact ⟨sink, answer, ((Turn.mem_shown site _).1 hmem).1⟩
    · rw [Turn.noticesOf_effects, hclosed hc, Surroundings.noticesOf_tellingCall _ hcall]
  · obtain ⟨-, -, hlines⟩ := Turn.turned (t := ⟨c, item⟩) site hs
    exact (hlines line hline).2.2

/-- With the offer made there are session and connection, and an update asks for the answer. -/
theorem holdings_active :
    Reachable Sample.site Sample.active ∧ Sample.active.phase = .active ∧
    Holdings Sample.active.phase Sample.active.desk.leg ∧
    ∃ sink answer, .started (.processAnswer ⟨"1"⟩ "answer") sink answer ∈
      Turn.effects Sample.site
        ⟨Sample.active, .message Sample.call (.updateSession "answer")⟩ := by
  have hreach : Reachable Sample.site Sample.active := ⟨_, _, Sample.run_active⟩
  obtain ⟨hholds, hupdate, -⟩ := holdings_reachable hreach
  obtain ⟨k, hk, hopen, -⟩ := hupdate Sample.call "answer" rfl
  have hname : k = ⟨"1"⟩ := Option.some.inj (hk.symm.trans rfl)
  subst hname
  exact ⟨hreach, rfl, hholds, hopen rfl⟩

end CallMedia
