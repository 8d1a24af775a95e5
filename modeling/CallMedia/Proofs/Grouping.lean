/-
  What comes of having a group, and of stopping what it does.

  A group is created and joined, or one of the steps fails and the leg is as it was (`GroupCreated`).  It
  is destroyed whatever the media server answers (`GroupDestroyed`).

  Stopping is one request for three kinds of activity (`ActiveStopped`): afterwards nothing is in flight,
  and at most one command was given, of the kind of what was.  Who asked for the stop decides what is
  made of it: a stopped group is announced to the observers, a stopped call recording is filed or
  discarded.
-/
import CallMedia.Proofs.Effects

namespace CallMedia

/-! ## The relations

Every constructor is one way through the handler, with what it asks and what it tells, in order. -/

/-- What comes of asking for a group where there is none. -/
inductive GroupCreated (w : Surroundings) (sender : Recipient) (l : Leg) : Leg → List Effect → Prop
  /-- There is no session to have it in. -/
  | noSession (hs : l.session = none) :
      GroupCreated w sender l l
        [w.telling sender (.failure (.resourceUnavailable "media session"))]
  /-- There is no connection to join it to. -/
  | noConnection (s : SessionHandle) (hs : l.session = some s) (hc : l.connection = none) :
      GroupCreated w sender l l
        [w.telling sender (.failure (.resourceUnavailable "network connection"))]
  /-- The media server does not give one. -/
  | refused (s : SessionHandle) (k : ConnectionHandle) (e : Fault) (hs : l.session = some s)
      (hc : l.connection = some k) :
      GroupCreated w sender l l [.created (.group s) (.error e), w.telling sender (.failure e)]
  /-- It gives one, which cannot be joined and is given back. -/
  | unjoined (s : SessionHandle) (k : ConnectionHandle) (name : String) (e : Fault)
      (answer : Except Fault Unit) (hs : l.session = some s) (hc : l.connection = some k) :
      GroupCreated w sender l l
        [.created (.group s) (.ok name), .performed (.join k .duplex (.group ⟨name⟩)) (.error e),
          .performed (.releaseGroup ⟨name⟩) answer, w.telling sender (.failure e)]
  /-- The group is there, and its sender is told. -/
  | joined (s : SessionHandle) (k : ConnectionHandle) (name : String) (hs : l.session = some s)
      (hc : l.connection = some k) :
      GroupCreated w sender l { l with group := some ⟨name⟩ }
        [.created (.group s) (.ok name), .performed (.join k .duplex (.group ⟨name⟩)) (.ok ()),
          w.telling sender .groupCreated]

/-- What comes of destroying the group. -/
inductive GroupDestroyed (w : Surroundings) (sender : Recipient) (l : Leg) :
    Leg → List Effect → Prop
  /-- There is none, and this is answered as if it had been destroyed. -/
  | absent (hg : l.group = none) :
      GroupDestroyed w sender l l [w.telling (l.call.getD sender) .groupDestroyed]
  /-- It is gone, and what was in flight with it, whatever the answer. -/
  | released (group : GroupHandle) (answer : Except Fault Unit) (hg : l.group = some group) :
      GroupDestroyed w sender l { l with group := none, active := none }
        [.performed (.releaseGroup group) answer, w.telling (l.call.getD sender) .groupDestroyed]

/-- What comes of stopping what the group does; the leg is then without an activity in flight. -/
inductive ActiveStopped (l : Leg) : Except Fault (Option Active) → List Effect → Prop
  /-- Nothing was in flight. -/
  | idle (ha : l.active = none) : ActiveStopped l (.ok none) []
  /-- Something was, but its group is gone, so that there is nothing to ask. -/
  | groupless (a : Active) (ha : l.active = some a) (hg : l.group = none) :
      ActiveStopped l (.ok (some a)) []
  /-- What was in flight is stopped. -/
  | stopped (a : Active) (group : GroupHandle) (ha : l.active = some a) (hg : l.group = some group) :
      ActiveStopped l (.ok (some a)) [.performed (.stop a.activity group) (.ok ())]
  /-- The media server refuses, but what was in flight is let go. -/
  | refused (a : Active) (group : GroupHandle) (e : Fault) (ha : l.active = some a)
      (hg : l.group = some group) :
      ActiveStopped l (.error e) [.performed (.stop a.activity group) (.error e)]

/-- Something was in flight if anything came of stopping it. -/
theorem ActiveStopped.busy {l : Leg} {result : Except Fault (Option Active)} {es : List Effect}
    (h : ActiveStopped l result es) (hr : result ≠ .ok none) : l.active ≠ none := by
  cases h with
  | idle ha => exact absurd rfl hr
  | groupless a ha hg => exact Option.ne_none_iff_exists'.2 ⟨a, ha⟩
  | stopped a group ha hg => exact Option.ne_none_iff_exists'.2 ⟨a, ha⟩
  | refused a group e ha hg => exact Option.ne_none_iff_exists'.2 ⟨a, ha⟩

/-- What comes of stopping the group. -/
inductive GroupStopped (w : Surroundings) (l : Leg) : List Effect → Prop
  /-- The observers are told that the group is quiet. -/
  | quiet (was : Option Active) (es : List Effect) (hs : ActiveStopped l (.ok was) es) :
      GroupStopped w l (es ++ w.tellingAll l (.groupStateChanged .inactive))
  /-- They are told what went wrong. -/
  | failed (e : Fault) (es : List Effect) (hs : ActiveStopped l (.error e) es) :
      GroupStopped w l (es ++ w.tellingAll l (.failure e))

namespace Desk

variable {σ : Type} (site : Site σ) (d : Desk σ) (sender : Recipient)

/-! ## Having a group

The steps of making a group are followed one by one, for each of them may fail. -/

/-- Allocating a group, up to the answer to its sender. -/
theorem allocateGroup_cases {session : SessionHandle} (hs : d.leg.session = some session) :
    (∃ e shown, (d.allocateGroup site session).1 = .error e ∧
      (d.allocateGroup site session).2.leg = d.leg ∧
      d.Goes shown (d.allocateGroup site session).2 ∧
      GroupCreated d.surroundings sender d.leg d.leg
        (shown ++ [d.surroundings.telling sender (.failure e)])) ∨
    (∃ l shown, (d.allocateGroup site session).1 = .ok () ∧
      (d.allocateGroup site session).2.leg = l ∧
      d.Goes shown (d.allocateGroup site session).2 ∧
      GroupCreated d.surroundings sender d.leg l
        (shown ++ [d.surroundings.telling sender .groupCreated])) := by
  unfold allocateGroup
  cases hk : d.leg.connection with
  | none => exact .inl ⟨_, [], rfl, rfl, .refl d, .noConnection session hs hk⟩
  | some k =>
    dsimp only
    rcases hc : d.create site (.group session) with ⟨created, d₁⟩
    obtain ⟨hgo₁, hleg₁⟩ := goes_create site hc
    cases created with
    | error e => exact .inl ⟨e, _, rfl, hleg₁, hgo₁, .refused session k e hs hk⟩
    | ok name =>
      dsimp only
      rcases hj : d₁.perform site (.join k .duplex (.group ⟨name⟩)) with ⟨joined, d₂⟩
      obtain ⟨hgo₂, hleg₂⟩ := goes_perform site hj
      have hgo := hgo₁.trans hgo₂
      have hleg := hleg₂.trans hleg₁
      -- a group that could not be joined is released again before the sender hears of it
      cases joined with
      | error e =>
        dsimp only
        rcases hr : d₂.perform site (.releaseGroup ⟨name⟩) with ⟨answer, d₃⟩
        obtain ⟨hgo₃, hleg₃⟩ := goes_perform site hr
        have hgo' := hgo.trans hgo₃
        have hleg' := hleg₃.trans hleg
        cases answer with
        | ok u => exact .inl ⟨e, _, rfl, hleg', hgo', .unjoined session k name e (.ok ()) hs hk⟩
        | error stuck =>
          have hline : Line.Ordinary
              ⟨.warn, s!"Could not release media group {name}: {stuck.message}", []⟩ :=
            Line.ordinary_warn (by simp [toString])
          exact .inl ⟨e, _, rfl, hleg', hgo'.log hline,
            .unjoined session k name e (.error stuck) hs hk⟩
      | ok u =>
        refine .inr ⟨{ d.leg with group := some ⟨name⟩ }, _, rfl, ?_,
          (hgo.log Line.ordinary_info).leg _, .joined session k name hs hk⟩
        show ({ d₂.leg with group := some ⟨name⟩ } : Leg) = _
        rw [hleg]

/-- Without a group, one is made as `GroupCreated` says. -/
theorem createGroup_created (hg : d.leg.group = none) :
    ∃ shown,
      GroupCreated d.surroundings sender d.leg (d.createGroup site sender).leg shown ∧
      d.Goes shown (d.createGroup site sender) := by
  unfold createGroup
  simp only [hg, Option.isSome_none, Bool.false_eq_true, if_false]
  cases hs : d.leg.session with
  | none =>
    refine ⟨_, ?_, d.goes_tell _ _⟩
    rw [leg_tell]
    exact .noSession hs
  | some session =>
    have hcases := d.allocateGroup_cases site sender hs
    dsimp only
    rcases ha : d.allocateGroup site session with ⟨result, d₁⟩
    rw [ha] at hcases
    rcases hcases with ⟨e, shown, rfl, hleg, hgo, hrel⟩ | ⟨l, shown, rfl, hleg, hgo, hrel⟩
    · have hline : Line.Ordinary ⟨.error, s!"Could not create media group: {e.message}", []⟩ :=
        Line.ordinary_error (by simp [toString])
      refine ⟨_, ?_, (hgo.log hline).tell sender (.failure e)⟩
      rw [leg_tell, leg_log, hleg]
      exact hrel
    · refine ⟨_, ?_, hgo.tell sender .groupCreated⟩
      rw [leg_tell, hleg]
      exact hrel

/-- A group is destroyed as `GroupDestroyed` says; without one there is nothing to destroy. -/
theorem destroyGroup_destroyed :
    ∃ shown,
      GroupDestroyed d.surroundings sender d.leg (d.destroyGroup site sender).leg shown ∧
      d.Goes shown (d.destroyGroup site sender) := by
  unfold destroyGroup
  cases hg : d.leg.group with
  | none =>
    refine ⟨_, ?_, d.goes_tell _ _⟩
    rw [leg_tell]
    exact .absent hg
  | some group =>
    dsimp only
    rcases hr : ({ d with leg := { d.leg with group := none, active := none } } : Desk σ).perform site
      (.releaseGroup group) with ⟨answer, d₁⟩
    obtain ⟨hgo, hleg⟩ := goes_perform site hr
    replace hgo := (d.goes_leg _).trans hgo
    cases answer with
    | ok u =>
      refine ⟨_, ?_, hgo.tell (d₁.leg.call.getD sender) .groupDestroyed⟩
      rw [leg_tell, hleg]
      exact .released group (.ok ()) hg
    | error e =>
      have hline : Line.Ordinary
          ⟨.warn, s!"Could not release media group {group.name}: {e.message}", []⟩ :=
        Line.ordinary_warn (by simp [toString])
      refine ⟨_, ?_, (hgo.log hline).tell (d₁.leg.call.getD sender) .groupDestroyed⟩
      rw [leg_tell, leg_log, hleg]
      exact .released group (.error e) hg

/-! ## Stopping

Nobody looks at what the media server answers before letting go of what is in flight. -/

/-- What is in flight is stopped as `ActiveStopped` says, and forgotten in any case. -/
theorem stopActive_stopped :
    ∃ shown,
      ActiveStopped d.leg (d.stopActive site).1 shown ∧
      (d.stopActive site).2.leg = { d.leg with active := none } ∧
      d.Goes shown (d.stopActive site).2 := by
  unfold stopActive
  cases hg : d.leg.group with
  | none =>
    cases ha : d.leg.active with
    | none =>
      simp only [hg]
      exact ⟨[], .idle ha, trivial, d.goes_leg _⟩
    | some a =>
      simp only [hg]
      exact ⟨[], .groupless a ha hg, trivial, d.goes_leg _⟩
  | some group =>
    cases ha : d.leg.active with
    | none =>
      simp only [hg]
      exact ⟨[], .idle ha, trivial, d.goes_leg _⟩
    | some a =>
      simp only [hg]
      -- what is in flight is cleared before the media server is asked
      rcases hs : perform site _ (.stop a.activity group) with ⟨answer, d₁⟩
      obtain ⟨hgo, hleg⟩ := goes_perform site hs
      replace hgo := (d.goes_leg _).trans hgo
      cases answer with
      | error e => exact ⟨_, .refused a group e ha hg, hleg, hgo⟩
      | ok u =>
        have hline : Line.Ordinary ⟨.debug, s!"Stopped {a.describe} on {group.name}", []⟩ :=
          Line.ordinary_debug (by simp [toString])
        exact ⟨_, .stopped a group ha hg, hleg, hgo.log hline⟩

/-- A group is stopped as `GroupStopped` says. -/
theorem stopGroup_stopped :
    ∃ shown,
      GroupStopped d.surroundings d.leg shown ∧
      (d.stopGroup site).leg = { d.leg with active := none } ∧
      d.Goes shown (d.stopGroup site) := by
  unfold stopGroup
  obtain ⟨shown, hstop, hleg, hgo⟩ := d.stopActive_stopped site
  rcases hs : d.stopActive site with ⟨result, d₁⟩
  rw [hs] at hstop hleg hgo
  -- stopping leaves the register of observers alone
  have hobs : d.surroundings.tellingAll d₁.leg = d.surroundings.tellingAll d.leg := by
    rw [hleg]
    rfl
  cases result with
  | ok was =>
    refine ⟨_, .quiet was shown hstop, (leg_broadcast _ _).trans hleg, ?_⟩
    rw [← hobs]
    exact hgo.broadcast _
  | error e =>
    have hline : Line.Ordinary ⟨.error, s!"Could not stop media group: {e.message}", []⟩ :=
      Line.ordinary_error (by simp [toString])
    refine ⟨_, .failed e shown hstop, (leg_broadcast _ _).trans hleg, ?_⟩
    rw [← hobs]
    exact (hgo.log hline).broadcast _

end Desk

end CallMedia
