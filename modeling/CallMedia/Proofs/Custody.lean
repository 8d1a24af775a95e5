/-
  No use after release and no lost group, over every run.

  The media server is assumed to return a fresh handle whenever it allocates something (`Fresh`).  A
  handle is live from the moment it is returned until it is released, or the session that it belongs to
  (`Live`).  Then in every run (`Orderly`): whatever is named to the media server is live at that
  moment; a session is asked for once at most; nothing is released twice; and a group that was created
  is held, or gone.

  The proof follows the history of a run effect by effect.  `Turned.custody` says what each effect
  complies with, and `Kept` ties what is held at some moment to the history up to then: its two clauses
  on connection and group say that they belong to the session that is held.  Freshness makes that
  session unique, so what belongs to it is not gone (`Kept.live`).
-/
import CallMedia.Proofs.Handles

namespace CallMedia

/-! ## Histories

Which handles were returned, which were given out in which session, and which were released, in
order. -/

/-- All that was done in a run, in order, without the journal. -/
def history {σ : Type} (site : Site σ) (ts : List (Turn σ)) : List Effect :=
  ts.flatMap (Turn.shown site)

/-- One turn more adds what is done in it. -/
theorem history_concat {σ : Type} (site : Site σ) (ts : List (Turn σ)) (t : Turn σ) :
    history site (ts ++ [t]) = history site ts ++ t.shown site := by
  unfold history
  rw [List.flatMap_append, List.flatMap_singleton]

/-- The handles that were returned, in order. -/
def allocated (es : List Effect) : List Handle := es.filterMap Effect.allocated?

/-- The handles that were returned, with the sessions that they belong to. -/
def allotted (es : List Effect) : List (SessionHandle × Handle) := es.filterMap Effect.allotted?

/-- The handles that were to be released, in order. -/
def released (es : List Effect) : List Handle := es.filterMap Effect.released?

/-- Whether the media server returns a fresh handle every time. -/
def Fresh (es : List Effect) : Prop := (allocated es).Nodup

/-- Whether a handle was released, or the session that it belongs to. -/
def Gone (es : List Effect) (x : Handle) : Prop :=
  x ∈ released es ∨ ∃ s, (s, x) ∈ allotted es ∧ .session s ∈ released es

/-- Whether a handle was returned and is not gone. -/
def Live (es : List Effect) (x : Handle) : Prop := x ∈ allocated es ∧ ¬ Gone es x

/-- Requests that name nothing that is gone, and release nothing twice. -/
structure Proper (es : List Effect) : Prop where
  /-- Only what is live is named, at any moment. -/
  named : ∀ before e after, es = before ++ e :: after → ∀ x ∈ e.names, Live before x
  /-- A session is asked for once at most. -/
  asked : es.countP Effect.asksSession ≤ 1
  /-- Nothing is released twice. -/
  released : (released es).Nodup

/-- What can be relied on once `es` was done and `group` is held. -/
structure Orderly (es : List Effect) (group : Option GroupHandle) : Prop extends Proper es where
  /-- A group that was created is held, or gone. -/
  found : ∀ g, .group g ∈ allocated es → group = some g ∨ Gone es (.group g)
  /-- There is one group at most. -/
  single : ∀ g g', Live es (.group g) → Live es (.group g') → g = g'

section

variable {es es' : List Effect} {e : Effect} {x : Handle} {s s' : SessionHandle}

/-! ## One effect more

All is read off a history by filtering it, so one effect more is one entry more, or none. -/

/-- One effect more returns one handle more at most. -/
theorem allocated_concat (es : List Effect) (e : Effect) :
    allocated (es ++ [e]) = allocated es ++ e.allocated?.toList := by
  unfold allocated
  rw [List.filterMap_append]
  cases he : e.allocated? <;> simp [he]

theorem allotted_concat (es : List Effect) (e : Effect) :
    allotted (es ++ [e]) = allotted es ++ e.allotted?.toList := by
  unfold allotted
  rw [List.filterMap_append]
  cases he : e.allotted? <;> simp [he]

theorem released_concat (es : List Effect) (e : Effect) :
    released (es ++ [e]) = released es ++ e.released?.toList := by
  unfold released
  rw [List.filterMap_append]
  cases he : e.released? <;> simp [he]

/-- A handle was returned before, or by the last effect. -/
theorem mem_allocated_concat :
    x ∈ allocated (es ++ [e]) ↔ x ∈ allocated es ∨ e.allocated? = some x := by
  rw [allocated_concat, List.mem_append, Option.mem_toList]

theorem mem_allotted_concat :
    (s, x) ∈ allotted (es ++ [e]) ↔ (s, x) ∈ allotted es ∨ e.allotted? = some (s, x) := by
  rw [allotted_concat, List.mem_append, Option.mem_toList]

theorem mem_released_concat :
    x ∈ released (es ++ [e]) ↔ x ∈ released es ∨ e.released? = some x := by
  rw [released_concat, List.mem_append, Option.mem_toList]

/-- What is gone stays so. -/
theorem Gone.concat (h : Gone es x) (e : Effect) : Gone (es ++ [e]) x := by
  rcases h with h | ⟨s, hs, hr⟩
  · exact .inl (mem_released_concat.2 (.inl h))
  · exact .inr ⟨s, mem_allotted_concat.2 (.inl hs), mem_released_concat.2 (.inl hr)⟩

/-- A beginning of a history with fresh handles has fresh handles. -/
theorem Fresh.left (h : Fresh (es ++ es')) : Fresh es := by
  unfold Fresh allocated at h
  rw [List.filterMap_append] at h
  exact (List.nodup_append.1 h).1

/-! ## What handles are

Facts about single handles that need nothing but that the server returns fresh ones. -/

/-- A handle that was returned within a session was returned. -/
theorem Effect.allocated?_of_allotted? (h : e.allotted? = some (s, x)) : e.allocated? = some x := by
  cases e with
  | created what answer =>
    cases answer with
    | error fault => cases h
    | ok name => cases what <;> cases h <;> rfl
  | _ => cases h

/-- What was returned in a session was returned. -/
theorem mem_allocated_of_allotted (h : (s, x) ∈ allotted es) : x ∈ allocated es := by
  obtain ⟨e, he, hs⟩ := List.mem_filterMap.1 h
  exact List.mem_filterMap.2 ⟨e, he, Effect.allocated?_of_allotted? hs⟩

/-- A session belongs to none. -/
theorem not_allotted_session (s s' : SessionHandle) (es : List Effect) :
    (s, .session s') ∉ allotted es := by
  intro h
  obtain ⟨e, -, hs⟩ := List.mem_filterMap.1 h
  cases e with
  | created what answer =>
    cases answer with
    | error fault => cases hs
    | ok name => cases what <;> cases hs
  | _ => cases hs

/-- A connection is never released on its own. -/
theorem not_released_connection (k : ConnectionHandle) (es : List Effect) :
    .connection k ∉ released es := by
  intro h
  obtain ⟨e, -, hr⟩ := List.mem_filterMap.1 h
  cases e with
  | performed what answer => cases what <;> cases hr
  | _ => cases hr

/-- What is released is named. -/
theorem Effect.mem_names_of_released? (h : e.released? = some x) : x ∈ e.names := by
  cases e with
  | performed what answer => cases what <;> cases h <;> exact List.mem_singleton_self _
  | _ => cases h

/-- Fresh handles belong to one session each. -/
theorem Fresh.session_unique (h : Fresh es) (hs : (s, x) ∈ allotted es)
    (hs' : (s', x) ∈ allotted es) : s = s' := by
  obtain ⟨e, he, hx⟩ := List.mem_filterMap.1 hs
  obtain ⟨e', he', hx'⟩ := List.mem_filterMap.1 hs'
  have ha := Effect.allocated?_of_allotted? hx
  have ha' := Effect.allocated?_of_allotted? hx'
  -- around the effect that returned the handle no other one did
  obtain ⟨before, after, rfl⟩ := List.append_of_mem he
  unfold Fresh allocated at h
  rw [List.filterMap_append, List.filterMap_cons_some ha] at h
  obtain ⟨-, hafter, hbefore⟩ := List.nodup_append.1 h
  have hsame : e' = e := by
    rcases List.mem_append.1 he' with he' | he'
    · exact absurd rfl (hbefore x (List.mem_filterMap.2 ⟨e', he', ha'⟩) x List.mem_cons_self)
    · rcases List.mem_cons.1 he' with rfl | he'
      · rfl
      · exact absurd (List.mem_filterMap.2 ⟨e', he', ha'⟩) (List.nodup_cons.1 hafter).1
  rw [hsame, hx] at hx'
  cases hx'
  rfl

end

/-! ## What is held, and the history

`Kept` is the invariant of the induction over effects.  The clauses on the connection and the group do
not say that they are live, which is what is wanted, but that they belong to the session that is held.
That is preserved without knowing what else was released; that they are live follows where the handles
are fresh. -/

/-- What is held at some moment, and what was done up to then. -/
structure Kept (es : List Effect) (h : Custody) : Prop extends Proper es where
  unopened : h.opened = false → es.countP Effect.asksSession = 0
  session : ∀ s, h.session = some s → .session s ∈ allocated es ∧ .session s ∉ CallMedia.released es
  connection : ∀ k, h.connection = some k →
    ∃ s, h.session = some s ∧ (s, .connection k) ∈ allotted es
  group : ∀ g, h.group = some g →
    .group g ∉ CallMedia.released es ∧ ∃ s, h.session = some s ∧ (s, .group g) ∈ allotted es
  found : ∀ g, .group g ∈ allocated es → h.group = some g ∨ Gone es (.group g)

namespace Kept

variable {es es' : List Effect} {e : Effect} {x : Handle} {h h' : Custody}

/-- What is held is live. -/
theorem live (hk : Kept es h) (hf : Fresh es) (hx : h.Holds x) : Live es x := by
  -- what belongs to the session that is held is not gone with another one
  have hwithin : ∀ {s y}, h.session = some s → (s, y) ∈ allotted es → y ∉ CallMedia.released es →
      Live es y := by
    intro s y hs hy hr
    refine ⟨mem_allocated_of_allotted hy, ?_⟩
    rintro (hg | ⟨s', hs', hg⟩)
    · exact hr hg
    · rw [hf.session_unique hs' hy] at hg
      exact (hk.session s hs).2 hg
  cases x with
  | session s =>
    obtain ⟨ha, hr⟩ := hk.session s hx
    refine ⟨ha, ?_⟩
    rintro (hg | ⟨s', hs', -⟩)
    · exact hr hg
    · exact not_allotted_session s' s es hs'
  | connection k =>
    obtain ⟨s, hs, hb⟩ := hk.connection k hx
    exact hwithin hs hb (not_released_connection k es)
  | group g =>
    obtain ⟨hr, s, hs, hb⟩ := hk.group g hx
    exact hwithin hs hb hr

/-- What was released had been returned. -/
theorem allocated_of_released (hk : Kept es h) (hx : x ∈ CallMedia.released es) :
    x ∈ allocated es := by
  obtain ⟨e, he, hr⟩ := List.mem_filterMap.1 hx
  obtain ⟨before, after, hes⟩ := List.append_of_mem he
  have hlive := hk.named before e after hes x (Effect.mem_names_of_released? hr)
  rw [hes]
  unfold allocated
  rw [List.filterMap_append]
  exact List.mem_append_left _ hlive.1

/-- A handle that is fresh has not been released. -/
theorem not_released_of_fresh (hk : Kept es h) (hf : Fresh (es ++ [e]))
    (hx : e.allocated? = some x) : x ∉ CallMedia.released es := by
  intro hr
  have ha := hk.allocated_of_released hr
  unfold Fresh at hf
  rw [allocated_concat, hx] at hf
  exact (List.nodup_append.1 hf).2.2 x ha x (List.mem_singleton_self x) rfl

/-! ### One effect more -/

/-- What complies with what is held names nothing that is gone, and releases nothing twice. -/
theorem proper_concat (hk : Kept es h) (hf : Fresh (es ++ [e])) (ha : h.Admits e) :
    Proper (es ++ [e]) where
  named before e' after heq x hx := by
    rcases Run.concat_cases heq with ⟨rfl, rfl, -⟩ | ⟨after', -, heq'⟩
    · exact hk.live hf.left (ha.holds x hx)
    · exact hk.named before e' after' heq' x hx
  asked := by
    rw [List.countP_append, List.countP_singleton]
    split
    · next hasks =>
      have hopened : h.opened = false := by rw [ha.first hasks]
      have hnone := hk.unopened hopened
      omega
    · exact hk.asked
  released := by
    rw [released_concat]
    cases hr : e.released? with
    | none =>
      rw [Option.toList_none, List.append_nil]
      exact hk.released
    | some x =>
      have hlive := hk.live hf.left (ha.holds x (Effect.mem_names_of_released? hr))
      refine List.nodup_append.2 ⟨hk.released, List.nodup_cons.2 ⟨List.not_mem_nil, .nil⟩, ?_⟩
      rintro y hy z hz rfl
      rw [Option.toList_some, List.mem_singleton] at hz
      exact hlive.2 (.inl (hz ▸ hy))

/-- Nobody asks for a session but by asking for one. -/
theorem unopened_concat (hk : Kept es h) (he : e.asksSession = false) (ho : h.opened = false) :
    (es ++ [e]).countP Effect.asksSession = 0 := by
  rw [List.countP_append, List.countP_singleton, he, hk.unopened ho]
  rfl

/-- The connection that is held belongs to the session as before. -/
theorem connection_concat (hk : Kept es h) {k : ConnectionHandle} (hc : h.connection = some k) :
    ∃ s, h.session = some s ∧ (s, .connection k) ∈ allotted (es ++ [e]) := by
  obtain ⟨s, hs, hb⟩ := hk.connection k hc
  exact ⟨s, hs, mem_allotted_concat.2 (.inl hb)⟩

/-- An effect that uses what is held changes nothing. -/
theorem uses (hk : Kept es h) (hf : Fresh (es ++ [e])) (hu : h.Uses e) : Kept (es ++ [e]) h := by
  have hallotted : e.allotted? = none := by
    refine Option.eq_none_iff_forall_ne_some.2 fun x hx => ?_
    have hkept := hu.kept
    rw [Effect.allocated?_of_allotted? (s := x.1) (x := x.2) hx] at hkept
    cases hkept
  have hsame : allocated (es ++ [e]) = allocated es ∧ allotted (es ++ [e]) = allotted es ∧
      CallMedia.released (es ++ [e]) = CallMedia.released es := by
    rw [allocated_concat, allotted_concat, released_concat, hu.kept, hallotted, hu.unreleased]
    exact ⟨List.append_nil _, List.append_nil _, List.append_nil _⟩
  obtain ⟨hall, hallot, hrel⟩ := hsame
  exact
    { hk.proper_concat hf hu.admits with
      unopened := hk.unopened_concat hu.unasked
      session := by
        rw [hall, hrel]
        exact hk.session
      connection := by
        rw [hallot]
        exact hk.connection
      group := by
        rw [hallot, hrel]
        exact hk.group
      found := fun g hg => (hk.found g (hall ▸ hg)).imp_right fun hgone => hgone.concat e }

/-- The session that is held stays so while none is released. -/
theorem session_concat (hk : Kept es h) (hr : ∀ s, e.released? ≠ some (.session s))
    {s : SessionHandle} (hs : h.session = some s) :
    .session s ∈ allocated (es ++ [e]) ∧ .session s ∉ CallMedia.released (es ++ [e]) := by
  obtain ⟨ha, hn⟩ := hk.session s hs
  exact ⟨mem_allocated_concat.2 (.inl ha), fun hx => (mem_released_concat.1 hx).elim hn (hr s)⟩

/-- A session is asked for before anything is held. -/
theorem session_asked {answer : Except Fault String} (hk : Kept es h)
    (hf : Fresh (es ++ [.created .session answer])) (ha : h.Admits (.created .session answer)) :
    Kept (es ++ [.created .session answer]) (h.after (.created .session answer)) := by
  have hproper := hk.proper_concat hf ha
  -- a session is asked for with empty hands only, so it is the first one
  have hempty : h = {} := ha.first rfl
  have hfound : ∀ g, .group g ∈ allocated (es ++ [.created .session answer]) →
      Gone (es ++ [.created .session answer]) (.group g) := by
    intro g hg
    rcases mem_allocated_concat.1 hg with hg | hg
    · rcases hk.found g hg with hheld | hgone
      · rw [hempty] at hheld
        cases hheld
      · exact hgone.concat _
    · cases answer <;> cases hg
  subst hempty
  cases answer with
  | error fault =>
    exact
      { hproper with
        unopened := nofun, session := nofun, connection := nofun, group := nofun
        found := fun g hg => .inr (hfound g hg) }
  | ok name =>
    have hnew := hk.not_released_of_fresh hf (x := .session ⟨name⟩) rfl
    refine
      { hproper with
        unopened := nofun, session := fun s hs => ?_, connection := nofun, group := nofun
        found := fun g hg => .inr (hfound g hg) }
    cases hs
    exact ⟨mem_allocated_concat.2 (.inr rfl),
      fun hr => (mem_released_concat.1 hr).elim hnew nofun⟩

/-- A connection is created in the session that is held. -/
theorem connection_created {s : SessionHandle} {mode : ConnectionMode} {name : String}
    (hk : Kept es h) (hf : Fresh (es ++ [.created (.connection s mode) (.ok name)]))
    (ha : h.Admits (.created (.connection s mode) (.ok name))) :
    Kept (es ++ [.created (.connection s mode) (.ok name)])
      (h.after (.created (.connection s mode) (.ok name))) := by
  have hs : h.session = some s := ha.holds (.session s) List.mem_cons_self
  refine
    { hk.proper_concat hf ha with
      unopened := hk.unopened_concat rfl
      session := fun s' => hk.session_concat (by nofun)
      connection := fun k hk' => ?_
      group := fun g hg => ?_
      found := fun g hg => ?_ }
  · cases hk'
    exact ⟨s, hs, mem_allotted_concat.2 (.inr rfl)⟩
  · obtain ⟨hr, s', hs', hb⟩ := hk.group g hg
    exact ⟨fun hx => (mem_released_concat.1 hx).elim hr nofun, s', hs',
      mem_allotted_concat.2 (.inl hb)⟩
  · exact (hk.found g ((mem_allocated_concat.1 hg).elim id nofun)).imp_right (·.concat _)

/-- A group is created in the session that is held, while there is none. -/
theorem group_created {s : SessionHandle} {name : String} (hk : Kept es h)
    (hf : Fresh (es ++ [.created (.group s) (.ok name)]))
    (ha : h.Admits (.created (.group s) (.ok name))) :
    Kept (es ++ [.created (.group s) (.ok name)]) (h.after (.created (.group s) (.ok name))) := by
  have hs : h.session = some s := ha.holds (.session s) List.mem_cons_self
  -- there was no group before; every earlier one is gone
  have hnone : h.group = none := ha.single ⟨name⟩ rfl
  have hnew := hk.not_released_of_fresh hf (x := .group ⟨name⟩) rfl
  refine
    { hk.proper_concat hf ha with
      unopened := hk.unopened_concat rfl
      session := fun s' => hk.session_concat (by nofun)
      connection := fun k => hk.connection_concat
      group := fun g hg => ?_
      found := fun g hg => ?_ }
  · cases hg
    exact ⟨fun hx => (mem_released_concat.1 hx).elim hnew nofun, s, hs,
      mem_allotted_concat.2 (.inr rfl)⟩
  · rcases mem_allocated_concat.1 hg with hg | hg
    · rcases hk.found g hg with hheld | hgone
      · rw [hnone] at hheld
        cases hheld
      · exact .inr (hgone.concat _)
    · cases hg
      exact .inl rfl

/-- The group that is held is released. -/
theorem group_released {g : GroupHandle} {answer : Except Fault Unit} (hk : Kept es h)
    (hf : Fresh (es ++ [.performed (.releaseGroup g) answer]))
    (ha : h.Admits (.performed (.releaseGroup g) answer)) :
    Kept (es ++ [.performed (.releaseGroup g) answer])
      (h.after (.performed (.releaseGroup g) answer)) := by
  have hg : h.group = some g := ha.holds (.group g) List.mem_cons_self
  refine
    { hk.proper_concat hf ha with
      unopened := hk.unopened_concat rfl
      session := fun s => hk.session_concat (by nofun)
      connection := fun k => hk.connection_concat
      group := nofun
      found := fun g' hg' => .inr ?_ }
  rcases hk.found g' ((mem_allocated_concat.1 hg').elim id nofun) with hheld | hgone
  · rw [hg] at hheld
    cases hheld
    exact .inl (mem_released_concat.2 (.inr rfl))
  · exact hgone.concat _

/-- The session that is held is released, and the group with it. -/
theorem session_released {s : SessionHandle} {answer : Except Fault Unit} (hk : Kept es h)
    (hf : Fresh (es ++ [.performed (.releaseSession s) answer]))
    (ha : h.Admits (.performed (.releaseSession s) answer)) :
    Kept (es ++ [.performed (.releaseSession s) answer])
      (h.after (.performed (.releaseSession s) answer)) := by
  have hs : h.session = some s := ha.holds (.session s) List.mem_cons_self
  refine
    { hk.proper_concat hf ha with
      unopened := hk.unopened_concat rfl
      session := nofun, connection := nofun, group := nofun
      found := fun g hg => .inr ?_ }
  rcases hk.found g ((mem_allocated_concat.1 hg).elim id nofun) with hheld | hgone
  · -- the group that was held is gone with the session that it belongs to
    obtain ⟨-, s', hs', hb⟩ := hk.group g hheld
    rw [hs] at hs'
    cases hs'
    exact .inr ⟨s, mem_allotted_concat.2 (.inl hb), mem_released_concat.2 (.inr rfl)⟩
  · exact hgone.concat _

/-- Whatever complies with what is held keeps the history of it: one case for each kind of effect. -/
theorem step (hk : Kept es h) (hf : Fresh (es ++ [e])) (ha : h.Admits e) :
    Kept (es ++ [e]) (h.after e) := by
  -- five kinds of effect change what is held; all the others use it
  have huse : e.asksSession = false → e.allocated? = none → e.released? = none →
      Kept (es ++ [e]) (h.after e) := by
    intro hasks hall hrel
    have hu : h.Uses e := ⟨ha.holds, hasks, hall, hrel⟩
    rw [hu.after]
    exact hk.uses hf hu
  cases e with
  | created what answer =>
    cases what with
    | session => exact hk.session_asked hf ha
    | connection s mode =>
      cases answer with
      | ok name => exact hk.connection_created hf ha
      | error fault => exact huse rfl rfl rfl
    | group s =>
      cases answer with
      | ok name => exact hk.group_created hf ha
      | error fault => exact huse rfl rfl rfl
  | performed what answer =>
    cases what with
    | releaseGroup g => exact hk.group_released hf ha
    | releaseSession s => exact hk.session_released hf ha
    | _ => exact huse rfl rfl rfl
  | _ => exact huse rfl rfl rfl

/-- Many effects, one after the other, keep the invariant. -/
theorem through (hk : Kept es h) (hf : Fresh (es ++ es')) (ht : h.Through es' h') :
    Kept (es ++ es') h' := by
  -- by induction on the effects to come; the history and what is held grow with each
  induction es' generalizing es h with
  | nil =>
    cases ht
    rw [List.append_nil]
    exact hk
  | cons e es' ih =>
    rw [List.append_cons es e es'] at hf ⊢
    exact ih (hk.step hf.left ht.1) hf ht.2

theorem nil : Kept [] {} where
  named before e after heq := absurd heq.symm (List.append_ne_nil_of_right_ne_nil _ (by simp))
  asked := Nat.zero_le 1
  released := .nil
  unopened _ := rfl
  session := nofun
  connection := nofun
  group := nofun
  found := nofun

/-- What is kept is orderly: a group that is live is the one that is held. -/
theorem orderly (hk : Kept es h) : Orderly es h.group where
  toProper := hk.toProper
  found := hk.found
  single g g' hg hg' := by
    have hheld : ∀ g, Live es (.group g) → h.group = some g :=
      fun g hg => (hk.found g hg.1).resolve_right hg.2
    exact Option.some.inj ((hheld g hg).symm.trans (hheld g' hg'))

end Kept

/-! ## Runs

A run shows what its turns show, and each turn takes the custody one stretch further. -/

namespace Run

variable {σ : Type} {site : Site σ} {ts : List (Turn σ)} {c : Controller σ}
  {queued : List Completion}

/-- The history of a run takes nothing at all to what is held now. -/
theorem through (h : Run site ts c queued) :
    ({} : Custody).Through (history site ts) (c.desk.leg.custody c.phase) := by
  -- by induction on the run, turn by turn
  refine h.invariant (P := fun ts p l => ({} : Custody).Through (history site ts) (l.custody p)) rfl ?_
  intro ts t queued hbefore ih
  obtain ⟨hturned, -, -⟩ := Turn.turned (t := t) site hbefore.sound
  rw [history_concat]
  exact ih.append (hturned.custody hbefore.sound)

end Run

namespace Sample

def destroy : Item := .message call .destroyGroup

/-- A call with a group that is destroyed before the session is closed. -/
def closing : List (Turn Unit) :=
  [⟨fresh, create⟩, ⟨offered, .completion offer⟩, ⟨active, group⟩, ⟨grouped, destroy⟩,
    ⟨handled grouped destroy, close⟩]

end Sample

section

variable {σ : Type} {site : Site σ} {ts : List (Turn σ)} {c : Controller σ}
  {queued : List Completion}

/-- As long as the media server returns fresh handles, a controller names to it only what it returned
    earlier and what is not released, neither on its own nor with its session; it asks for a session
    once at most and releases nothing twice; and every group ever created is the one that is held, or is
    released, or its session is. -/
theorem handles_orderly (h : Run site ts c queued) (hfresh : Fresh (history site ts)) :
    Orderly (history site ts) c.desk.leg.group := by
  have hkept : Kept ([] ++ history site ts) (c.desk.leg.custody c.phase) :=
    Kept.nil.through hfresh h.through
  exact hkept.orderly

/-- A group is created and destroyed, and the session closed: each is released once. -/
theorem handles_orderly_closed :
    ∃ c, Run Sample.site Sample.closing c [] ∧ Fresh (history Sample.site Sample.closing) ∧
      released (history Sample.site Sample.closing) = [.group ⟨"1"⟩, .session ⟨"1"⟩] ∧
      Orderly (history Sample.site Sample.closing) c.desk.leg.group := by
  have hdestroyed : Run Sample.site _ (Sample.handled Sample.grouped Sample.destroy) [] :=
    .turn _ Sample.grouped [] Sample.destroy Sample.run_grouped nofun
  have hclosed : Run Sample.site Sample.closing _ [] := .turn _ _ [] Sample.close hdestroyed nofun
  have hallocated : allocated (history Sample.site Sample.closing) =
      [.session ⟨"1"⟩, .connection ⟨"1"⟩, .group ⟨"1"⟩] := rfl
  have hfresh : Fresh (history Sample.site Sample.closing) := by
    unfold Fresh
    rw [hallocated]
    decide
  exact ⟨_, hclosed, hfresh, rfl, handles_orderly hclosed hfresh⟩

end

end CallMedia
