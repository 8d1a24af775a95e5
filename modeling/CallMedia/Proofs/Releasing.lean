/-
  Whether a session can still be released.

  As long as the session has not failed, one request to close it has it released.  A negotiation that
  fails is the end of it: nothing leads out of `failed`, and a request to close is out of place there,
  so the session stays with the media server whatever the controller is sent, and whatever the media
  server still reports (`Run.unreleased_once_failed`).
-/
import CallMedia.Proofs.Handles

namespace CallMedia

namespace Controller

variable {σ : Type} (site : Site σ)

/-- Handling items one after the other. -/
def turns : Controller σ → List Item → List (Turn σ)
  | _, [] => []
  | c, item :: items =>
    ⟨c, item⟩ :: turns ((c.handle site item).atDesk fun d => { d with posted := [] }) items

/-- Whether some messages, one after the other, have a session released. -/
def CanRelease (c : Controller σ) (s : SessionHandle) : Prop :=
  ∃ messages : List (Recipient × Message),
    ∃ t ∈ c.turns site (messages.map fun m => .message m.1 m.2),
      ∃ answer, .performed (.releaseSession s) answer ∈ t.effects site

end Controller

section

variable {σ : Type} {site : Site σ} {w : Surroundings} {p p' : Phase} {l l' : Leg} {item : Item}
  {es : List Effect}

/-- A session that is held is released when it is closed. -/
theorem Turned.closes (h : Turned site w p l item p' l' es) (hc : Closes p item) {s : SessionHandle}
    (hs : l.session = some s) : ∃ answer, .performed (.releaseSession s) answer ∈ es := by
  obtain ⟨-, -, es₁, hr, rfl⟩ := h.of_closes hc
  -- the handle is held, so closing the session is to ask for its release
  cases hr with
  | nothing hs' => rw [hs] at hs'; cases hs'
  | released s' answer hs' =>
    rw [hs] at hs'
    cases hs'
    exact ⟨answer, List.mem_cons_self⟩

/-- A session that has failed stays so, and is not released. -/
theorem Turned.failed (h : Turned site w .failed l item p' l' es) :
    p' = .failed ∧ ∀ s answer, .performed (.releaseSession s) answer ∉ es := by
  constructor
  · -- each turn that changes the phase starts from another one
    cases h with
    | opened sender outbound mode sdp l' es hp ho => cases hp
    | closed sender es hp hr => rcases hp with hp | hp | hp <;> cases hp
    | updated sender sdp k l' es hp hk hn => cases hp
    | agreed g o localSdp hp awaited ho => rcases hp with hp | hp <;> cases hp
    | _ => rfl
  · intro s answer hm
    obtain ⟨⟨hp, -⟩, -⟩ := h.releases hm
    rcases hp with hp | hp | hp <;> cases hp

end

/-! ## Runs

Messages that are handled one after the other are the rest of a run, so whatever holds onwards from a
turn of every run holds of them. -/

namespace Run

variable {σ : Type} {site : Site σ} {ts : List (Turn σ)} {c : Controller σ}
  {queued : List Completion}

/-- Handling messages one after the other continues a run. -/
theorem turns (h : Run site ts c queued) (messages : List (Recipient × Message)) :
    ∃ c' queued', Run site (ts ++ c.turns site (messages.map fun m => .message m.1 m.2)) c' queued' := by
  -- by induction on the messages; every one extends the run by its turn
  induction messages generalizing ts c queued with
  | nil =>
    refine ⟨c, queued, ?_⟩
    show Run site (ts ++ []) c queued
    rw [List.append_nil]
    exact h
  | cons m messages ih =>
    obtain ⟨c', queued', h'⟩ := ih (.turn ts c queued (.message m.1 m.2) h nofun)
    refine ⟨c', queued', ?_⟩
    show Run site (ts ++ ⟨c, .message m.1 m.2⟩ :: _) c' queued'
    rw [List.append_cons]
    exact h'

/-- Once a session has failed, nothing is released any more, in whatever way the run goes on. -/
theorem unreleased_once_failed {pre post : List (Turn σ)} {t : Turn σ}
    (h : Run site (pre ++ t :: post) c queued) (hp : t.before.phase = .failed) :
    ∀ u ∈ t :: post, ∀ s answer, .performed (.releaseSession s) answer ∉ u.effects site := by
  -- one turn at a failed session: it stays failed, and nothing is released
  have hturn : ∀ {ts : List (Turn σ)} {u : Turn σ} {queued},
      Run site ts u.before queued → u.before.phase = .failed →
      (u.after site).phase = .failed ∧
        ∀ s answer, .performed (.releaseSession s) answer ∉ u.effects site := by
    intro ts u queued hbefore hu
    obtain ⟨hturned, -, -⟩ := Turn.turned (t := u) site hbefore.sound
    rw [hu] at hturned
    obtain ⟨hphase, hnone⟩ := hturned.failed
    exact ⟨hphase, fun s answer hm => hnone s answer ((u.mem_shown site).2 ⟨hm, rfl⟩)⟩
  -- through all turns from `t` on
  obtain ⟨queued', hbefore, -⟩ := h.before
  obtain ⟨hphase, hnone⟩ := hturn hbefore hp
  refine (h.onwards (P := fun post p _ => p = .failed ∧ ∀ u ∈ t :: post, ∀ s answer,
    .performed (.releaseSession s) answer ∉ u.effects site) ?_ ?_).2
  · exact ⟨hphase, List.forall_mem_singleton.2 hnone⟩
  · rintro post u queued hrun ⟨hu, hearlier⟩
    obtain ⟨hphase, hnone⟩ := hturn hrun hu
    exact ⟨hphase, List.forall_mem_append.2 ⟨hearlier, List.forall_mem_singleton.2 hnone⟩⟩

/-- No messages have a session released that has failed. -/
theorem not_canRelease (h : Run site ts c queued) (hp : c.phase = .failed) (s : SessionHandle) :
    ¬ c.CanRelease site s := by
  rintro ⟨messages, t, ht, answer, hm⟩
  obtain ⟨c', queued', h'⟩ := h.turns messages
  cases messages with
  | nil => cases ht
  | cons m messages => exact h'.unreleased_once_failed hp t ht s answer hm

end Run

section

variable {σ : Type} {site : Site σ} {c : Controller σ} {s : SessionHandle}

/-- Where a session is held and has not failed, a request to close it has it released, whoever sends it. -/
theorem released_by_close (h : Reachable site c) (hs : c.desk.leg.session = some s)
    (hp : c.phase ≠ .failed) (sender : Recipient) :
    ∃ answer, .performed (.releaseSession s) answer ∈
      Turn.effects site ⟨c, .message sender .closeSession⟩ := by
  obtain ⟨ts, queued, hrun⟩ := h
  -- the session can be closed, since it is neither to come nor over
  have hne := hrun.sound.ne_of_session (by rw [hs]; exact Option.some_ne_none s)
  have hopen : c.phase = .opening ∨ c.phase = .active ∨ c.phase = .updating := by
    generalize c.phase = p at hp hne ⊢
    cases p with
    | uninitialized => exact absurd rfl hne.1
    | opening => exact .inl rfl
    | active => exact .inr (.inl rfl)
    | updating => exact .inr (.inr rfl)
    | inactive => exact absurd rfl hne.2
    | failed => exact absurd rfl hp
  obtain ⟨hturned, -, -⟩ :=
    Turn.turned (t := ⟨c, .message sender .closeSession⟩) site hrun.sound
  obtain ⟨answer, hm⟩ := hturned.closes ⟨hopen, sender, rfl⟩ hs
  exact ⟨answer, ((Turn.mem_shown site _).1 hm).1⟩

/-- Where a session is held, messages can have it released unless it has failed, and one request to close
    it is enough; and once it has failed, nothing that is handled later releases it, neither message nor
    completion. -/
theorem releasable_unless_failed (h : Reachable site c) (hs : c.desk.leg.session = some s) :
    (c.CanRelease site s ↔ c.phase ≠ .failed) ∧
    (c.phase ≠ .failed → ∀ sender, ∃ answer, .performed (.releaseSession s) answer ∈
      Turn.effects site ⟨c, .message sender .closeSession⟩) ∧
    (c.phase = .failed → ∀ pre item post c' queued',
      Run site (pre ++ ⟨c, item⟩ :: post) c' queued' →
      ∀ t ∈ (⟨c, item⟩ :: post : List (Turn σ)), ∀ s' answer,
        .performed (.releaseSession s') answer ∉ t.effects site) := by
  have hclose := released_by_close h hs
  obtain ⟨ts, queued, hrun⟩ := h
  refine ⟨⟨fun hcan hp => hrun.not_canRelease hp s hcan, fun hp => ?_⟩, hclose, ?_⟩
  · -- whoever has made the session may close it, and so may anybody else
    obtain ⟨call, -⟩ := hrun.sound.call_of_ne
      (hrun.sound.ne_of_session (by rw [hs]; exact Option.some_ne_none s)).1
    obtain ⟨answer, hm⟩ := hclose hp call
    exact ⟨[(call, .closeSession)], _, List.mem_cons_self, answer, hm⟩
  · intro hp pre item post c' queued' hrun'
    exact hrun'.unreleased_once_failed hp

/-- With the offer made, messages can have the session released. -/
theorem releasable_active :
    Reachable Sample.site Sample.active ∧ Sample.active.desk.leg.session = some ⟨"1"⟩ ∧
      Sample.active.CanRelease Sample.site ⟨"1"⟩ := by
  have hreach : Reachable Sample.site Sample.active := ⟨_, _, Sample.run_active⟩
  exact ⟨hreach, rfl, (releasable_unless_failed hreach rfl).1.2 (by decide)⟩

end

namespace Sample

/-- The media server reports that there is no agreement. -/
def refusal : Completion := ⟨1, .negotiation (.failed "488 not acceptable here")⟩

def failed : Controller Unit := handled offered (.completion refusal)

/-- The offer was asked for, and its outcome is that there is no agreement. -/
theorem run_failed : Run site [⟨fresh, create⟩, ⟨offered, .completion refusal⟩] failed [] :=
  .turn _ offered [refusal] (.completion refusal)
    (.complete _ _ [] _ refusal.outcome _ (.turn [] fresh [] create (.start _ rfl rfl rfl) nofun)
      List.mem_cons_self rfl)
    (fun e he => by
      cases he
      exact List.mem_cons_self)

end Sample

/-- A session whose first negotiation failed is held, and no messages have it released. -/
theorem failed_unreleasable :
    Reachable Sample.site Sample.failed ∧ Sample.failed.phase = .failed ∧
      Sample.failed.desk.leg.session = some ⟨"1"⟩ ∧ ¬ Sample.failed.CanRelease Sample.site ⟨"1"⟩ :=
  ⟨⟨_, _, Sample.run_failed⟩, rfl, rfl, Sample.run_failed.not_canRelease rfl _⟩

end CallMedia
