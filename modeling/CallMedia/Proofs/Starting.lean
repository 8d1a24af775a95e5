/-
  What comes of starting an operation.

  An operation is started by arming its slot and asking the media server.  Three things can come of it
  (`Launched`): the inbox is gone and nothing is asked; the media server refuses, and a generation has
  passed that nobody awaits; or it accepts, and the new generation is awaited.

  An activity of the group is asked for by somebody, and five things can come of that (`Attempted`): the
  group is missing or busy; the group cannot be made ready; or one of the three above.  Playing,
  collecting digits and recording are one relation, each with its own operation: whoever follows what
  becomes of a slot has five cases, not fifteen.
-/
import CallMedia.Proofs.Effects

namespace CallMedia

/-! ## The leg on the way

Between asking for an activity and the answer of the media server the slot is disarmed, bound and armed
again.  The legs on the way have names here. -/

namespace Leg

/-- The sink that the next operation of a category is started with. -/
def nextSink (l : Leg) (c : Category) : Sink := ⟨c, (l.slot c).generation + 1⟩

/-- The leg once a generation of a category has begun, awaited or not. -/
def begun (l : Leg) (c : Category) (pending : Bool) : Leg :=
  l.setSlot c ⟨(l.slot c).generation + 1, pending, (l.slot c).replyTo⟩

/-- The leg with an outcome of an activity bound to whoever asked for it. -/
def askedBy (l : Leg) (a : Activity) (sender : Recipient) (generation : Nat) (pending : Bool) : Leg :=
  l.setSlot (.group a) ⟨generation, pending, some sender⟩

/-- The leg with an activity in flight. -/
def running (l : Leg) (a : Activity) (generation : Nat) : Leg :=
  { l with active := some ⟨a, generation⟩ }

variable (l : Leg) (a : Activity) (sender : Recipient) (g : Nat) (p q : Bool)

/-- The slot of what was asked for names who asked. -/
@[simp] theorem slot_askedBy : (l.askedBy a sender g p).slot (.group a) = ⟨g, p, some sender⟩ := by
  simp [askedBy]

/-- Disarming it undoes the arming and keeps the name. -/
@[simp] theorem disarm_askedBy :
    (l.askedBy a sender g p).setSlot (.group a) (Slot.disarm ⟨g, p, some sender⟩) =
      l.askedBy a sender g false := by
  simp [askedBy, Slot.disarm]

/-- A generation begins behind the last one, and the name stays. -/
@[simp] theorem begun_askedBy :
    (l.askedBy a sender g p).begun (.group a) q = l.askedBy a sender (g + 1) q := by
  simp [begun, askedBy]

/-- The sink that is handed out is that of the new generation. -/
@[simp] theorem nextSink_askedBy :
    (l.askedBy a sender g p).nextSink (.group a) = ⟨.group a, g + 1⟩ := by
  simp [nextSink, askedBy]

end Leg

/-- Making a group ready for an activity: digits that were buffered are discarded. -/
def prepared (a : Activity) (group : GroupHandle) : List Effect :=
  if a = .digitCollection then [.performed (.flushDigits group) (.ok ())] else []

/-- Nobody is told of preparations. -/
theorem noticesOf_prepared (a : Activity) (group : GroupHandle) :
    noticesOf (prepared a group) = [] := by
  unfold prepared
  split <;> rfl

/-! ## The two relations

An operation of any category is launched in one way (`Launched`).  An attempt at an activity prepares the
group, launches its operation, and reports a failure to the observers (`Attempted`). -/

/-- What comes of starting an operation of a category: the answer, the leg, and what was shown. -/
inductive Launched (w : Surroundings) (l : Leg) (c : Category) (what : Operation) :
    Except Fault Nat → Leg → List Effect → Prop
  | closed (hopen : w.inboxOpen = false) : Launched w l c what (.error .channelClosed) l []
  | refused (e : Fault) (fate : SinkFate) (hopen : w.inboxOpen = true) :
      Launched w l c what (.error e) (l.begun c false)
        [.started what (l.nextSink c) ⟨.error e, fate⟩]
  | accepted (fate : SinkFate) (hopen : w.inboxOpen = true) :
      Launched w l c what (.ok ((l.slot c).generation + 1)) (l.begun c true)
        [.started what (l.nextSink c) ⟨.ok (), fate⟩]

/-- What comes of asking for an activity: the generation if it was started, the leg, and what was
    shown.  The leg was `l` when the group was looked at, and `l₀` when the activity was begun. -/
inductive Attempted (w : Surroundings) (a : Activity) (what : GroupHandle → Operation)
    (sender : Recipient) (l l₀ : Leg) : Option Nat → Leg → List Effect → Prop
  | unfit (e : Fault) (idle : l.idleGroup a = .error e) :
      Attempted w a what sender l l₀ none l [w.telling sender (.operationResult a (.error e))]
  | unprepared (group : GroupHandle) (e : Fault) (idle : l.idleGroup a = .ok group)
      (digits : a = .digitCollection) :
      Attempted w a what sender l l₀ none
        (l₀.askedBy a sender (l₀.slot (.group a)).generation false)
        (.performed (.flushDigits group) (.error e) ::
          w.tellingAll l₀ (.operationResult a (.error e)))
  | closed (group : GroupHandle) (idle : l.idleGroup a = .ok group) (hopen : w.inboxOpen = false) :
      Attempted w a what sender l l₀ none
        (l₀.askedBy a sender (l₀.slot (.group a)).generation false)
        (prepared a group ++ w.tellingAll l₀ (.operationResult a (.error .channelClosed)))
  | refused (group : GroupHandle) (e : Fault) (fate : SinkFate) (idle : l.idleGroup a = .ok group)
      (hopen : w.inboxOpen = true) :
      Attempted w a what sender l l₀ none
        (l₀.askedBy a sender ((l₀.slot (.group a)).generation + 1) false)
        (prepared a group ++ .started (what group) (l₀.nextSink (.group a)) ⟨.error e, fate⟩ ::
          w.tellingAll l₀ (.operationResult a (.error e)))
  | accepted (group : GroupHandle) (fate : SinkFate) (idle : l.idleGroup a = .ok group)
      (hopen : w.inboxOpen = true) :
      Attempted w a what sender l l₀ (some ((l₀.slot (.group a)).generation + 1))
        ((l₀.askedBy a sender ((l₀.slot (.group a)).generation + 1) true).running a
          ((l₀.slot (.group a)).generation + 1))
        (prepared a group ++ [.started (what group) (l₀.nextSink (.group a)) ⟨.ok (), fate⟩])

namespace Desk

variable {σ : Type} (site : Site σ) (d : Desk σ)

/-! ## Starting an operation

Arming the slot fails where nobody could send any more; everything else is up to the media server. -/

/-- An operation is launched as `Launched` says. -/
theorem launched (what : Operation) :
    ∃ shown,
      Launched d.surroundings d.leg what.category what (d.launch site what).1
        (d.launch site what).2.leg shown ∧
      d.Goes shown (d.launch site what).2 := by
  unfold launch Slot.arm
  cases hopen : d.inboxOpen with
  | false => exact ⟨[], .closed hopen, .refl d⟩
  | true =>
    simp only [if_true]
    -- `d₁` is the desk with the slot armed, at which the media server is asked
    generalize hd₁ : d.setSlot what.category _ = d₁
    have hset : d.Goes [] d₁ := hd₁ ▸ d.goes_setSlot _ _
    have hleg : d₁.leg = d.leg.begun what.category true := by rw [← hd₁]; rfl
    obtain ⟨fate, hask⟩ := goes_startArmed site d₁ what (d.leg.nextSink what.category)
    have hkept : (d₁.startArmed site what (d.leg.nextSink what.category)).2.leg = d₁.leg := by
      unfold startArmed
      rw [leg_settleSink, leg_note]
    unfold Leg.nextSink at hask hkept
    revert hask hkept
    generalize d₁.startArmed site what _ = asked
    intro hask hkept
    obtain ⟨result, d₂⟩ := asked
    cases result with
    | error e =>
      refine ⟨_, ?_, (hset.trans hask).trans (d₂.goes_setSlot _ _)⟩
      have hlast : (d₂.disarm what.category).leg = d.leg.begun what.category false := by
        show d₂.leg.setSlot _ (d₂.leg.slot _).disarm = _
        rw [hkept, hleg]
        simp [Leg.begun, Slot.disarm]
      simp only [hlast, List.nil_append, List.append_nil]
      exact .refused e fate hopen
    | ok u =>
      refine ⟨_, ?_, hset.trans hask⟩
      rw [hkept, hleg]
      exact .accepted fate hopen

/-! ## Starting an activity

Before an activity is started the group is asked whether it is there and idle. -/

variable {a : Activity} {sender : Recipient} {what : GroupHandle → Operation} {group : GroupHandle}
  {l₀ : Leg}

/-- An activity that could not be started is awaited no more, and the observers hear why. -/
theorem started_error (e : Fault) : ∀ d₁ : Desk σ,
    (started a (.error e, d₁)).1 = none ∧
    (started a (.error e, d₁)).2.leg =
      d₁.leg.setSlot (.group a) (d₁.leg.slot (.group a)).disarm ∧
    d₁.Goes (d₁.surroundings.tellingAll d₁.leg (.operationResult a (.error e)))
      (started a (.error e, d₁)).2 := by
  intro d₁
  have hline : Line.Ordinary ⟨.error, s!"{failureHeadline a}: {e.message}", []⟩ :=
    Line.ordinary_error (by cases a <;> simp [failureHeadline, toString])
  refine ⟨rfl, ?_, ?_⟩
  · exact leg_broadcast _ _
  · exact ((d₁.goes_log hline).trans (goes_setSlot _ (.group a)
      (d₁.leg.slot (.group a)).disarm)).broadcast (.operationResult a (.error e))

/-- A group that is missing or busy is reported to the sender alone. -/
theorem refuse_attempted {e : Fault} (hidle : d.leg.idleGroup a = .error e) :
    ∃ shown,
      Attempted d.surroundings a what sender d.leg l₀ none (d.refuse sender a e).leg shown ∧
      d.Goes shown (d.refuse sender a e) := by
  refine ⟨_, ?_, d.goes_tell sender (.operationResult a (.error e))⟩
  rw [refuse, leg_tell]
  exact .unfit e hidle

/-- The second half of every attempt: the group is idle and ready, the outcome is bound to the sender,
    and the operation is launched. -/
theorem started_attempted {d d₁ : Desk σ} (what : GroupHandle → Operation) (l₀ : Leg)
    (hidle : d.leg.idleGroup a = .ok group)
    (hcat : (what group).category = .group a) (hgo : d.Goes (prepared a group) d₁)
    (hleg : d₁.leg = l₀.askedBy a sender (l₀.slot (.group a)).generation
      (l₀.slot (.group a)).pending) :
    ∃ shown,
      Attempted d.surroundings a what sender d.leg l₀ (started a (d₁.launch site (what group))).1
        (started a (d₁.launch site (what group))).2.leg shown ∧
      d.Goes shown (started a (d₁.launch site (what group))).2 := by
  have hw : d₁.surroundings = d.surroundings := by
    refine hgo.surroundings ?_
    unfold prepared
    split <;> rfl
  obtain ⟨shown, hl, hgo'⟩ := d₁.launched site (what group)
  rw [hw, hcat] at hl
  revert hl hgo'
  generalize d₁.launch site (what group) = launched
  obtain ⟨result, d₂⟩ := launched
  intro hl hgo'
  have hall := hgo.trans hgo'
  generalize hl₂ : d₂.leg = l₂ at hl
  rw [hleg] at hl
  cases hl with
  | closed hopen =>
    obtain ⟨hnone, hleg', htell⟩ := started_error (a := a) .channelClosed d₂
    refine ⟨_, ?_, hall.trans htell⟩
    rw [hnone, hleg', hl₂, hall.tellingAll, List.append_nil, Leg.slot_askedBy, Leg.disarm_askedBy]
    exact .closed group hidle hopen
  | refused e fate hopen =>
    obtain ⟨hnone, hleg', htell⟩ := started_error (a := a) e d₂
    refine ⟨_, ?_, hall.trans htell⟩
    rw [hnone, hleg', hl₂, hall.tellingAll, List.append_assoc, Leg.begun_askedBy,
      Leg.slot_askedBy, Leg.disarm_askedBy, Leg.nextSink_askedBy]
    exact .refused group e fate hidle hopen
  | accepted fate hopen =>
    refine ⟨_, ?_, hall.trans (goes_leg _ _)⟩
    have hleg' : d₂.leg.running a ((l₀.slot (.group a)).generation + 1) =
        (l₀.askedBy a sender ((l₀.slot (.group a)).generation + 1) true).running a
          ((l₀.slot (.group a)).generation + 1) := by
      rw [hl₂, Leg.begun_askedBy]
    rw [List.append_nil, Leg.nextSink_askedBy, Leg.slot_askedBy]
    show Attempted _ _ _ _ _ _ _ (d₂.leg.running a _) _
    rw [hleg']
    exact .accepted group fate hidle hopen

/-! ## The three activities

Each of them is an attempt, with an operation of its own. -/

variable (sender)

/-- Playing is attempted as any activity is, with nothing to remember besides. -/
theorem play_attempted (order : PlayOrder) :
    ∃ r shown,
      Attempted d.surroundings .playback (fun group => .play group order.request) sender d.leg d.leg r
        (d.play site sender order).leg shown ∧
      d.Goes shown (d.play site sender order) := by
  unfold play
  cases hidle : d.leg.idleGroup .playback with
  | error e => exact ⟨none, d.refuse_attempted hidle⟩
  | ok group =>
    exact ⟨_, started_attempted site (fun group => .play group order.request) d.leg hidle rfl
      (d.goes_setSlot (.group .playback) _) rfl⟩

/-- Collecting digits is an attempt too; the server is asked to forget earlier ones first. -/
theorem collect_attempted (order : CollectOrder) :
    ∃ r shown,
      Attempted d.surroundings .digitCollection (fun group => .collect group order.request) sender
        d.leg d.leg r (d.collect site sender order).leg shown ∧
      d.Goes shown (d.collect site sender order) := by
  unfold collect
  cases hidle : d.leg.idleGroup .digitCollection with
  | error e => exact ⟨none, d.refuse_attempted hidle⟩
  | ok group =>
    rcases hp : (d.bind (.group .digitCollection) sender).perform site (.flushDigits group) with
      ⟨result, d₁⟩
    obtain ⟨hflush, hleg⟩ := goes_perform site hp
    replace hflush := (d.goes_setSlot _ _).trans hflush
    simp only [hp]
    cases result with
    | error e =>
      obtain ⟨hnone, hleg', htell⟩ := started_error (a := .digitCollection) e d₁
      refine ⟨none, _, ?_, hflush.trans htell⟩
      have hleg₁ : d₁.leg = d.leg.askedBy .digitCollection sender _ _ := hleg
      rw [hleg', hleg₁, hflush.tellingAll, Leg.slot_askedBy, Leg.disarm_askedBy]
      exact .unprepared group e hidle rfl
    | ok u =>
      exact ⟨_, started_attempted site (fun group => .collect group order.request) d.leg hidle rfl
        hflush hleg⟩

/-- Recording is an attempt too, and the key that ends the recording is remembered. -/
theorem record_attempted (order : RecordOrder) :
    ∃ shown,
      Attempted d.surroundings .recording
        (fun group => .record group (order.request site.settings.recordInterSignalTimeoutMs)) sender
        d.leg { d.leg with endKey := order.endInputKey.getD "" } (d.record site sender order).1
        (d.record site sender order).2.leg shown ∧
      d.Goes shown (d.record site sender order).2 := by
  unfold record
  cases hidle : d.leg.idleGroup .recording with
  | error e => exact d.refuse_attempted hidle
  | ok group =>
    exact started_attempted site
      (fun group => .record group (order.request site.settings.recordInterSignalTimeoutMs))
      { d.leg with endKey := order.endInputKey.getD "" } hidle rfl (d.goes_leg _) rfl

end Desk

end CallMedia
