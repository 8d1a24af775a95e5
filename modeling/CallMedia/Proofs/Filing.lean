/-
  What comes of recording the whole call, and of stopping.

  A stop asks for at most one stop of the media server (`ActiveStopped`), and then settles the call
  recording that the stopped recorder wrote, if it wrote one: the recording is dropped, or its metadata
  goes to the store (`Stopped`).  The store may refuse; the owning call hears of it, and the recording is
  settled all the same.

  A call recording is started as any recording is (`Attempted`), with account and store remembered
  before anything else is looked at.
-/
import CallMedia.Proofs.Grouping
import CallMedia.Proofs.Starting

namespace CallMedia

/-- What comes of stopping what the group does, with or without an artifact. -/
inductive Stopped (reader : Recording.Reader) (apiVersion : String) (w : Surroundings)
    (artifact : Bool) (l : Leg) : Leg → List Effect → Prop
  /-- What was stopped, if anything, is no recording. -/
  | other (was : Option Active) (es : List Effect) (hs : ActiveStopped l (.ok was) es)
      (hw : ∀ g, was ≠ some ⟨.recording, g⟩) :
      Stopped reader apiVersion w artifact l { l with active := none } es
  /-- The media server refuses to stop; the call is told, and nothing is settled. -/
  | failed (e : Fault) (es : List Effect) (hs : ActiveStopped l (.error e) es) :
      Stopped reader apiVersion w artifact l { l with active := none }
        (es ++ w.tellingCall l (.failure e))
  /-- A recording was stopped, but not that of a call. -/
  | plain (g : Nat) (es : List Effect) (hs : ActiveStopped l (.ok (some ⟨.recording, g⟩)) es)
      (hr : ∀ r, l.recording = some r → r.generation ≠ g) :
      Stopped reader apiVersion w artifact l { l with active := none } es
  /-- The call recording is dropped: no artifact is asked for, or nobody knows where to file it. -/
  | dropped (g : Nat) (r : CallRecording) (es : List Effect)
      (hs : ActiveStopped l (.ok (some ⟨.recording, g⟩)) es) (hr : l.recording = some r)
      (hg : r.generation = g) (hd : artifact = false ∨ l.accountId = none ∨ l.store = none) :
      Stopped reader apiVersion w artifact l { l with active := none, recording := none } es
  /-- The call recording is filed, and the store takes it. -/
  | filed (g : Nat) (r : CallRecording) (accountId store : String) (m : Recording.Metadata)
      (es : List Effect) (hs : ActiveStopped l (.ok (some ⟨.recording, g⟩)) es)
      (hr : l.recording = some r) (hg : r.generation = g) (ha : artifact = true)
      (haccount : l.accountId = some accountId) (hstore : l.store = some store)
      (hm : r.finalize w.files accountId apiVersion w.clock reader = .ok m) :
      Stopped reader apiVersion w artifact l { l with active := none, recording := none }
        (es ++ [.stored store m (.ok ())])
  /-- The store refuses it; the call is told, and the recording is settled nevertheless. -/
  | unfiled (g : Nat) (r : CallRecording) (accountId store : String) (m : Recording.Metadata)
      (e : Fault) (es : List Effect) (hs : ActiveStopped l (.ok (some ⟨.recording, g⟩)) es)
      (hr : l.recording = some r) (hg : r.generation = g) (ha : artifact = true)
      (haccount : l.accountId = some accountId) (hstore : l.store = some store)
      (hm : r.finalize w.files accountId apiVersion w.clock reader = .ok m) :
      Stopped reader apiVersion w artifact l { l with active := none, recording := none }
        (es ++ .stored store m (.error e) :: w.tellingCall l (.failure e))

/-- A call recording is taken out if it is the one that the generation writes. -/
theorem Leg.takeRecording_cases (l : Leg) (g : Nat) :
    (∃ r, l.recording = some r ∧ r.generation = g ∧
      l.takeRecording g = (some r, { l with recording := none })) ∨
    ((∀ r, l.recording = some r → r.generation ≠ g) ∧ l.takeRecording g = (none, l)) := by
  unfold takeRecording
  cases hr : l.recording with
  | none => exact .inr ⟨(fun r h => nomatch h), rfl⟩
  | some r =>
    by_cases hg : r.generation = g
    · exact .inl ⟨r, rfl, hg, if_pos hg⟩
    · refine .inr ⟨fun r' h => ?_, if_neg hg⟩
      cases h
      exact hg

namespace Desk

variable {σ : Type} (site : Site σ) (d : Desk σ)

/-! ## Filing

From the finished recording to its metadata at the store, with the lines that are written meanwhile. -/

/-- Ordinary lines can be written one after the other. -/
theorem goes_lines (lines : List Line) (h : ∀ line ∈ lines, line.Ordinary) :
    d.Goes [] (lines.foldl (fun d line => d.note (.logged line)) d) ∧
      (lines.foldl (fun d line => d.note (.logged line)) d).leg = d.leg := by
  -- each line leaves the leg and what is shown as they are
  induction lines generalizing d with
  | nil => exact ⟨.refl d, rfl⟩
  | cons line rest ih =>
    obtain ⟨hgo, hleg⟩ := ih (d.note (.logged line)) (fun x hx => h x (List.mem_cons_of_mem _ hx))
    exact ⟨(d.goes_log (h line List.mem_cons_self)).trans hgo, hleg⟩

/-- The lines about a length are ordinary. -/
theorem ordinary_durationLines (files : Files) (uri : Uri) (started ended : Instant)
    (reader : Recording.Reader) :
    ∀ line ∈ Recording.durationLines files uri started ended reader, line.Ordinary := by
  intro line hline
  unfold Recording.durationLines at hline
  split at hline
  · rw [List.mem_singleton] at hline
    rw [hline]
    exact Line.ordinary_info
  · rcases List.mem_cons.1 hline with rfl | hline
    · exact Line.ordinary_debug (by simp [toString])
    · rw [List.mem_singleton] at hline
      rw [hline]
      exact Line.ordinary_info

/-- Filing hands the metadata over once, and tells the call if the store refuses them. -/
theorem fileRecording_goes {call : Recipient} (hcall : d.leg.call = some call) (r : CallRecording)
    (accountId store : String) :
    ∃ m, r.finalize d.files accountId site.settings.apiVersion d.clock site.reader = .ok m ∧
      (d.fileRecording site r accountId store).leg = d.leg ∧
      (d.Goes [.stored store m (.ok ())] (d.fileRecording site r accountId store) ∨
        ∃ e, d.Goes (.stored store m (.error e) :: d.surroundings.tellingCall d.leg (.failure e))
          (d.fileRecording site r accountId store)) := by
  obtain ⟨hlines, hleg⟩ :=
    d.goes_lines _ (ordinary_durationLines d.files r.uri r.startedAt d.clock site.reader)
  obtain ⟨m, hm⟩ : ∃ m,
      r.finalize d.files accountId site.settings.apiVersion d.clock site.reader = .ok m :=
    ⟨_, r.finalize_eq _ _ _ _ _⟩
  refine ⟨m, hm, ?_⟩
  -- `d₁` is the desk once the lines about the length are written
  unfold fileRecording
  generalize List.foldl _ d _ = d₁ at hlines hleg ⊢
  simp only [hlines.files, hlines.clock, hm]
  have hlog := hlines.info s!"Call wrapping up recording {m.recordingId} ({m.duration.fixed 3}s)"
  rcases hp : persist site (d₁.log .info _ []) store m with ⟨answer, d₂⟩
  obtain ⟨hgo, hleg₂⟩ := goes_persist site hp
  have hall := hlog.trans hgo
  have hleg' : d₂.leg = d.leg := hleg₂.trans hleg
  cases answer with
  | ok u => exact ⟨hleg', .inl hall⟩
  | error e =>
    have hline : Line.Ordinary ⟨.error, s!"Could not persist recording: {e.message}", []⟩ :=
      Line.ordinary_error (by simp [toString])
    have hcall' : (d₂.log .error s!"Could not persist recording: {e.message}" []).leg.call =
        some call := by
      rw [leg_log, hleg', hcall]
    refine ⟨?_, .inr ⟨e, ?_⟩⟩
    · rw [leg_tellCall, leg_log, hleg']
    · have htell := (hall.log hline).tellCall hcall' (.failure e)
      rw [leg_log, hleg'] at htell
      exact htell

/-! ## Stopping

A stop is settled in two ways, by whether it asks for an artifact.  What a message does before is not
repeated here: it is a stop from another leg. -/

/-- A desk takes a call recording out of its leg as the leg does. -/
theorem takeRecording_cases (g : Nat) :
    (∃ r, d.leg.recording = some r ∧ r.generation = g ∧
      d.takeRecording g = (some r, { d with leg := { d.leg with recording := none } })) ∨
    ((∀ r, d.leg.recording = some r → r.generation ≠ g) ∧ d.takeRecording g = (none, d)) := by
  unfold takeRecording
  rcases d.leg.takeRecording_cases g with ⟨r, hr, hg, ht⟩ | ⟨hr, ht⟩
  · exact .inl ⟨r, hr, hg, by rw [ht]⟩
  · exact .inr ⟨hr, by rw [ht]⟩

variable {d} in
/-- After a recording was stopped, its call recording is settled: filed, if account and store are
    known. -/
theorem settleRecording_stopped {call : Recipient} {g : Nat} {es : List Effect} {l : Leg}
    {d₁ : Desk σ} (hcall : l.call = some call)
    (hs : ActiveStopped l (.ok (some ⟨.recording, g⟩)) es) (hgo : d.Goes es d₁)
    (hleg : d₁.leg = { l with active := none }) :
    ∃ shown,
      Stopped site.reader site.settings.apiVersion d.surroundings true l
        (d₁.settleRecording site g).leg shown ∧
      d.Goes shown (d₁.settleRecording site g) := by
  unfold settleRecording
  rcases d₁.takeRecording_cases g with ⟨r, hr, hg, ht⟩ | ⟨hr, ht⟩
  · rw [ht]
    rw [hleg] at hr
    -- `d₂` is the desk with the recording taken out
    have hgo₂ := hgo.leg { d₁.leg with recording := none }
    generalize hd₂ : ({ d₁ with leg := { d₁.leg with recording := none } } : Desk σ) = d₂
      at hgo₂ ⊢
    have hleg₂ : d₂.leg = { l with active := none, recording := none } := by rw [← hd₂, hleg]
    dsimp only
    rw [hleg₂]
    cases hacc : l.accountId with
    | none =>
      have hline : Line.Ordinary ⟨.warn, s!"Call recording {r.recordingId} has no account", []⟩ :=
        Line.ordinary_warn (by simp [toString])
      refine ⟨es, ?_, hgo₂.log hline⟩
      rw [leg_log, hleg₂]
      exact .dropped g r es hs hr hg (.inr (.inl hacc))
    | some accountId =>
      cases hst : l.store with
      | none =>
        have hline : Line.Ordinary ⟨.warn, s!"No recording store for {r.recordingId}", []⟩ :=
          Line.ordinary_warn (by simp [toString])
        refine ⟨es, ?_, hgo₂.log hline⟩
        rw [leg_log, hleg₂]
        exact .dropped g r es hs hr hg (.inr (.inr hst))
      | some store =>
        have hcall₂ : d₂.leg.call = some call := by rw [hleg₂, hcall]
        obtain ⟨m, hm, hkeep, hfile⟩ := fileRecording_goes site d₂ hcall₂ r accountId store
        rw [hgo₂.files, hgo₂.clock] at hm
        rw [hkeep, hleg₂]
        rcases hfile with hfile | ⟨e, hfile⟩
        · exact ⟨_, .filed g r accountId store m es hs hr hg rfl hacc hst hm, hgo₂.trans hfile⟩
        · refine ⟨_, .unfiled g r accountId store m e es hs hr hg rfl hacc hst hm, ?_⟩
          have hall := hgo₂.trans hfile
          rw [hgo₂.tellingCall, hleg₂] at hall
          exact hall
  · rw [ht]
    rw [hleg] at hr
    have hline : Line.Ordinary
        ⟨.debug, "Stopped record is not a call recording, nothing to persist", []⟩ :=
      Line.ordinary_debug (by simp)
    refine ⟨es, ?_, hgo.log hline⟩
    rw [leg_log, hleg]
    exact .plain g es hs hr

variable {d} in
/-- Or it is discarded, if no artifact is asked for. -/
theorem discardRecording_stopped {g : Nat} {es : List Effect} {l : Leg} {d₁ : Desk σ}
    (hs : ActiveStopped l (.ok (some ⟨.recording, g⟩)) es) (hgo : d.Goes es d₁)
    (hleg : d₁.leg = { l with active := none }) :
    ∃ shown,
      Stopped site.reader site.settings.apiVersion d.surroundings false l
        (match d₁.takeRecording g with
          | (none, d) => d
          | (some r, d) => d.log .debug s!"Discarding call recording {r.recordingId}" []).leg shown ∧
      d.Goes shown
        (match d₁.takeRecording g with
          | (none, d) => d
          | (some r, d) => d.log .debug s!"Discarding call recording {r.recordingId}" []) := by
  rcases d₁.takeRecording_cases g with ⟨r, hr, hg, ht⟩ | ⟨hr, ht⟩
  · rw [ht]
    rw [hleg] at hr
    have hline : Line.Ordinary ⟨.debug, s!"Discarding call recording {r.recordingId}", []⟩ :=
      Line.ordinary_debug (by simp [toString])
    refine ⟨es, ?_, (hgo.leg _).log hline⟩
    rw [leg_log, hleg]
    exact .dropped g r es hs hr hg (.inl rfl)
  · rw [ht]
    rw [hleg] at hr
    refine ⟨es, ?_, hgo⟩
    rw [hleg]
    exact .plain g es hs hr

/-- A stop comes out as `Stopped` says, whether or not it asks for an artifact. -/
theorem stop_stopped (artifact : Bool)
    (hcall : d.leg.active ≠ none → ∃ call, d.leg.call = some call) :
    ∃ shown,
      Stopped site.reader site.settings.apiVersion d.surroundings artifact d.leg
        (d.stop site artifact).leg shown ∧
      d.Goes shown (d.stop site artifact) := by
  unfold stop
  obtain ⟨es, hs, hleg, hgo⟩ := d.stopActive_stopped site
  rcases hd : d.stopActive site with ⟨result, d₁⟩
  rw [hd] at hs hleg hgo
  dsimp only at hs hleg hgo
  cases result with
  | error e =>
    -- something was in flight, so that there is a call to tell
    obtain ⟨call, hc⟩ := hcall (hs.busy (by simp))
    have hc₁ : d₁.leg.call = some call := by rw [hleg, hc]
    have hline : Line.Ordinary ⟨.error, s!"Could not stop media group operation: {e.message}", []⟩ :=
      Line.ordinary_error (by simp [toString])
    refine ⟨es ++ d.surroundings.tellingCall d.leg (.failure e), ?_, ?_⟩
    · rw [leg_tellCall, leg_log, hleg]
      exact .failed e es hs
    · have htell := (hgo.log hline).tellCall hc₁ (.failure e)
      rw [leg_log, hleg] at htell
      exact htell
  | ok was =>
    -- only a recording has something to settle
    match was, hs with
    | none, hs =>
      refine ⟨es, ?_, hgo⟩
      rw [hleg]
      exact .other none es hs (fun g h => nomatch h)
    | some ⟨.playback, g⟩, hs =>
      refine ⟨es, ?_, hgo⟩
      rw [hleg]
      exact .other _ es hs (fun g h => nomatch h)
    | some ⟨.digitCollection, g⟩, hs =>
      refine ⟨es, ?_, hgo⟩
      rw [hleg]
      exact .other _ es hs (fun g h => nomatch h)
    | some ⟨.recording, g⟩, hs =>
      cases artifact with
      | false => exact discardRecording_stopped site hs hgo hleg
      | true =>
        obtain ⟨call, hc⟩ := hcall (hs.busy (by simp))
        exact settleRecording_stopped site hc hs hgo hleg

/-- Stopping a recording is a stop that asks for an artifact, with account and store remembered
    before. -/
theorem stopRecording_stopped (accountId store : Option String) {g : Nat}
    (ha : d.leg.active = some ⟨.recording, g⟩)
    (hcall : d.leg.active ≠ none → ∃ call, d.leg.call = some call) :
    ∃ shown,
      Stopped site.reader site.settings.apiVersion d.surroundings true (d.leg.remember accountId store)
        (d.stopRecording site accountId store).leg shown ∧
      d.Goes shown (d.stopRecording site accountId store) := by
  unfold stopRecording
  rw [ha]
  have hgo := (d.goes_leg (d.leg.remember accountId store)).info "Stop recording call"
  obtain ⟨shown, hs, hgo'⟩ := stop_stopped site
    (({ d with leg := d.leg.remember accountId store } : Desk σ).log .info "Stop recording call" [])
    true hcall
  rw [hgo.surroundings rfl] at hs
  exact ⟨shown, hs, hgo.trans hgo'⟩

/-! ## Starting

What is remembered of a call recording is what the settlement needs. -/

/-- The leg with a call recording remembered, if its recording was started. -/
def recordingSince (order : CallRecordingOrder) (clock : Instant) (l : Leg) : Option Nat → Leg
  | none => l
  | some generation =>
    let recording : CallRecording :=
      { generation, recordingId := order.recordingId, callId := order.callId, uri := order.uri
        startedAt := clock }
    { l with recording := some recording }

/-- Recording the call is attempted as any recording is, with account and store remembered before.
    What is attempted is remembered as a call recording if the media server accepts it. -/
theorem startRecording_attempted (sender : Recipient) (order : CallRecordingOrder) :
    ∃ r l shown,
      Attempted d.surroundings .recording
        (fun group => .record group ((recordingOrder site.settings.callRecording order).request
          site.settings.recordInterSignalTimeoutMs)) sender
        (d.leg.remember (some order.accountId) order.store)
        { d.leg.remember (some order.accountId) order.store with
          endKey := site.settings.callRecording.endInputKeys } r l shown ∧
      (d.startRecording site sender order).leg =
        recordingSince order d.clock l r ∧
      d.Goes shown (d.startRecording site sender order) := by
  unfold startRecording
  have hgo := (d.goes_leg (d.leg.remember (some order.accountId) order.store)).info
    s!"Start recording call to {order.uri.text}"
  obtain ⟨shown, hr, hgo'⟩ := record_attempted site
    (({ d with leg := d.leg.remember (some order.accountId) order.store } : Desk σ).log .info
      s!"Start recording call to {order.uri.text}" []) sender
    (recordingOrder site.settings.callRecording order)
  rw [hgo.surroundings rfl] at hr
  -- the result decides whether the recording is remembered as that of the call
  revert hr hgo'
  dsimp only
  rcases record site _ sender _ with ⟨result, d₁⟩
  intro hr hgo'
  have hall := hgo.trans hgo'
  refine ⟨result, d₁.leg, shown, hr, ?_, ?_⟩
  · cases result with
    | none => rfl
    | some g =>
      unfold recordingSince
      rw [← hall.clock]
  · cases result with
    | none => exact hall
    | some g => exact hall.leg _

end Desk

end CallMedia
