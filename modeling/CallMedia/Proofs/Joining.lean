/-
  What comes of joining and leaving a mixer.

  Each takes one request to the media server.  A join or a leave that succeeds changes mixer, owner and
  the conferencing mark together; one that fails changes nothing and is reported.  Muting and unmuting
  never change the leg.
-/
import CallMedia.Proofs.Effects

namespace CallMedia

/-- What comes of joining a mixer. -/
inductive Joined (w : Surroundings) (sender : Recipient) (mixer : MixerHandle) (l : Leg) :
    Leg → List Effect → Prop
  /-- The call is told, and nobody else. -/
  | joined (k : ConnectionHandle) (hc : l.connection = some k) :
      Joined w sender mixer l
        { l with mixer := some mixer, owner := some sender, conferencing := true }
        (.performed (.join k .duplex (.mixer mixer)) (.ok ()) :: w.tellingCall l .joinComplete)
  /-- A refusal is told to all observers. -/
  | refused (k : ConnectionHandle) (e : Fault) (hc : l.connection = some k) :
      Joined w sender mixer l l
        (.performed (.join k .duplex (.mixer mixer)) (.error e) :: w.tellingAll l (.failure e))

/-- What comes of leaving the mixer. -/
inductive Left (w : Surroundings) (l : Leg) : Leg → List Effect → Prop
  /-- Nobody is told. -/
  | left (k : ConnectionHandle) (mixer : MixerHandle) (hc : l.connection = some k)
      (hm : l.mixer = some mixer) :
      Left w l { l with mixer := none, owner := none, conferencing := false }
        [.performed (.unjoin k (.mixer mixer)) (.ok ())]
  /-- A refusal is told to the owning call. -/
  | refused (k : ConnectionHandle) (mixer : MixerHandle) (e : Fault) (hc : l.connection = some k)
      (hm : l.mixer = some mixer) :
      Left w l l
        (.performed (.unjoin k (.mixer mixer)) (.error e) :: w.tellingCall l (.failure e))

namespace Desk

variable {σ : Type} (site : Site σ) (d : Desk σ)

/-- A leg with a connection joins a mixer as `Joined` says. -/
theorem joinMixer_joined {call : Recipient} (hcall : d.leg.call = some call) (sender : Recipient)
    (mixer : MixerHandle) (kind : String) {k : ConnectionHandle} (hk : d.leg.connection = some k) :
    ∃ shown,
      Joined d.surroundings sender mixer d.leg (d.joinMixer site sender mixer kind).leg shown ∧
      d.Goes shown (d.joinMixer site sender mixer kind) := by
  unfold joinMixer
  rw [hk]
  dsimp only
  rcases hp : d.perform site (.join k .duplex (.mixer mixer)) with ⟨answer, d₁⟩
  obtain ⟨hgo, hleg⟩ := goes_perform site hp
  cases answer with
  | ok u =>
    have hjoin := (hgo.info s!"Joined {kind} {mixer.name}").leg
      { d.leg with mixer := some mixer, owner := some sender, conferencing := true }
    dsimp only
    rw [leg_log, hleg]
    refine ⟨_, ?_, hjoin.tellCall hcall .joinComplete⟩
    rw [leg_tellCall]
    exact .joined k hk
  | error e =>
    have hline : Line.Ordinary ⟨.error, s!"Call bridging failed: {e.message}", []⟩ :=
      Line.ordinary_error (by simp [toString])
    have htell := (hgo.log hline).broadcast (.failure e)
    rw [leg_log, hleg] at htell
    refine ⟨_, ?_, htell⟩
    rw [leg_broadcast, leg_log, hleg]
    exact .refused k e hk

/-- A leg that confers leaves its mixer as `Left` says. -/
theorem leaveMixer_left {call : Recipient} (hcall : d.leg.call = some call)
    {k : ConnectionHandle} {mixer : MixerHandle} (hcon : d.leg.conferencing = true)
    (hk : d.leg.connection = some k) (hm : d.leg.mixer = some mixer) :
    ∃ shown, Left d.surroundings d.leg (d.leaveMixer site).leg shown ∧
      d.Goes shown (d.leaveMixer site) := by
  unfold leaveMixer
  rw [hcon, hk, hm]
  dsimp only
  rcases hp : d.perform site (.unjoin k (.mixer mixer)) with ⟨answer, d₁⟩
  obtain ⟨hgo, hleg⟩ := goes_perform site hp
  cases answer with
  | ok u =>
    have hleave := (hgo.info s!"Left mixer {mixer.name}").leg
      { d.leg with mixer := none, owner := none, conferencing := false }
    dsimp only
    rw [leg_log, hleg]
    exact ⟨_, .left k mixer hk hm, hleave⟩
  | error e =>
    have hline : Line.Ordinary ⟨.error, s!"Could not leave mixer {mixer.name}: {e.message}", []⟩ :=
      Line.ordinary_error (by simp [toString])
    have hcall₁ : (d₁.log .error s!"Could not leave mixer {mixer.name}: {e.message}" []).leg.call =
        some call := by
      rw [leg_log, hleg, hcall]
    have htell := (hgo.log hline).tellCall hcall₁ (.failure e)
    rw [leg_log, hleg] at htell
    refine ⟨_, ?_, htell⟩
    rw [leg_tellCall, leg_log, hleg]
    exact .refused k mixer e hk hm

/-- Muting and unmuting give one command and leave the leg alone. -/
theorem rejoinMixer_goes (direction : JoinDirection) {action : String}
    (haction : action = "mute" ∨ action = "unmute") {k : ConnectionHandle} {mixer : MixerHandle}
    (hk : d.leg.connection = some k) (hm : d.leg.mixer = some mixer) :
    ∃ answer, (d.rejoinMixer site direction action).leg = d.leg ∧
      d.Goes [.performed (.join k direction (.mixer mixer)) answer]
        (d.rejoinMixer site direction action) := by
  unfold rejoinMixer
  rw [hk, hm]
  dsimp only
  rcases hp : d.perform site (.join k direction (.mixer mixer)) with ⟨answer, d₁⟩
  obtain ⟨hgo, hleg⟩ := goes_perform site hp
  cases answer with
  | ok u => exact ⟨_, hleg, hgo⟩
  | error e =>
    have hline : Line.Ordinary ⟨.error, s!"Could not {action} call: {e.message}", []⟩ :=
      Line.ordinary_error (by rcases haction with rfl | rfl <;> simp [toString])
    exact ⟨_, hleg, hgo.log hline⟩

end Desk

end CallMedia
