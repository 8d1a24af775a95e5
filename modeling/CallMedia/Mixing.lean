/-
  Bridges and conferences.

  Both are mixers that the leg's connection is joined to; a bridge has two parties.  Whoever joined the
  leg owns the join.  Muting joins the same mixer again in one direction, unmuting in both; either is
  advisory, and a failure is only logged.
-/
import CallMedia.Desk

namespace CallMedia.Desk

variable {σ : Type} (site : Site σ) (d : Desk σ)

/-- Join the connection to a mixer of the given kind. -/
def joinMixer (sender : Recipient) (mixer : MixerHandle) (kind : String) : Desk σ :=
  match d.leg.connection with
  | none => d.log .debug s!"No network connection to join to {kind}" []
  | some connection =>
    match d.perform site (.join connection .duplex (.mixer mixer)) with
    | (.ok (), d) =>
      let d := d.log .info s!"Joined {kind} {mixer.name}" []
      let d := { d with leg := { d.leg with
        mixer := some mixer, owner := some sender, conferencing := true } }
      d.tellCall .joinComplete
    | (.error e, d) =>
      (d.log .error s!"Call bridging failed: {e.message}" []).broadcast (.failure e)

/-- Leave the mixer. -/
def leaveMixer : Desk σ :=
  match d.leg.conferencing, d.leg.connection, d.leg.mixer with
  | true, some connection, some mixer =>
    match d.perform site (.unjoin connection (.mixer mixer)) with
    | (.ok (), d) =>
      let d := d.log .info s!"Left mixer {mixer.name}" []
      { d with leg := { d.leg with mixer := none, owner := none, conferencing := false } }
    | (.error e, d) =>
      (d.log .error s!"Could not leave mixer {mixer.name}: {e.message}" []).tellCall (.failure e)
  | _, _, _ => d

/-- Join the mixer again in another direction. -/
def rejoinMixer (direction : JoinDirection) (action : String) : Desk σ :=
  match d.leg.connection, d.leg.mixer with
  | some connection, some mixer =>
    match d.perform site (.join connection direction (.mixer mixer)) with
    | (.ok (), d) => d
    | (.error e, d) => d.log .error s!"Could not {action} call: {e.message}" []
  | _, _ => d.log .debug s!"No mixer to {action}" []

end CallMedia.Desk
