/-
  Opening, renegotiating and releasing a session.

  Opening allocates a session and a connection and starts the exchange of descriptions: an outbound leg
  makes an offer, an inbound one answers the offer it was given.  Renegotiating hands over a new
  description as an answer.  Either stops at the first step that fails and reports why; what was
  allocated before stays held, so that closing releases it.

  Releasing always succeeds on this side: whatever the media server answers, nothing is held any more
  and no outcome is awaited.  Releasing the session releases its connection and its group as well.
-/
import CallMedia.Desk

namespace CallMedia.Desk

variable {σ : Type} (site : Site σ) (d : Desk σ)

/-- Start a step of the negotiation. -/
def negotiate (what : Operation) : Except Fault Unit × Desk σ :=
  match d.launch site what with
  | (.ok _, d) => (.ok (), d)
  | (.error e, d) => (.error e, d)

/-- The first step of the negotiation on a fresh connection. -/
def firstStep (l : Leg) (connection : ConnectionHandle) : Operation :=
  if l.outbound then .generateOffer connection
  else .processOffer connection (l.remoteSdp.getD "")

/-- Allocate session and connection, then start the negotiation. -/
def openSession : Except Fault Unit × Desk σ :=
  match d.create site .session with
  | (.error e, d) => (.error e, d)
  | (.ok name, d) =>
    let session : SessionHandle := ⟨name⟩
    let d := { d with leg := { d.leg with session := some session } }
    match d.create site (.connection session d.leg.mode) with
    | (.error e, d) => (.error e, d)
    | (.ok name, d) =>
      let connection : ConnectionHandle := ⟨name⟩
      let d := { d with leg := { d.leg with connection := some connection } }
      let d := match d.leg.call with
        | some call => d.bind .negotiation call
        | none => d
      d.negotiate site (firstStep d.leg connection)

/-- Hand over the new description of the other side. -/
def renegotiate : Except Fault Unit × Desk σ :=
  match d.leg.connection with
  | none => (.error (.resourceUnavailable "network connection"), d)
  | some connection => d.negotiate site (.processAnswer connection (d.leg.remoteSdp.getD ""))

/-- Release the session and forget everything held. -/
def release : Desk σ :=
  let d := match d.leg.session with
    | none => d
    | some session =>
      match d.perform site (.releaseSession session) with
      | (.ok (), d) => d
      | (.error e, d) =>
        d.log .warn s!"Could not release media session {session.name}: {e.message}" []
  { d with leg := d.leg.released }

end CallMedia.Desk
