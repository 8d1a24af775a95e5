/-
  The session's phase, and what is done on entering each.

  A controller is a phase and a desk.  The phase changes only through `Controller.enter`, which asks the
  machine `lifecycle`: a legal change is traced, the phase changes, and then the entry action of the new
  phase runs.  A change that is not legal is logged and dropped.

    * entering `opening` opens the session, `updating` renegotiates it; if that fails the call is told;
    * entering `active` takes over the media server's description, if it made one, and tells the call
      that the session is ready;
    * entering `inactive` releases everything and tells the call so;
    * entering `failed` tells the call why.
-/
import CallMedia.Machine
import CallMedia.Negotiation
import CallMedia.Phase

namespace CallMedia

/-- What causes a change of phase. -/
inductive Trigger where
  /-- A message, by name. -/
  | control (message : String)
  /-- The negotiation succeeded; the media server may have made a description. -/
  | negotiated (localSdp : Option String)
  | negotiationFailed (fault : Fault)
deriving DecidableEq, Repr

/-- The name of a trigger in the journal. -/
def Trigger.name : Trigger → String
  | control message => message
  | negotiated _ => "negotiation completed"
  | negotiationFailed _ => "negotiation failed"

namespace Desk

variable {σ : Type} (site : Site σ)

/-- On entering `opening`. -/
def enterOpening (_ : Trigger) (d : Desk σ) : Desk σ :=
  match d.openSession site with
  | (.ok (), d) => d
  | (.error e, d) =>
    (d.log .error s!"Could not open media session: {e.message}" []).tellCall (.failure e)

/-- On entering `updating`. -/
def enterUpdating (_ : Trigger) (d : Desk σ) : Desk σ :=
  match d.renegotiate site with
  | (.ok (), d) => d
  | (.error e, d) =>
    (d.log .error s!"Could not update media session: {e.message}" []).tellCall (.failure e)

/-- On entering `active`. -/
def enterActive (t : Trigger) (d : Desk σ) : Desk σ :=
  let d := match t with
    | .negotiated (some sdp) => { d with leg := { d.leg with localSdp := some sdp } }
    | _ => d
  (d.log .info "Media session is active" []).tellCall
    (.sessionReady (d.leg.info site.server.address))

/-- On entering `inactive`. -/
def enterInactive (_ : Trigger) (d : Desk σ) : Desk σ :=
  ((d.release site).log .info "Media session closed" []).tellCall .sessionClosed

/-- On entering `failed`. -/
def enterFailed (t : Trigger) (d : Desk σ) : Desk σ :=
  let fault := match t with
    | .negotiationFailed fault => fault
    | _ => .negotiation "media session could not be set up"
  (d.log .warn s!"Media server returned error: {fault.message}. Failing call" []).tellCall
    (.failure fault)

end Desk

/-- The machine that a session's phase follows. -/
def lifecycle {σ : Type} (site : Site σ) : Machine Phase (Desk σ) Trigger where
  states :=
    [{ id := .uninitialized },
     { id := .opening, entry := some (Desk.enterOpening site) },
     { id := .active, entry := some (Desk.enterActive site) },
     { id := .updating, entry := some (Desk.enterUpdating site) },
     { id := .inactive, entry := some (Desk.enterInactive site) },
     { id := .failed, entry := some Desk.enterFailed }]
  transitions := Phase.legalTransitions

/-- A controller: the phase of its session, and its desk. -/
structure Controller (σ : Type) where
  phase : Phase := .uninitialized
  desk : Desk σ

namespace Controller

variable {σ : Type} (site : Site σ) (c : Controller σ)

/-- Do something at the desk, whatever the phase. -/
def atDesk (work : Desk σ → Desk σ) : Controller σ := { c with desk := work c.desk }

/-- Do something at the desk if the session is active. -/
def whenActive (work : Desk σ → Desk σ) : Controller σ :=
  if c.phase = .active then c.atDesk work else c

/-- Change to another phase; what is not legal is logged and dropped. -/
def enter (trigger : Trigger) (target : Phase) : Controller σ :=
  let traced := c.desk.log .trace s!"FSM transition {c.phase.label} -> {target.label}" []
  match (lifecycle site).step ⟨c.phase, traced⟩ trigger target with
  | .ok p => ⟨p.state, p.context⟩
  | .error i => c.atDesk (·.log .warn s!"Dropping {trigger.name}: {i.message Phase.name}" [])

/-- The first message that creates a session decides whom it belongs to; later ones are ignored. -/
def createSession (sender : Recipient) (outbound : Bool) (mode : ConnectionMode) (sdp : String) :
    Controller σ :=
  if c.phase = .uninitialized then
    let owned (d : Desk σ) : Desk σ :=
      { d with leg := { d.leg with
          call := some sender, outbound, mode
          remoteSdp := if sdp = "" then d.leg.remoteSdp else some sdp } }
    (c.atDesk owned).enter site (.control "CreateMediaSession") .opening
  else c.atDesk (·.log .debug "Media session already created, ignoring" [])

/-- A session that is open, or about to be, is closed. -/
def closeSession : Controller σ :=
  match c.phase with
  | .active | .opening | .updating => c.enter site (.control "CloseMediaSession") .inactive
  | _ => c

/-- An active session is renegotiated with the new description. -/
def updateSession (sdp : String) : Controller σ :=
  if c.phase = .active then
    (c.atDesk fun d => { d with leg := { d.leg with remoteSdp := some sdp } }).enter site
      (.control "UpdateMediaSession") .updating
  else c

end Controller

end CallMedia
