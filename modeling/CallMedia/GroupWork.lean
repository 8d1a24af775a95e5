/-
  The media group and what it does.

  A leg has at most one group, joined to its connection; a group that cannot be joined is released
  again.  At most one activity runs at a time.  A request that finds the group busy or missing is
  refused to its sender alone; one that the media server rejects is reported to the observers.

  Whoever asked for an activity is bound to its slot before anything is started, so that an outcome
  reported at once already finds the right recipient.
-/
import CallMedia.Desk

namespace CallMedia.Desk

variable {σ : Type} (site : Site σ) (d : Desk σ)

/-! ## Having a group -/

/-- Allocate a group and join it to the connection. -/
def allocateGroup (session : SessionHandle) : Except Fault Unit × Desk σ :=
  match d.leg.connection with
  | none => (.error (.resourceUnavailable "network connection"), d)
  | some connection =>
    match d.create site (.group session) with
    | (.error e, d) => (.error e, d)
    | (.ok name, d) =>
      let group : GroupHandle := ⟨name⟩
      match d.perform site (.join connection .duplex (.group group)) with
      | (.error e, d) =>
        match d.perform site (.releaseGroup group) with
        | (.ok (), d) => (.error e, d)
        | (.error stuck, d) =>
          (.error e, d.log .warn s!"Could not release media group {group.name}: {stuck.message}" [])
      | (.ok (), d) =>
        let d := d.log .info s!"Created media group {group.name}" []
        (.ok (), { d with leg := { d.leg with group := some group } })

/-- A group is created if there is none; the sender hears how it went. -/
def createGroup (sender : Recipient) : Desk σ :=
  if d.leg.group.isSome then d.log .debug "Reusing existing media group" []
  else
    match d.leg.session with
    | none => d.tell sender (.failure (.resourceUnavailable "media session"))
    | some session =>
      match d.allocateGroup site session with
      | (.ok (), d) => d.tell sender .groupCreated
      | (.error e, d) =>
        (d.log .error s!"Could not create media group: {e.message}" []).tell sender (.failure e)

/-- The group is released if there is one.  The answer goes to the owning call, or to the sender where
    there is no call, and is the same in either case. -/
def destroyGroup (sender : Recipient) : Desk σ :=
  let d := match d.leg.group with
    | none => d
    | some group =>
      let d := { d with leg := { d.leg with group := none, active := none } }
      match d.perform site (.releaseGroup group) with
      | (.ok (), d) => d
      | (.error e, d) => d.log .warn s!"Could not release media group {group.name}: {e.message}" []
  d.tell (d.leg.call.getD sender) .groupDestroyed

/-! ## Starting an activity -/

/-- What the journal says of an activity that could not be started. -/
def failureHeadline : Activity → String
  | .playback => "Play failed"
  | .digitCollection => "DTMF recognition failed"
  | .recording => "Recording failed"

/-- Refuse an activity to whoever asked for it. -/
def refuse (sender : Recipient) (activity : Activity) (e : Fault) : Desk σ :=
  d.tell sender (.operationResult activity (.error e))

/-- Take note of how the start of an activity went. -/
def started (activity : Activity) : Except Fault Nat × Desk σ → Option Nat × Desk σ
  | (.ok generation, d) =>
    (some generation, { d with leg := { d.leg with active := some ⟨activity, generation⟩ } })
  | (.error e, d) =>
    (none, ((d.log .error s!"{failureHeadline activity}: {e.message}" []).disarm (.group activity)
      ).broadcast (.operationResult activity (.error e)))

/-- Play media to the call. -/
def play (sender : Recipient) (order : PlayOrder) : Desk σ :=
  match d.leg.idleGroup .playback with
  | .error e => d.refuse sender .playback e
  | .ok group =>
    let d := d.bind (.group .playback) sender
    (started .playback (d.launch site (.play group order.request))).2

/-- Collect digits from the call; those buffered before do not count. -/
def collect (sender : Recipient) (order : CollectOrder) : Desk σ :=
  match d.leg.idleGroup .digitCollection with
  | .error e => d.refuse sender .digitCollection e
  | .ok group =>
    let d := d.bind (.group .digitCollection) sender
    let launched := match d.perform site (.flushDigits group) with
      | (.error e, d) => (.error e, d)
      | (.ok (), d) => d.launch site (.collect group order.request)
    (started .digitCollection launched).2

/-- Record the call; the answer is the generation of the recorder if it was started. -/
def record (sender : Recipient) (order : RecordOrder) : Option Nat × Desk σ :=
  match d.leg.idleGroup .recording with
  | .error e => (none, d.refuse sender .recording e)
  | .ok group =>
    -- the key is kept even if the recording is then refused: nothing else will ask for it
    let d := { d with leg := { d.leg with endKey := order.endInputKey.getD "" } }
    let d := d.bind (.group .recording) sender
    started .recording
      (d.launch site (.record group (order.request site.settings.recordInterSignalTimeoutMs)))

/-! ## Stopping -/

/-- Stop what the group does.  Afterwards nothing is in flight, whatever the media server answers; the
    answer is what was. -/
def stopActive : Except Fault (Option Active) × Desk σ :=
  let active := d.leg.active
  let d := { d with leg := { d.leg with active := none } }
  match d.leg.group, active with
  | none, _ => (.ok active, d)
  | some _, none => (.ok none, d)
  | some group, some a =>
    match d.perform site (.stop a.activity group) with
    | (.error e, d) => (.error e, d)
    | (.ok (), d) => (.ok (some a), d.log .debug s!"Stopped {a.describe} on {group.name}" [])

/-- Stop what the group does and tell the observers that it is quiet. -/
def stopGroup : Desk σ :=
  match d.stopActive site with
  | (.ok _, d) => d.broadcast (.groupStateChanged .inactive)
  | (.error e, d) =>
    (d.log .error s!"Could not stop media group: {e.message}" []).broadcast (.failure e)

end CallMedia.Desk
