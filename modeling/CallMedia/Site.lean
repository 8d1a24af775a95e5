/-
  Where a controller is installed.

  A site is everything around a controller that answers it: the media server, the recording stores, what
  artifacts are read with, and the settings it runs under.  Server and stores may be anything at all:
  they are functions over a state of their own, of any type.

  Files and clock are not part of that state, so a call to the server or to a store does not change them
  while an item is handled.  Nothing is lost by this.  Handling an item reads each of them once at most:
  the clock when a call recording starts, or clock and files when one is filed, and nobody asks again in
  the same turn.  Between two turns both may become anything.  So whatever a server does to files and
  clock during a call, it could as well have done just before the turn, and what is shown of a controller
  at an arbitrary site holds of every real one.

  A started operation is answered with an `Answer`: whether it was accepted, and what became of its
  sink.  The media server may report the outcome before it even answers, keep the sink for later, or
  drop it; all three whether it accepts or not.
-/
import CallMedia.Outcome
import CallMedia.Recording
import CallMedia.Request
import CallMedia.Settings

namespace CallMedia

/-- What the media server did with a sink while it answered. -/
inductive SinkFate where
  /-- Reported an outcome through it. -/
  | completed (outcome : Outcome)
  /-- Kept it for later. -/
  | held
  /-- Dropped it. -/
  | dropped
deriving DecidableEq, Repr

/-- The answer to a started operation. -/
structure Answer where
  result : Except Fault Unit
  fate : SinkFate
deriving Repr

/-- What answers a controller, over an outside state `σ`. -/
structure Site (σ : Type) where
  settings : Settings
  server : Server
  reader : Recording.Reader := .standard
  /-- Allocate something; the answer is the name of it. -/
  create : σ → Creation → Except Fault String × σ
  perform : σ → Command → Except Fault Unit × σ
  start : σ → Operation → Sink → Answer × σ
  /-- Hand the metadata of a recording to the named store. -/
  store : σ → String → Recording.Metadata → Except Fault Unit × σ

/-- What a controller did, as it can be seen from outside. -/
inductive Effect where
  | created (what : Creation) (answer : Except Fault String)
  | performed (what : Command) (answer : Except Fault Unit)
  | started (what : Operation) (sink : Sink) (answer : Answer)
  | stored (store : String) (metadata : Recording.Metadata) (answer : Except Fault Unit)
  /-- A notice, and whether the mailbox took it. -/
  | told (recipient : Recipient) (notice : Notice) (delivered : Bool)
  | logged (line : Line)
deriving Repr

end CallMedia
