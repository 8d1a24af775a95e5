import CallMedia.Identifier
import CallMedia.Logging
import CallMedia.Rehearsal
import CallMedia.Settings.Document
import CallMedia.Proofs.Effects
import CallMedia.Proofs.Starting
import CallMedia.Proofs.Grouping
import CallMedia.Proofs.Filing
import CallMedia.Proofs.Arriving
import CallMedia.Proofs.Joining
import CallMedia.Proofs.Sound
import CallMedia.Proofs.Commands
import CallMedia.Proofs.Handling
import CallMedia.Proofs.Run
import CallMedia.Proofs.PhaseChanges
import CallMedia.Proofs.Holdings
import CallMedia.Proofs.Activities
import CallMedia.Proofs.Exclusion
import CallMedia.Proofs.Generations
import CallMedia.Proofs.Delivery
import CallMedia.Proofs.Serving
import CallMedia.Proofs.Handles
import CallMedia.Proofs.Custody
import CallMedia.Proofs.Releasing
import CallMedia.Proofs.Remembering
import CallMedia.Proofs.InFlight
import CallMedia.Proofs.Filed
import CallMedia.Proofs.Silence
import CallMedia.Proofs.Awaiting
import CallMedia.Proofs.Recovering
import CallMedia.Proofs.Mixers
import CallMedia.Proofs.Descriptions
import CallMedia.Proofs.Commuting
import CallMedia.Proofs.Ignoring
import CallMedia.Proofs.Stopping
import CallMedia.Proofs.Rejection
import CallMedia.Proofs.Alike
import CallMedia.Proofs.Observing
import CallMedia.Proofs.Moves
import CallMedia.Proofs.Lines
import CallMedia.Proofs.Requests
import CallMedia.Proofs.Protocol
import CallMedia.Proofs.Shutdown
import CallMedia.Proofs.Rehearsing
import CallMedia.Proofs.Machines
import CallMedia.Proofs.Rounding
import CallMedia.Proofs.Durations
import CallMedia.Proofs.Attending
import CallMedia.Proofs.EndKeys
import CallMedia.Proofs.Arming
import CallMedia.Proofs.Pairs
import CallMedia.Proofs.Capacities
