import Southbound.Main
import Southbound.Pool.Timeline
import Southbound.Probe
import Southbound.Shift.Load
import Southbound.Proofs.Link
import Southbound.Proofs.StoreJobs
import Southbound.Proofs.Backing
import Southbound.Proofs.Idempotence
import Southbound.Proofs.Convergence
import Southbound.Proofs.Footprint
import Southbound.Proofs.Aspect
import Southbound.Proofs.Isolation
import Southbound.Proofs.LateEvents
import Southbound.Crew
import Southbound.Closing
import Southbound.Proofs.Interleaving
import Southbound.Proofs.Overtaking
import Southbound.Proofs.Availability
import Southbound.Proofs.Glimpses
import Southbound.Proofs.RoleProtocol
import Southbound.Proofs.Gating
import Southbound.Proofs.Recovery
import Southbound.Proofs.Secrecy
import Southbound.Proofs.Drain
import Southbound.Proofs.Revocation
import Southbound.Proofs.Shutdown
import Southbound.Proofs.Accord
import Southbound.Proofs.Disconnection
import Southbound.Proofs.InFlight
import Southbound.Proofs.Replay
import Southbound.Proofs.IdentityText
import Southbound.Proofs.Removal
import Southbound.Proofs.FirstEntry
import Southbound.Proofs.Upkeep
import Southbound.Proofs.PoolView
import Southbound.Proofs.Feedback
import Southbound.Proofs.Rediscovery
import Southbound.Proofs.Forgetting
import Southbound.Proofs.Complaints
import Southbound.Proofs.Telling
import Southbound.Pool.Timesheet
import Southbound.Proofs.Timeline
import Southbound.Proofs.Timesheet
import Southbound.Proofs.Punctuality
import Southbound.Schedule.Rounds
import Southbound.Proofs.Announcement
import Southbound.Proofs.Counters
import Southbound.Proofs.Bursts
import Southbound.Proofs.Folder
import Southbound.Proofs.Rounds
import Southbound.Proofs.ScheduleView
import Southbound.Proofs.Settings
