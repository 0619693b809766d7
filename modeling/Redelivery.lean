import Redelivery.Table.Lemmas
import Redelivery.Delivery.Resolver
import Redelivery.Ledger.Store
import Redelivery.Logging.Level
import Redelivery.Cli.Tool
import Redelivery.Main
import Redelivery.Proofs.Ledger.Lookup
import Redelivery.Proofs.Binary.Forms
import Redelivery.Proofs.Ledger.Format
import Redelivery.Proofs.Resend.Timers
import Redelivery.Proofs.Resend.Operations
import Redelivery.Proofs.Resend.Streams
import Redelivery.Proofs.Resend.Transition
import Redelivery.Proofs.Resend.Coherence
import Redelivery.Proofs.Resend.Messages
import Redelivery.Proofs.Resend.Runs
import Redelivery.Proofs.Resend.Delivery
import Redelivery.Proofs.Resend.Followers
import Redelivery.Proofs.Resend.Reports
import Redelivery.Proofs.Resend.Announcements
import Redelivery.Proofs.Resend.Listening
import Redelivery.Proofs.Resend.Attendance
import Redelivery.Proofs.Resend.Desertion
import Redelivery.Proofs.Resend.Claims
import Redelivery.Proofs.Resend.Journal
import Redelivery.Proofs.Resend.Saving
import Redelivery.Proofs.Resend.Crashes
import Redelivery.Proofs.Resend.Answers
import Redelivery.Proofs.Resend.Requests
import Redelivery.Proofs.Cli.Availability
import Redelivery.Proofs.Disk.Path
import Redelivery.Proofs.Disk.Tree
import Redelivery.Proofs.Disk.Faults
import Redelivery.Proofs.Ledger.File
import Redelivery.Proofs.Resend.Firing
import Redelivery.Proofs.Resend.Shutdown
import Redelivery.Proofs.Node.Restart
import Redelivery.Proofs.Resend.StoreFailures
import Redelivery.Proofs.Resend.Convergence
import Redelivery.Proofs.Resend.Verbatim
import Redelivery.Proofs.Resend.Separation
import Redelivery.Proofs.Resend.Interference
import Redelivery.Proofs.Resend.Stranded
import Redelivery.Proofs.Resend.Exhaustion
import Redelivery.Proofs.Resend.Takeover
import Redelivery.Proofs.Resend.Reconnections
import Redelivery.Proofs.Resend.TimerHistory
import Redelivery.Proofs.Resend.SaveOrder
import Redelivery.Proofs.Binary.Rereading
import Redelivery.Proofs.Ledger.Pruning
import Redelivery.Proofs.Cli.Pruning
import Redelivery.Proofs.Ledger.Filing
import Redelivery.Proofs.Disk.Spelling
import Redelivery.Proofs.Ledger.Location
import Redelivery.Proofs.Delivery.Resolving
import Redelivery.Proofs.Calendar.Dates
import Redelivery.Proofs.Calendar.Timestamps
import Redelivery.Proofs.Cli.Expiry
import Redelivery.Proofs.Ledger.Lifespan
