import OrderDesk.CancelToken
import OrderDesk.Simulation.Cache
import OrderDesk.Simulation.Desk
import OrderDesk.Simulation.Retry
import OrderDesk.Proofs.Cache.Independence
import OrderDesk.Proofs.Cache.Outcomes
import OrderDesk.Proofs.Cache.Publication
import OrderDesk.Proofs.Desk.Attempts
import OrderDesk.Proofs.Desk.Cancellation
import OrderDesk.Proofs.Desk.Conflicts
import OrderDesk.Proofs.Desk.History
import OrderDesk.Proofs.Desk.Identification
import OrderDesk.Proofs.Desk.Naming
import OrderDesk.Proofs.Desk.Pauses
import OrderDesk.Proofs.Desk.Reconciling
import OrderDesk.Proofs.Desk.Records
import OrderDesk.Proofs.Desk.Rejections
import OrderDesk.Proofs.Desk.Resubmission
import OrderDesk.Proofs.Desk.Targets
import OrderDesk.Proofs.Fingerprint.Identity
import OrderDesk.Proofs.RateLimit.History
import OrderDesk.Proofs.Retry.Specification
import OrderDesk.Proofs.Venue.Contents
import OrderDesk.Proofs.Venue.Statuses
import OrderDesk.Proofs.Desk.Recognition
import OrderDesk.Proofs.Decimal.Reading
import OrderDesk.Proofs.Order.Form
import OrderDesk.Proofs.Desk.Rebuilding
import OrderDesk.Proofs.Cache.Passes
import OrderDesk.Proofs.Settings.Validity
import OrderDesk.Proofs.Desk.Choices
import OrderDesk.Proofs.Number.Nearest
import OrderDesk.Proofs.Number.Growth
import OrderDesk.Proofs.Duration.Seconds
import OrderDesk.Proofs.Retry.Delays
