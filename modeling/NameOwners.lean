import NameOwners.Config.Reader
import NameOwners.Index.Lookup
import NameOwners.Main
import NameOwners.Proofs.Dns.Dots
import NameOwners.Proofs.Filtering
import NameOwners.Proofs.Index.Cell
import NameOwners.Proofs.Index.Isolation
import NameOwners.Proofs.Index.LabelLookup
import NameOwners.Proofs.Index.LateDeletion
import NameOwners.Proofs.Index.LiveOwners
import NameOwners.Proofs.System.Delivery
import NameOwners.Proofs.System.Lifecycle
import NameOwners.Proofs.System.Shutdown
import NameOwners.Proofs.Index.Applied
import NameOwners.Proofs.Index.ListingOrder
import NameOwners.Proofs.System.Gauges
import NameOwners.Proofs.Replay
import NameOwners.Proofs.Json.Written
import NameOwners.Proofs.Notification.Reading
import NameOwners.Proofs.Index.Replacement
import NameOwners.Proofs.Index.Redelivery
import NameOwners.Proofs.Startup
import NameOwners.Proofs.System.SyncWait
import NameOwners.Proofs.Dns.Reading
import NameOwners.Proofs.Index.NameIdentity
import NameOwners.Proofs.Index.Reachability
import NameOwners.Proofs.Json.Record
import NameOwners.Proofs.Registration
import NameOwners.Proofs.Notification.Classification
import NameOwners.Proofs.Index.Undoing
import NameOwners.Proofs.Accounting
import NameOwners.Proofs.System.Construction
import NameOwners.Proofs.System.Joining
import NameOwners.Proofs.Config.Forms
