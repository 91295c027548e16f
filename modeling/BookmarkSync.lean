import BookmarkSync.Dav.Client
import BookmarkSync.Dav.Script
import BookmarkSync.Proofs.Codec.Agreement
import BookmarkSync.Proofs.Codec.Grammar
import BookmarkSync.Proofs.Codec.RoundTrip
import BookmarkSync.Proofs.Codec.Texts
import BookmarkSync.Proofs.Dav.Addressing
import BookmarkSync.Proofs.Dav.Logins
import BookmarkSync.Proofs.Dav.MissingTail
import BookmarkSync.Proofs.Dav.Operations
import BookmarkSync.Proofs.Dav.Resources
import BookmarkSync.Proofs.Json.Printed
import BookmarkSync.Proofs.Json.RoundTrip
import BookmarkSync.Proofs.Merge.Active
import BookmarkSync.Proofs.Merge.Expiry
import BookmarkSync.Proofs.Merge.Kept
import BookmarkSync.Proofs.Merge.Laws
import BookmarkSync.Proofs.Merge.Reference
import BookmarkSync.Proofs.Remote.Configured
import BookmarkSync.Proofs.Remote.Lasting
import BookmarkSync.Proofs.Remote.Overheard
import BookmarkSync.Proofs.Remote.Paths
import BookmarkSync.Proofs.Remote.ReadBack
import BookmarkSync.Proofs.Remote.Recorded
import BookmarkSync.Proofs.Schedule.Course
import BookmarkSync.Proofs.Schedule.Once
import BookmarkSync.Proofs.Schedule.Order
import BookmarkSync.Proofs.Schedule.Pending
import BookmarkSync.Proofs.Schedule.Telling
import BookmarkSync.Proofs.Store.Atomic
import BookmarkSync.Proofs.Store.Backup
import BookmarkSync.Proofs.Store.Changes
import BookmarkSync.Proofs.Store.Entries
import BookmarkSync.Proofs.Store.NormalForm
import BookmarkSync.Proofs.Store.PlainList
import BookmarkSync.Proofs.Store.Reopen
import BookmarkSync.Proofs.Sync.Actions
import BookmarkSync.Proofs.Sync.Bookkeeping
import BookmarkSync.Proofs.Sync.Convergence
import BookmarkSync.Proofs.Sync.Course
import BookmarkSync.Proofs.Sync.CycleInduction
import BookmarkSync.Proofs.Sync.CycleOutcome
import BookmarkSync.Proofs.Sync.CycleRun
import BookmarkSync.Proofs.Sync.Deferral
import BookmarkSync.Proofs.Sync.Delay
import BookmarkSync.Proofs.Sync.Deletions
import BookmarkSync.Proofs.Sync.EndToEnd
import BookmarkSync.Proofs.Sync.Erasure
import BookmarkSync.Proofs.Sync.Exchange
import BookmarkSync.Proofs.Sync.InForce
import BookmarkSync.Proofs.Sync.LocalEdits
import BookmarkSync.Proofs.Sync.Patching
import BookmarkSync.Proofs.Sync.Plan
import BookmarkSync.Proofs.Sync.Repetition
import BookmarkSync.Proofs.Sync.Requests
import BookmarkSync.Proofs.Sync.Searching
import BookmarkSync.Proofs.Sync.Secrecy
import BookmarkSync.Proofs.Sync.SingleFlight
import BookmarkSync.Proofs.Sync.Spacing
import BookmarkSync.Proofs.Sync.Toggling
import BookmarkSync.Proofs.Sync.Uploads
import BookmarkSync.Proofs.Sync.Window
import BookmarkSync.Proofs.Text.InContext
import BookmarkSync.Proofs.Text.Percent
import BookmarkSync.Proofs.Text.Utf8
import BookmarkSync.Proofs.Url.HostText
import BookmarkSync.Proofs.Url.PlainHost
import BookmarkSync.Proofs.Url.Reading
import BookmarkSync.Remote.Memory
import BookmarkSync.Schedule.Run
import BookmarkSync.Store.Volume
import BookmarkSync.Sync.Editor
import BookmarkSync.Sync.Session
