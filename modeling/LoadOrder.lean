import LoadOrder.Main
import LoadOrder.Terminal.Screen
import LoadOrder.Terminal.Clipboard
import LoadOrder.Proofs.Filter.Marks
import LoadOrder.Proofs.Filter.Count
import LoadOrder.Proofs.Totals.Balance
import LoadOrder.Proofs.Conflict.Courier
import LoadOrder.Proofs.Conflict.Failure
import LoadOrder.Proofs.Conflict.Delivery
import LoadOrder.Proofs.Plugin.Reported
import LoadOrder.Proofs.Plugin.Texts
import LoadOrder.Proofs.Conflict.Merge
import LoadOrder.Proofs.Conflict.Overlay
import LoadOrder.Proofs.Session.Refresh
import LoadOrder.Proofs.Session.Run
import LoadOrder.Proofs.Session.Balance
import LoadOrder.Proofs.Session.Reached
import LoadOrder.Proofs.Session.Settled
import LoadOrder.Proofs.Session.Late
import LoadOrder.Proofs.Session.Marks
import LoadOrder.Proofs.Session.Failed
import LoadOrder.Proofs.Session.Requests
import LoadOrder.Proofs.Session.Schedules
import LoadOrder.Proofs.Session.Again
import LoadOrder.Proofs.Session.Texts
import LoadOrder.Proofs.Session.Count
import LoadOrder.Proofs.Session.Lasting
import LoadOrder.Proofs.Session.Rows
import LoadOrder.Proofs.Session.Criteria
import LoadOrder.Proofs.Terminal.Desk
import LoadOrder.Proofs.Json.Path
import LoadOrder.Proofs.Json.Reading
import LoadOrder.Proofs.Json.Update
import LoadOrder.Proofs.Json.Printed
import LoadOrder.Proofs.Json.Record
import LoadOrder.Proofs.Json.Saved
import LoadOrder.Proofs.Plugin.Strict
import LoadOrder.Proofs.Plugin.Lenient
import LoadOrder.Proofs.Snapshot.Places
import LoadOrder.Proofs.Snapshot.Revival
import LoadOrder.Proofs.Snapshot.Layout
import LoadOrder.Proofs.Snapshot.Order
import LoadOrder.Proofs.Snapshot.Leniency
import LoadOrder.Proofs.Command.Listed
import LoadOrder.Proofs.Command.Listing
import LoadOrder.Proofs.Command.Conflicts
import LoadOrder.Proofs.Command.Usage
import LoadOrder.Proofs.Config.RoundTrip
import LoadOrder.Proofs.Store.Kept
import LoadOrder.Proofs.Config.Saved
import LoadOrder.Proofs.Command.Files
import LoadOrder.Proofs.Conflict.Scope
import LoadOrder.Proofs.Terminal.Editing
import LoadOrder.Proofs.Session.Restored
import LoadOrder.Proofs.Text.Lowercase
import LoadOrder.Proofs.Filter.Search
import LoadOrder.Proofs.Totals.Edits
import LoadOrder.Proofs.Filter.Narrowing
import LoadOrder.Proofs.Text.Lowered
import LoadOrder.Proofs.Filter.Hiding
import LoadOrder.Proofs.Plugin.Tags
import LoadOrder.Proofs.Text.Trimmed
import LoadOrder.Proofs.Command.Composed
import LoadOrder.Proofs.Json.Reprinted
import LoadOrder.Proofs.Conflict.Stored
import LoadOrder.Proofs.Conflict.Silent
import LoadOrder.Proofs.Session.Scrolled
import LoadOrder.Proofs.Terminal.Scrollback
import LoadOrder.Proofs.Terminal.Rounds
import LoadOrder.Proofs.Terminal.StatusBar
