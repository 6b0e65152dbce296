import ListenerReview.Main
import ListenerReview.Proofs.Layout.Ceiling
import ListenerReview.Proofs.Layout.Transparent
import ListenerReview.Proofs.Layout.Queue
import ListenerReview.Proofs.Layout.Requests
import ListenerReview.Proofs.Layout.Arrivals
import ListenerReview.Proofs.Layout.Counts
import ListenerReview.Proofs.Session.History
import ListenerReview.Proofs.Session.Invalidation
import ListenerReview.Proofs.Session.Totals
import ListenerReview.Proofs.Highlight.Order
import ListenerReview.Proofs.Highlight.Pieces
import ListenerReview.Proofs.Highlight.Priority
import ListenerReview.Proofs.Markup.Tags
import ListenerReview.Proofs.Highlight.Spans
import ListenerReview.Proofs.Markup.Decoded
import ListenerReview.Proofs.Highlight.Escaped
import ListenerReview.Proofs.Highlight.Redundant
import ListenerReview.Proofs.Report.Skeleton
import ListenerReview.Proofs.Layout.Quotation
import ListenerReview.Proofs.Layout.Segments
import ListenerReview.Proofs.Layout.Relayout
import ListenerReview.Proofs.Layout.Kept
import ListenerReview.Proofs.Layout.NormalForm
import ListenerReview.Proofs.Layout.Levels
import ListenerReview.Proofs.Layout.Physical
import ListenerReview.Proofs.Rules.Normal
import ListenerReview.Proofs.Rules.Ordered
import ListenerReview.Proofs.Rules.Reading
import ListenerReview.Proofs.Json.Strings
import ListenerReview.Proofs.Json.Written
import ListenerReview.Proofs.Json.Numbers
import ListenerReview.Proofs.Json.Values
import ListenerReview.Proofs.Report.Decoded
import ListenerReview.Proofs.Rules.Written
import ListenerReview.Proofs.Files.Tree
import ListenerReview.Proofs.Program.Writing
import ListenerReview.Proofs.Program.SavedRules
import ListenerReview.Proofs.Program.Acts
import ListenerReview.Proofs.Program.InStep
import ListenerReview.Proofs.Program.Diagnostics
import ListenerReview.Proofs.Program.Delivery
import ListenerReview.Proofs.Program.Saving
import ListenerReview.Proofs.Program.ObtainedRules
import ListenerReview.Proofs.Program.Published
import ListenerReview.Proofs.Layout.Balance
import ListenerReview.Proofs.Layout.Distinct
import ListenerReview.Proofs.Session.Repeats
import ListenerReview.Proofs.Rules.Indexes
import ListenerReview.Proofs.Listener.Payload
