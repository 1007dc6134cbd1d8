import ChatMarkup.Placeholder.Shelf
import ChatMarkup.Session
import ChatMarkup.Standard
import ChatMarkup.Snippet
import ChatMarkup.Proofs.Span.Partition
import ChatMarkup.Proofs.Span.Exhaustive
import ChatMarkup.Proofs.Span.Grammar
import ChatMarkup.Proofs.Span.Rendering
import ChatMarkup.Proofs.Placeholder.Region
import ChatMarkup.Proofs.Placeholder.Marked
import ChatMarkup.Proofs.Convert.Piecewise
import ChatMarkup.Proofs.MarkdownV2.Reader
import ChatMarkup.Proofs.MarkdownV2.ReadBack
import ChatMarkup.Proofs.MarkdownV2.AlreadyEscaped
import ChatMarkup.Proofs.MarkdownV2.Delimiter
import ChatMarkup.Proofs.Convert.Kept
import ChatMarkup.Proofs.Convert.Length
import ChatMarkup.Proofs.Convert.Platform
import ChatMarkup.Proofs.Text.Apart
import ChatMarkup.Proofs.Span.Alone
import ChatMarkup.Proofs.Convert.Snippet
import ChatMarkup.Proofs.Convert.Outcome
import ChatMarkup.Proofs.Span.Lines
import ChatMarkup.Proofs.Convert.Lines
import ChatMarkup.Proofs.Span.Exchange
import ChatMarkup.Proofs.Convert.Exchange
import ChatMarkup.Proofs.Text.Preceded
import ChatMarkup.Proofs.MarkdownV2.Complete
import ChatMarkup.Proofs.Placeholder.Numbered
import ChatMarkup.Proofs.Placeholder.Shelf
import ChatMarkup.Proofs.Placeholder.Filled
import ChatMarkup.Proofs.Session.Remembered
import ChatMarkup.Proofs.Log.Sinks
import ChatMarkup.Proofs.Log.Lawful
import ChatMarkup.Proofs.Log.History
import ChatMarkup.Proofs.Session.Logged
import ChatMarkup.Proofs.Text.Protected
import ChatMarkup.Proofs.MarkdownV2.Closing
import ChatMarkup.Proofs.Span.Rebuilt
import ChatMarkup.Proofs.Span.Angled
import ChatMarkup.Proofs.Span.Neighbours
import ChatMarkup.Proofs.Span.Soundness
import ChatMarkup.Proofs.Text.Paired
import ChatMarkup.Proofs.Placeholder.Alternating
import ChatMarkup.Proofs.Text.Occurrences
import ChatMarkup.Proofs.Span.Fences
import ChatMarkup.Proofs.Convert.Recorded
import ChatMarkup.Proofs.Session.Recorded
import ChatMarkup.Proofs.Json.Reader
import ChatMarkup.Proofs.Json.ReadBack
import ChatMarkup.Proofs.Json.OneLine
import ChatMarkup.Proofs.Log.Line
import ChatMarkup.Proofs.Session.Written
import ChatMarkup.Proofs.Settings.Duplicates
import ChatMarkup.Proofs.Settings.Lawful
import ChatMarkup.Proofs.Settings.Winner
import ChatMarkup.Proofs.Settings.Field
import ChatMarkup.Proofs.Settings.Resolved
import ChatMarkup.Proofs.Session.Refused
import ChatMarkup.Proofs.Placeholder.Cuts
