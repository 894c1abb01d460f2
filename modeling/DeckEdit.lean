import DeckEdit.CommandLine.Run
import DeckEdit.Main
import DeckEdit.Session
import DeckEdit.Proofs.Deck.LockSafety
import DeckEdit.Proofs.Deck.LastWrite
import DeckEdit.Proofs.Edit.Run
import DeckEdit.Proofs.Edit.Containment
import DeckEdit.Proofs.Span.Walk
import DeckEdit.Proofs.Span.Json
import DeckEdit.Proofs.Span.Prose
import DeckEdit.Proofs.Reply
import DeckEdit.Proofs.Span.Cut
import DeckEdit.Proofs.Edit.Truncated
import DeckEdit.Proofs.Deck.Accounting
import DeckEdit.Proofs.Edit.Accounting
import DeckEdit.Proofs.Deck.Outline
import DeckEdit.Proofs.Deck.Reach
import DeckEdit.Proofs.Copy
import DeckEdit.Proofs.Target
import DeckEdit.Proofs.Edit.Blocked
import DeckEdit.Proofs.Number.Binary64
import DeckEdit.Proofs.Patch.Spelling
import DeckEdit.Proofs.Patch.Contract
import DeckEdit.Proofs.Deck.LockCheck
import DeckEdit.Proofs.Deck.Batch
import DeckEdit.Proofs.Deck.Layout
import DeckEdit.Proofs.Deck.Overwrite
import DeckEdit.Proofs.Deck.Retry
import DeckEdit.Proofs.Text
import DeckEdit.Proofs.Lock.Spelling
import DeckEdit.Proofs.Lock.Agreement
import DeckEdit.Proofs.Deck.Identity
import DeckEdit.Proofs.Number.Numeral
import DeckEdit.Proofs.Deck.LockReport
import DeckEdit.Proofs.Patch.Json
import DeckEdit.Proofs.Reply.Record
import DeckEdit.Proofs.Edit.Total
import DeckEdit.Proofs.CommandLine.Allow
import DeckEdit.Proofs.CommandLine.Unreadable
import DeckEdit.Proofs.CommandLine.Fault
import DeckEdit.Proofs.Deck.Reorder
import DeckEdit.Proofs.Patch.Wire
import DeckEdit.Proofs.Span.Exact
import DeckEdit.Proofs.Json.Token
import DeckEdit.Proofs.Json.Fits
import DeckEdit.Proofs.Json.Atom
import DeckEdit.Proofs.Json.RoundTrip
import DeckEdit.Proofs.Json.Texts
import DeckEdit.Proofs.Text.Utf8
import DeckEdit.Proofs.Edit.Fits
import DeckEdit.Proofs.CommandLine.Output
import DeckEdit.Proofs.Deck.Failure
import DeckEdit.Proofs.Text.Sorted
import DeckEdit.Proofs.Target.AllowList
import DeckEdit.Proofs.Summary
import DeckEdit.Proofs.Edit.BlockedCount
import DeckEdit.Proofs.Edit.Copy
import DeckEdit.Proofs.Patch.Items
import DeckEdit.Proofs.Patch.Unread
import DeckEdit.Proofs.Deck.LockGrowth
import DeckEdit.Proofs.Lock.Shape
import DeckEdit.Proofs.Lock.References
import DeckEdit.Proofs.Target.Key
import DeckEdit.Proofs.Edit.Phrases
import DeckEdit.Proofs.CommandLine.Files
import DeckEdit.Proofs.Deck.Tally
import DeckEdit.Proofs.Target.Policy
import DeckEdit.Proofs.CommandLine.Path
import DeckEdit.Proofs.Session
