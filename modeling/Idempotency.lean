import Idempotency.Decimal.Double
import Idempotency.Decimal.Shortest
import Idempotency.Decimal.Whole
import Idempotency.Digest.Hex
import Idempotency.Digest.Sha256
import Idempotency.Disk.Basic
import Idempotency.Disk.Path
import Idempotency.Event
import Idempotency.Fingerprint
import Idempotency.Guard.Basic
import Idempotency.Guard.Call
import Idempotency.Index
import Idempotency.Journal.Basic
import Idempotency.Journal.Replay
import Idempotency.Json.Basic
import Idempotency.Json.Literal
import Idempotency.Json.Number
import Idempotency.Json.Reader
import Idempotency.Json.Skip
import Idempotency.Json.Structure
import Idempotency.Json.Typed
import Idempotency.Json.Writer
import Idempotency.Lifetime
import Idempotency.Payload.Codec
import Idempotency.Payload.Kind
import Idempotency.Record.Basic
import Idempotency.Record.Line
import Idempotency.Refusal
import Idempotency.Service
import Idempotency.Session
import Idempotency.Settings
import Idempotency.SortedMap
import Idempotency.Store
import Idempotency.Text.Blank
import Idempotency.Text.Case
import Idempotency.Text.LowerCase
import Idempotency.Text.Printable
import Idempotency.Text.Quoted
import Idempotency.Text.Utf8
import Idempotency.Time.Calendar
import Idempotency.Time.Instant
import Idempotency.Time.Rfc3339
import Idempotency.Proofs.Time.Order
import Idempotency.Proofs.Guard.InMemory
import Idempotency.Proofs.Guard.Ledger
import Idempotency.Proofs.Race.Basic
import Idempotency.Proofs.Race.Turns
import Idempotency.Proofs.Race.SingleOwner
import Idempotency.Proofs.Race.Recorded
import Idempotency.Proofs.Decimal.Whole
import Idempotency.Proofs.Text.Utf8
import Idempotency.Proofs.Json.Literal
import Idempotency.Proofs.Json.Number
import Idempotency.Proofs.Json.Reader
import Idempotency.Proofs.Json.Structure
import Idempotency.Proofs.Time.Calendar
import Idempotency.Proofs.Time.Rfc3339
import Idempotency.Proofs.Json.Writer
import Idempotency.Proofs.Record.Line
import Idempotency.Proofs.Journal.Lines
import Idempotency.Proofs.Journal.Replay
import Idempotency.Proofs.Journal.Cover
import Idempotency.Proofs.Disk.Place
import Idempotency.Proofs.Disk.Writing
import Idempotency.Proofs.Journal.Stands
import Idempotency.Proofs.Journal.Refinement
import Idempotency.Proofs.Text.Blank
import Idempotency.Proofs.Text.Cut
import Idempotency.Proofs.Text.Order
import Idempotency.Proofs.Json.Steady.Basic
import Idempotency.Proofs.Json.Steady.Number
import Idempotency.Proofs.Json.Steady.Value
import Idempotency.Proofs.Record.Cut
import Idempotency.Proofs.Journal.Tail
import Idempotency.Proofs.Disk.Reopen
import Idempotency.Proofs.Disk.Frame
import Idempotency.Proofs.Disk.Extension
import Idempotency.Proofs.Journal.Reopen
import Idempotency.Proofs.Journal.Torn
import Idempotency.Proofs.Journal.Putting
import Idempotency.Proofs.Journal.Durable
import Idempotency.Proofs.Disk.Undisturbed
import Idempotency.Proofs.Store.Undisturbed
import Idempotency.Proofs.Json.Torn.Basic
import Idempotency.Proofs.Json.Torn.Value
import Idempotency.Proofs.Journal.Stray
import Idempotency.Proofs.Journal.Failed
import Idempotency.Proofs.Journal.Legible
import Idempotency.Proofs.Journal.Growth
import Idempotency.Proofs.Journal.Compacting
import Idempotency.Proofs.Journal.Broken
import Idempotency.Proofs.Journal.Canonical
import Idempotency.Proofs.Store.Putting
import Idempotency.Proofs.Guard.OnJournal
import Idempotency.Proofs.Guard.Happening
import Idempotency.Proofs.Guard.Restart
import Idempotency.Proofs.Guard.Failing
import Idempotency.Proofs.Guard.Entries
import Idempotency.Proofs.Fingerprint
import Idempotency.Proofs.Guard.Command
import Idempotency.Proofs.Guard.Accounts
import Idempotency.Proofs.Store.Lifecycle
import Idempotency.Proofs.Store.ByKey
import Idempotency.Proofs.Journal.Reordered
import Idempotency.Proofs.Fingerprint.Encoding
import Idempotency.Proofs.Text.LowerCase
import Idempotency.Proofs.Fingerprint.Standard
import Idempotency.Proofs.Time.Nanoseconds
import Idempotency.Proofs.Guard.Window
import Idempotency.Proofs.SortedMap
import Idempotency.Proofs.Settings.Lifetimes
import Idempotency.Proofs.Json.Typed
import Idempotency.Proofs.Settings.Document
import Idempotency.Proofs.Decimal.Interval
import Idempotency.Proofs.Decimal.Shortest
import Idempotency.Proofs.Decimal.Layout
import Idempotency.Proofs.Json.Same
import Idempotency.Proofs.Json.Unambiguous
import Idempotency.Proofs.Fingerprint.Request
