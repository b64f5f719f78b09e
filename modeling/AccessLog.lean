import AccessLog.App.Turns
import AccessLog.Main
import AccessLog.Proofs.Calendar
import AccessLog.Proofs.Event
import AccessLog.Proofs.Json.Reader
import AccessLog.Proofs.Lines
import AccessLog.Proofs.Lines.Torn
import AccessLog.Proofs.Plain
import AccessLog.Proofs.Relay
import AccessLog.Proofs.Text.Utf8
import AccessLog.Proofs.Trace
import AccessLog.Proofs.Trace.Line
import AccessLog.Proofs.Trace.Recorded
import AccessLog.Proofs.Uuid
import AccessLog.Proofs.Correlation
import AccessLog.Proofs.Deferred
import AccessLog.Proofs.Decimal.Reader
import AccessLog.Proofs.Diagnostic
import AccessLog.Proofs.RequestId
import AccessLog.Proofs.Uuid.Spelling
import AccessLog.Proofs.Blacklist
import AccessLog.Proofs.Blacklist.Configured
import AccessLog.Proofs.Text.Lowercase
import AccessLog.Proofs.Text.Pieces
import AccessLog.Proofs.Text.SmallLetters
import AccessLog.Proofs.Pipeline
import AccessLog.Proofs.Malformed
import AccessLog.Proofs.Tally
import AccessLog.Proofs.Chain
import AccessLog.Proofs.Stations
import AccessLog.Proofs.Unaltered
import AccessLog.Proofs.Startup
import AccessLog.Proofs.Logging
import AccessLog.Proofs.ResponseSize
import AccessLog.Proofs.Ledger
import AccessLog.Proofs.Interleaving
import AccessLog.Proofs.Decimal.Whole
import AccessLog.Proofs.Exposition
import AccessLog.Proofs.Report
import AccessLog.Proofs.HeaderFields
import AccessLog.Proofs.Blocked
import AccessLog.Proofs.Shutdown
import AccessLog.Proofs.RequestId.Reading
import AccessLog.Proofs.Calendar.Years
import AccessLog.Proofs.Elapsed
import AccessLog.Proofs.Summary
import AccessLog.Proofs.Calendar.TextOrder
import AccessLog.Proofs.Timestamp
import AccessLog.Proofs.BodySize
import AccessLog.Proofs.Address
import AccessLog.Proofs.Chain.Calls
import AccessLog.Proofs.Settings
import AccessLog.Proofs.Diagnostic.Guards
import AccessLog.Proofs.ResponseHeaders
import AccessLog.Proofs.Snapshot
import AccessLog.Proofs.Summary.Time
import AccessLog.Proofs.Settings.Lists
