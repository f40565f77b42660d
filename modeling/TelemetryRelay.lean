import TelemetryRelay.Relay
import TelemetryRelay.Settings
import TelemetryRelay.Proofs.Batch
import TelemetryRelay.Proofs.Intake
import TelemetryRelay.Proofs.History
import TelemetryRelay.Proofs.Conservation
import TelemetryRelay.Proofs.FailedFlush
import TelemetryRelay.Proofs.InternalSeries
import TelemetryRelay.Proofs.Alert
import TelemetryRelay.Proofs.Accounts
import TelemetryRelay.Proofs.Utf8
import TelemetryRelay.Proofs.Datagram
import TelemetryRelay.Proofs.TagDigest
import TelemetryRelay.Proofs.Rounding
import TelemetryRelay.Proofs.Grouping
import TelemetryRelay.Proofs.Numeral
import TelemetryRelay.Proofs.WellFormed
import TelemetryRelay.Proofs.Separators
import TelemetryRelay.Proofs.ByteOrder
import TelemetryRelay.Proofs.Payload
import TelemetryRelay.Proofs.Custody
import TelemetryRelay.Proofs.TagOrder
import TelemetryRelay.Proofs.ReadBack
import TelemetryRelay.Proofs.Restoring
import TelemetryRelay.Proofs.Interleaving
import TelemetryRelay.Proofs.Skipping
import TelemetryRelay.Proofs.WholeValues
import TelemetryRelay.Proofs.Parts
import TelemetryRelay.Proofs.Numbers
import TelemetryRelay.Proofs.Decoding
import TelemetryRelay.Proofs.Timestamp
import TelemetryRelay.Proofs.QueryPairs
import TelemetryRelay.Proofs.DatabaseUrl
import TelemetryRelay.Proofs.Grammar
import TelemetryRelay.Proofs.Locality
import TelemetryRelay.Proofs.Members
import TelemetryRelay.Proofs.Rearrangement
import TelemetryRelay.Proofs.Scalars
import TelemetryRelay.Proofs.Spelling
import TelemetryRelay.Proofs.Overriding
import TelemetryRelay.Proofs.SettingsFile
import TelemetryRelay.Proofs.Nearest
import TelemetryRelay.Proofs.CounterOrder
