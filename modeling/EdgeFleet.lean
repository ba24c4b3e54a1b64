import EdgeFleet.Main
import EdgeFleet.Script.Session
import EdgeFleet.Proofs.Accounting
import EdgeFleet.Proofs.Attempt
import EdgeFleet.Proofs.Base64
import EdgeFleet.Proofs.Calls
import EdgeFleet.Proofs.Changes
import EdgeFleet.Proofs.Credentials
import EdgeFleet.Proofs.Json.Codec
import EdgeFleet.Proofs.Json.Numeral
import EdgeFleet.Proofs.Json.Scan
import EdgeFleet.Proofs.Pool
import EdgeFleet.Proofs.Table
import EdgeFleet.Proofs.Tokens
import EdgeFleet.Proofs.Tunnels
import EdgeFleet.Proofs.Utf8
import EdgeFleet.Proofs.Rows
import EdgeFleet.Proofs.Store
import EdgeFleet.Proofs.Indices
import EdgeFleet.Proofs.Registry
import EdgeFleet.Proofs.Service
import EdgeFleet.Proofs.Consistency
import EdgeFleet.Proofs.Handover
import EdgeFleet.Proofs.Neighbours
import EdgeFleet.Proofs.Requests
import EdgeFleet.Proofs.Expiry
import EdgeFleet.Proofs.Persistence
import EdgeFleet.Proofs.Creation
import EdgeFleet.Proofs.Separation
import EdgeFleet.Proofs.Erasure
import EdgeFleet.Proofs.Verification
import EdgeFleet.Proofs.Conflicts
import EdgeFleet.Proofs.Queues
import EdgeFleet.Proofs.Openings
import EdgeFleet.Proofs.Settings
import EdgeFleet.Proofs.RecordMap
import EdgeFleet.Proofs.Reports
import EdgeFleet.Proofs.Json.Collections
import EdgeFleet.Proofs.Calendar
import EdgeFleet.Proofs.Records
import EdgeFleet.Proofs.Decimal
import EdgeFleet.Proofs.Enrollment
import EdgeFleet.Proofs.Staleness
import EdgeFleet.Proofs.Glimpses
import EdgeFleet.Proofs.Noninterference
import EdgeFleet.Proofs.Waiters
import EdgeFleet.Proofs.Waiting
import EdgeFleet.Proofs.Failures
import EdgeFleet.Proofs.Polls
import EdgeFleet.Proofs.Liveness
import EdgeFleet.Proofs.Lending
import EdgeFleet.Proofs.Holdings
import EdgeFleet.Proofs.Exhaustion
import EdgeFleet.Proofs.Reopening
import EdgeFleet.Proofs.Forgetting
import EdgeFleet.Proofs.Rebuilding
import EdgeFleet.Proofs.Enrolling
import EdgeFleet.Proofs.Range
