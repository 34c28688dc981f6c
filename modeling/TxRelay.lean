import TxRelay.Api.Answer
import TxRelay.Api.Body
import TxRelay.Api.Command
import TxRelay.Api.MediaType
import TxRelay.Api.Route
import TxRelay.Api.Service
import TxRelay.Broadcast
import TxRelay.Bytes
import TxRelay.Bytes.Hex
import TxRelay.Clock
import TxRelay.Confirmation
import TxRelay.Decimal.Binary64
import TxRelay.Decimal.Shortest
import TxRelay.Failure
import TxRelay.Fleet
import TxRelay.Json.Described
import TxRelay.Json.Magnitude
import TxRelay.Json.Parser
import TxRelay.Json.Token
import TxRelay.Json.Value
import TxRelay.Keccak
import TxRelay.Main
import TxRelay.Metrics.Exposition
import TxRelay.Metrics.Registry
import TxRelay.Nonce.Table
import TxRelay.Nonce.Tracker
import TxRelay.Program
import TxRelay.Proofs.Api.Account
import TxRelay.Proofs.Api.Attribution
import TxRelay.Proofs.Api.Chronicle
import TxRelay.Proofs.Api.Daybook
import TxRelay.Proofs.Api.Errand
import TxRelay.Proofs.Api.Move
import TxRelay.Proofs.Api.Nonces
import TxRelay.Proofs.Api.Posting
import TxRelay.Proofs.Api.Reach
import TxRelay.Proofs.Api.Readiness
import TxRelay.Proofs.Api.Submissions
import TxRelay.Proofs.Api.Visit
import TxRelay.Proofs.Broadcast.Alone
import TxRelay.Proofs.Broadcast.Attempts
import TxRelay.Proofs.Broadcast.Handover
import TxRelay.Proofs.Broadcast.Phrases
import TxRelay.Proofs.Broadcast.Step
import TxRelay.Proofs.Broadcast.Tries
import TxRelay.Proofs.Bytes.Spelling
import TxRelay.Proofs.Confirmation.Alone
import TxRelay.Proofs.Confirmation.Cadence
import TxRelay.Proofs.Confirmation.Lookups
import TxRelay.Proofs.Confirmation.Prospect
import TxRelay.Proofs.Confirmation.Step
import TxRelay.Proofs.Decimal.Whole
import TxRelay.Proofs.Fleet.Probe
import TxRelay.Proofs.Fleet.Routing
import TxRelay.Proofs.Fleet.Silence
import TxRelay.Proofs.Fleet.Walk
import TxRelay.Proofs.Metrics.Buckets
import TxRelay.Proofs.Metrics.Confirmations
import TxRelay.Proofs.Metrics.Counting
import TxRelay.Proofs.Nonce.Bookkeeping
import TxRelay.Proofs.Nonce.Gapless
import TxRelay.Proofs.Nonce.Journal
import TxRelay.Proofs.Nonce.Linear
import TxRelay.Proofs.Nonce.Move
import TxRelay.Proofs.Nonce.Setbacks
import TxRelay.Proofs.Nonce.Turns
import TxRelay.Proofs.Onward
import TxRelay.Proofs.Provider.Circle
import TxRelay.Proofs.Provider.Overlap
import TxRelay.Proofs.Provider.Talk
import TxRelay.Proofs.Queue.Answers
import TxRelay.Proofs.Queue.Backpressure
import TxRelay.Proofs.Queue.Bystanders
import TxRelay.Proofs.Queue.Chronicle
import TxRelay.Proofs.Queue.Confirmed
import TxRelay.Proofs.Queue.Conservation
import TxRelay.Proofs.Queue.Course
import TxRelay.Proofs.Queue.Effect
import TxRelay.Proofs.Queue.Flight
import TxRelay.Proofs.Queue.History
import TxRelay.Proofs.Queue.Leaving
import TxRelay.Proofs.Queue.Ledger
import TxRelay.Proofs.Queue.Lifecycle
import TxRelay.Proofs.Queue.Line
import TxRelay.Proofs.Queue.Loss
import TxRelay.Proofs.Queue.Move
import TxRelay.Proofs.Queue.Origin
import TxRelay.Proofs.Queue.Outlook
import TxRelay.Proofs.Queue.Places
import TxRelay.Proofs.Queue.Punctual
import TxRelay.Proofs.Queue.Readings
import TxRelay.Proofs.Queue.Record
import TxRelay.Proofs.Queue.Refinement
import TxRelay.Proofs.Queue.Register
import TxRelay.Proofs.Queue.Runs
import TxRelay.Proofs.Queue.Schedule
import TxRelay.Proofs.Queue.Sequential
import TxRelay.Proofs.Queue.Served
import TxRelay.Proofs.Queue.Shutdown
import TxRelay.Proofs.Queue.Step
import TxRelay.Proofs.Queue.Touch
import TxRelay.Proofs.Queue.Tracking
import TxRelay.Proofs.Queue.Ways
import TxRelay.Proofs.Replies
import TxRelay.Proofs.Settings.Chains
import TxRelay.Proofs.Settings.Protection
import TxRelay.Proofs.Settings.Rules
import TxRelay.Proofs.Settings.Substitution
import TxRelay.Proofs.Timed
import TxRelay.Provider
import TxRelay.Queue.Basic
import TxRelay.Queue.Command
import TxRelay.Queue.Run
import TxRelay.Queue.Worker
import TxRelay.Rpc.Basic
import TxRelay.Rpc.Result
import TxRelay.Script
import TxRelay.Script.Endpoints
import TxRelay.Server
import TxRelay.Settings.Basic
import TxRelay.Settings.Decode
import TxRelay.Settings.Load
import TxRelay.Settings.Placeholder
import TxRelay.Silence
import TxRelay.Submission
import TxRelay.Submission.Id
import TxRelay.Surroundings
import TxRelay.Text.Composition
import TxRelay.Text.Kind
import TxRelay.Text.Quoted
import TxRelay.Text.Table
import TxRelay.Toml.Document
import TxRelay.Toml.Scalar
import TxRelay.Toml.Value
import TxRelay.Url.Authority
import TxRelay.Url.Basic
import TxRelay.Url.Host
import TxRelay.Url.Idna.Direction
import TxRelay.Url.Idna.Domain
import TxRelay.Url.Idna.Joining
import TxRelay.Url.Idna.Mapping
import TxRelay.Url.LocalFile
import TxRelay.Url.Path
import TxRelay.Url.Percent
import TxRelay.Url.Punycode
import TxRelay.Url.Scheme
