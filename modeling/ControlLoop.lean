import ControlLoop.Action.Basic
import ControlLoop.Action.Pipeline
import ControlLoop.Action.Sequence
import ControlLoop.Action.Switch
import ControlLoop.Bag
import ControlLoop.Binary64.Basic
import ControlLoop.Binary64.Decimal
import ControlLoop.Cancellation
import ControlLoop.Clock
import ControlLoop.Condition.Basic
import ControlLoop.Condition.Set
import ControlLoop.Config.Backoff
import ControlLoop.Config.Basic
import ControlLoop.Config.Document
import ControlLoop.Context
import ControlLoop.Duration
import ControlLoop.Error
import ControlLoop.FailureCounts
import ControlLoop.Json.Printer
import ControlLoop.Json.Reader
import ControlLoop.Json.Value
import ControlLoop.Log
import ControlLoop.Object.Basic
import ControlLoop.Object.Wire
import ControlLoop.ObjectKey
import ControlLoop.Outcome
import ControlLoop.Predicate
import ControlLoop.Proofs.Action.Alike
import ControlLoop.Proofs.Action.Sequence
import ControlLoop.Proofs.Action.Switch
import ControlLoop.Proofs.Action.Visit
import ControlLoop.Proofs.Bag.Contents
import ControlLoop.Proofs.Binary64.Power
import ControlLoop.Proofs.Binary64.Rounding
import ControlLoop.Proofs.Binary64.Units
import ControlLoop.Proofs.Condition.Changes
import ControlLoop.Proofs.Condition.Clocks
import ControlLoop.Proofs.Condition.Flips
import ControlLoop.Proofs.Condition.Reading
import ControlLoop.Proofs.Condition.Recording
import ControlLoop.Proofs.Config.Delays
import ControlLoop.Proofs.Context.Descent
import ControlLoop.Proofs.Context.Handles
import ControlLoop.Proofs.Context.Past
import ControlLoop.Proofs.Error.Contexts
import ControlLoop.Proofs.Pipeline.Blindness
import ControlLoop.Proofs.Pipeline.Calls
import ControlLoop.Proofs.Pipeline.Chains
import ControlLoop.Proofs.Pipeline.Composition
import ControlLoop.Proofs.Pipeline.Confinement
import ControlLoop.Proofs.Pipeline.Courses
import ControlLoop.Proofs.Pipeline.Events
import ControlLoop.Proofs.Pipeline.Flattening
import ControlLoop.Proofs.Pipeline.LogTrail
import ControlLoop.Proofs.Pipeline.Rewrapping
import ControlLoop.Proofs.Pipeline.Signals
import ControlLoop.Proofs.Pipeline.Starts
import ControlLoop.Proofs.Predicate.Negations
import ControlLoop.Proofs.Reconciler.Bound
import ControlLoop.Proofs.Reconciler.Independence
import ControlLoop.Proofs.Reconciler.Ledger
import ControlLoop.Proofs.Reconciler.Passes
import ControlLoop.Proofs.Reconciler.Reports
import ControlLoop.Proofs.Reconciler.Retrying
import ControlLoop.Proofs.Reconciler.Service
import ControlLoop.Proofs.Reconciler.TimeLimit
import ControlLoop.Proofs.Run.Awaiting
import ControlLoop.Proofs.Run.Company
import ControlLoop.Proofs.Run.Joining
import ControlLoop.Proofs.Run.Keeping
import ControlLoop.Proofs.Run.Moving
import ControlLoop.Proofs.Run.Polling
import ControlLoop.Proofs.Run.Relating
import ControlLoop.Proofs.Run.Schedule
import ControlLoop.Proofs.Run.Turns
import ControlLoop.Proofs.Scope.Admission
import ControlLoop.Proofs.Scope.Agreement
import ControlLoop.Proofs.Scope.Composers
import ControlLoop.Proofs.Scope.Following
import ControlLoop.Proofs.Scope.Interleaving
import ControlLoop.Proofs.Scope.Within
import ControlLoop.Proofs.Script.Plans
import ControlLoop.Proofs.StatusUpdate.Application
import ControlLoop.Proofs.StatusUpdate.Building
import ControlLoop.Proofs.StatusUpdate.Calls
import ControlLoop.Proofs.StatusUpdate.Hooks
import ControlLoop.Proofs.StatusUpdate.Repetition
import ControlLoop.Proofs.StatusUpdate.Result
import ControlLoop.Proofs.StatusUpdate.Times
import ControlLoop.Proofs.Store.Atomicity
import ControlLoop.Proofs.Store.Clients
import ControlLoop.Proofs.Store.History
import ControlLoop.Proofs.Store.LostUpdates
import ControlLoop.Proofs.Store.Revisions
import ControlLoop.Proofs.Store.Update
import ControlLoop.Proofs.Text.Digits
import ControlLoop.Proofs.Text.Scans
import ControlLoop.Proofs.Time.Rfc3339
import ControlLoop.Proofs.Wire.Records
import ControlLoop.Proofs.Wire.RoundTrip
import ControlLoop.Reconciler
import ControlLoop.Run.Basic
import ControlLoop.Run.Combine
import ControlLoop.Run.Wait
import ControlLoop.Saturating
import ControlLoop.Script.Basic
import ControlLoop.Script.Effect
import ControlLoop.Script.Perform
import ControlLoop.Script.Plan
import ControlLoop.Script.Test
import ControlLoop.Script.Update
import ControlLoop.Session.Basic
import ControlLoop.Session.Contexts
import ControlLoop.Session.Passes
import ControlLoop.Session.Pipelines
import ControlLoop.Session.Records
import ControlLoop.Session.Stores
import ControlLoop.Signal
import ControlLoop.Span
import ControlLoop.Stamp
import ControlLoop.State
import ControlLoop.StatusUpdate.Basic
import ControlLoop.StatusUpdate.Builder
import ControlLoop.StatusUpdate.Display
import ControlLoop.Store
import ControlLoop.Telemetry.Filter
import ControlLoop.Telemetry.Setup
import ControlLoop.Text.Blank
import ControlLoop.Text.Digits
import ControlLoop.Text.Hidden
import ControlLoop.Text.Letter
import ControlLoop.Text.Quoted
import ControlLoop.Text.Scan
import ControlLoop.Time.Calendar
import ControlLoop.Time.Rfc3339
import ControlLoop.Toml.Reader
import ControlLoop.Toml.Scalar
import ControlLoop.Toml.Table
import ControlLoop.Toml.Value
import ControlLoop.Trail
import ControlLoop.World
import ControlLoop.Proofs.Reconciler.Retryability
import ControlLoop.Proofs.Reconciler.Attending
