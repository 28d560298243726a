import PipelineWatch.Approval
import PipelineWatch.Config
import PipelineWatch.Decimal.Binary64
import PipelineWatch.Decimal.Layout
import PipelineWatch.Decimal.Shortest
import PipelineWatch.Digest.Sha256
import PipelineWatch.Event.Basic
import PipelineWatch.Event.History
import PipelineWatch.Event.Key
import PipelineWatch.Event.Kind
import PipelineWatch.Frame
import PipelineWatch.Json.Basic
import PipelineWatch.Json.Byte
import PipelineWatch.Json.Equality
import PipelineWatch.Json.Mismatch
import PipelineWatch.Json.Reader
import PipelineWatch.Json.Reader.Number
import PipelineWatch.Json.Reader.Skip
import PipelineWatch.Json.Reader.Text
import PipelineWatch.Json.Syntax
import PipelineWatch.Json.Writer
import PipelineWatch.Main
import PipelineWatch.Message.Basic
import PipelineWatch.Message.Reader
import PipelineWatch.Plan.Selection
import PipelineWatch.Plan.View
import PipelineWatch.Proofs.Decimal.Arithmetic
import PipelineWatch.Proofs.Decimal.Layout
import PipelineWatch.Proofs.Decimal.Notation
import PipelineWatch.Proofs.Decimal.Rounding
import PipelineWatch.Proofs.Decimal.Shortest
import PipelineWatch.Proofs.Decimal.Span
import PipelineWatch.Proofs.Digest.Sha256
import PipelineWatch.Proofs.Event.Canonical
import PipelineWatch.Proofs.Event.Delivery
import PipelineWatch.Proofs.Event.Key
import PipelineWatch.Proofs.Event.Kind
import PipelineWatch.Proofs.Event.Payload
import PipelineWatch.Proofs.Json.Collected
import PipelineWatch.Proofs.Json.Fraction
import PipelineWatch.Proofs.Json.Normal
import PipelineWatch.Proofs.Json.Number
import PipelineWatch.Proofs.Json.Reading
import PipelineWatch.Proofs.Json.Reordered
import PipelineWatch.Proofs.Json.Reread
import PipelineWatch.Proofs.Json.Scaling
import PipelineWatch.Proofs.Json.Spelling
import PipelineWatch.Proofs.Json.Text
import PipelineWatch.Proofs.Json.Unambiguous
import PipelineWatch.Proofs.Json.Writing
import PipelineWatch.Proofs.Message.Encoding
import PipelineWatch.Proofs.Message.Fractions
import PipelineWatch.Proofs.Message.Grammar
import PipelineWatch.Proofs.Message.RoundTrip
import PipelineWatch.Proofs.Plan.Dated
import PipelineWatch.Proofs.Plan.Known
import PipelineWatch.Proofs.Plan.Named
import PipelineWatch.Proofs.Plan.Selection
import PipelineWatch.Proofs.Plan.Sort
import PipelineWatch.Proofs.Plan.View
import PipelineWatch.Proofs.Record.Fields
import PipelineWatch.Proofs.Session.Account
import PipelineWatch.Proofs.Session.Announcement
import PipelineWatch.Proofs.Session.Attempts
import PipelineWatch.Proofs.Session.Close
import PipelineWatch.Proofs.Session.Delivery
import PipelineWatch.Proofs.Session.Feed
import PipelineWatch.Proofs.Session.HangUp
import PipelineWatch.Proofs.Session.Idle
import PipelineWatch.Proofs.Session.Links
import PipelineWatch.Proofs.Session.Mirror
import PipelineWatch.Proofs.Session.Notices
import PipelineWatch.Proofs.Session.Open
import PipelineWatch.Proofs.Session.Refinement
import PipelineWatch.Proofs.Session.Run
import PipelineWatch.Proofs.Session.Statuses
import PipelineWatch.Proofs.Session.Turn
import PipelineWatch.Proofs.Store.Backlog
import PipelineWatch.Proofs.Store.Dispatch
import PipelineWatch.Proofs.Store.Independence
import PipelineWatch.Proofs.Store.Outcome
import PipelineWatch.Proofs.Store.Pending
import PipelineWatch.Proofs.Store.Provenance
import PipelineWatch.Proofs.Store.Window
import PipelineWatch.Proofs.Text.Blank
import PipelineWatch.Proofs.Text.Digits
import PipelineWatch.Proofs.Text.Natural
import PipelineWatch.Proofs.Text.Utf8
import PipelineWatch.Proofs.Time.Calendar
import PipelineWatch.Proofs.Time.Forms
import PipelineWatch.Proofs.Time.Order
import PipelineWatch.Proofs.Time.Spelling
import PipelineWatch.Proofs.Watch.Arrival
import PipelineWatch.Proofs.Watch.Follow
import PipelineWatch.Proofs.Watch.Glances
import PipelineWatch.Proofs.Watch.Requested
import PipelineWatch.Proofs.Watch.Settings
import PipelineWatch.Proofs.Watch.Sitting
import PipelineWatch.Record.Basic
import PipelineWatch.Record.Document
import PipelineWatch.Record.Reader
import PipelineWatch.Session.Basic
import PipelineWatch.Session.Journal
import PipelineWatch.Session.Operation
import PipelineWatch.Session.Subscription
import PipelineWatch.Status
import PipelineWatch.Store.Approvals
import PipelineWatch.Store.Dispatch
import PipelineWatch.Store.Events
import PipelineWatch.Text.Blank
import PipelineWatch.Text.Composition
import PipelineWatch.Text.Composition.Tables
import PipelineWatch.Text.Direction
import PipelineWatch.Text.Direction.Tables
import PipelineWatch.Text.Hidden
import PipelineWatch.Text.Joining
import PipelineWatch.Text.LetterCase
import PipelineWatch.Text.LetterCase.Tables
import PipelineWatch.Text.Mark
import PipelineWatch.Text.Natural
import PipelineWatch.Text.Quoted
import PipelineWatch.Text.Ranges
import PipelineWatch.Text.Utf8
import PipelineWatch.Time.Calendar
import PipelineWatch.Time.Instant
import PipelineWatch.Url.Basic
import PipelineWatch.Url.Domain
import PipelineWatch.Url.Domain.Kept
import PipelineWatch.Url.Domain.Mapping
import PipelineWatch.Url.Domain.Moved
import PipelineWatch.Url.Domain.Spelled
import PipelineWatch.Url.Dotted
import PipelineWatch.Url.Failure
import PipelineWatch.Url.Host
import PipelineWatch.Url.Ipv4
import PipelineWatch.Url.Ipv6
import PipelineWatch.Url.Label
import PipelineWatch.Url.Path
import PipelineWatch.Url.Percent
import PipelineWatch.Url.Punycode
import PipelineWatch.Watch.Arguments
import PipelineWatch.Watch.Follow
import PipelineWatch.Watch.Line
import PipelineWatch.Watch.Live
