import ReportGateway.Action
import ReportGateway.Address.Ip
import ReportGateway.Address.Reader
import ReportGateway.Address.Socket
import ReportGateway.Aggregator
import ReportGateway.Caller
import ReportGateway.Cluster.Basic
import ReportGateway.Cluster.Roster
import ReportGateway.Cluster.Uuid
import ReportGateway.Content.Directory
import ReportGateway.Content.Groups
import ReportGateway.Content.Refresh
import ReportGateway.Failure
import ReportGateway.Gateway.Basic
import ReportGateway.Gateway.Endpoints
import ReportGateway.Gateway.Launch
import ReportGateway.Gateway.Routes
import ReportGateway.Gateway.Serve
import ReportGateway.Host
import ReportGateway.Http.Client
import ReportGateway.Http.Headers
import ReportGateway.Http.Message
import ReportGateway.Http.Wire
import ReportGateway.Inbound
import ReportGateway.Json.Document
import ReportGateway.Json.Double
import ReportGateway.Json.Record
import ReportGateway.Json.Token
import ReportGateway.Json.Value
import ReportGateway.Main
import ReportGateway.Membership
import ReportGateway.Overview
import ReportGateway.Proxy
import ReportGateway.Report.Basic
import ReportGateway.Rule.Content
import ReportGateway.Rule.Group
import ReportGateway.Rule.Hit
import ReportGateway.Service
import ReportGateway.Settings.Basic
import ReportGateway.Settings.Check
import ReportGateway.Text.Base64
import ReportGateway.Text.Blank
import ReportGateway.Text.Canonical
import ReportGateway.Text.Canonical.Composites
import ReportGateway.Text.Canonical.Order
import ReportGateway.Text.Canonical.Variants
import ReportGateway.Text.Decimal
import ReportGateway.Text.Images
import ReportGateway.Text.Phrase
import ReportGateway.Text.Quoted
import ReportGateway.Text.Radix
import ReportGateway.Text.Ranges
import ReportGateway.Text.Unprintable
import ReportGateway.Text.Utf8
import ReportGateway.Toml.Reader
import ReportGateway.Toml.Scalar
import ReportGateway.Toml.Value
import ReportGateway.Url.Basic
import ReportGateway.Url.Domain
import ReportGateway.Url.Domain.Direction
import ReportGateway.Url.Domain.Excluded
import ReportGateway.Url.Domain.Joiner
import ReportGateway.Url.Domain.Mapping
import ReportGateway.Url.Domain.Marks
import ReportGateway.Url.Form
import ReportGateway.Url.Host
import ReportGateway.Url.Percent
import ReportGateway.Url.Punycode
import ReportGateway.Url.Reader
import ReportGateway.Url.Segments
import ReportGateway.Visibility.Filter
import ReportGateway.Visibility.Policy
import ReportGateway.Proofs.Filtering
import ReportGateway.Proofs.Journal
import ReportGateway.Proofs.Secrecy
import ReportGateway.Proofs.Percent
import ReportGateway.Proofs.Segments
import ReportGateway.Proofs.Isolation
import ReportGateway.Proofs.Relative
import ReportGateway.Proofs.Routing
import ReportGateway.Proofs.Forwarding
import ReportGateway.Proofs.Serving
import ReportGateway.Proofs.Exchange
import ReportGateway.Proofs.Asking
import ReportGateway.Proofs.Handling
import ReportGateway.Proofs.Refusal
import ReportGateway.Proofs.Course
import ReportGateway.Proofs.Faults
import ReportGateway.Proofs.Verdict
import ReportGateway.Proofs.Provenance
import ReportGateway.Proofs.Agreement
import ReportGateway.Proofs.Worlds
import ReportGateway.Proofs.Combining
import ReportGateway.Proofs.Reading
import ReportGateway.Proofs.Bases
import ReportGateway.Proofs.Templates
import ReportGateway.Proofs.Dispatching
import ReportGateway.Proofs.Mounting
import ReportGateway.Proofs.Spelling
import ReportGateway.Proofs.Scanning
import ReportGateway.Proofs.Rereading
import ReportGateway.Proofs.Records
import ReportGateway.Proofs.Narrowing
import ReportGateway.Proofs.Counting
import ReportGateway.Proofs.Relaying
import ReportGateway.Proofs.Sextets
import ReportGateway.Proofs.Shapes
import ReportGateway.Proofs.Callers
import ReportGateway.Proofs.Identifiers
import ReportGateway.Proofs.Listing
import ReportGateway.Proofs.Lookups
import ReportGateway.Proofs.Entries
import ReportGateway.Proofs.Loading
