import HostDashboard.Api.Client
import HostDashboard.CommandLine
import HostDashboard.Config
import HostDashboard.Dashboard.Data
import HostDashboard.Dashboard.View
import HostDashboard.Decimal.Binary64
import HostDashboard.Decimal.Natural
import HostDashboard.Decimal.Shortest
import HostDashboard.Dictionary
import HostDashboard.Facets.Counts
import HostDashboard.Facets.Panel
import HostDashboard.Facets.Selections
import HostDashboard.Failure
import HostDashboard.Filter.Basic
import HostDashboard.Filter.Builder
import HostDashboard.Host.Basic
import HostDashboard.Host.Codec
import HostDashboard.Host.Detail
import HostDashboard.Json.Basic
import HostDashboard.Json.Decode
import HostDashboard.Json.Numeral
import HostDashboard.Json.Printer
import HostDashboard.Json.Reader
import HostDashboard.Logging
import HostDashboard.Main
import HostDashboard.Navigation
import HostDashboard.Pages
import HostDashboard.Proofs.Api.Answer
import HostDashboard.Proofs.Api.HostAddress
import HostDashboard.Proofs.Dashboard.Blanks
import HostDashboard.Proofs.Dashboard.Data
import HostDashboard.Proofs.Decimal.Natural
import HostDashboard.Proofs.Dictionary
import HostDashboard.Proofs.Facets.Asn
import HostDashboard.Proofs.Facets.AsnCount
import HostDashboard.Proofs.Facets.AsnOptions
import HostDashboard.Proofs.Facets.AsnSelection
import HostDashboard.Proofs.Facets.Options
import HostDashboard.Proofs.Facets.Spelling
import HostDashboard.Proofs.Facets.Toggle
import HostDashboard.Proofs.Filter.Composed
import HostDashboard.Proofs.Filter.Edits
import HostDashboard.Proofs.Filter.Forwarded
import HostDashboard.Proofs.Filter.Fragment
import HostDashboard.Proofs.Filter.Sendable
import HostDashboard.Proofs.Filter.Sent
import HostDashboard.Proofs.Host.Detail
import HostDashboard.Proofs.Json.Members
import HostDashboard.Proofs.Json.Numeral
import HostDashboard.Proofs.Json.Sorted
import HostDashboard.Proofs.Json.Written
import HostDashboard.Proofs.Machine
import HostDashboard.Proofs.Navigation.Normal
import HostDashboard.Proofs.Navigation.Parameters
import HostDashboard.Proofs.Navigation.WellFormed
import HostDashboard.Proofs.Pages.Current
import HostDashboard.Proofs.Pages.Machine
import HostDashboard.Proofs.Pages.Partition
import HostDashboard.Proofs.Pages.Strip
import HostDashboard.Proofs.Registry.Course
import HostDashboard.Proofs.Registry.Cursor
import HostDashboard.Proofs.Registry.Link
import HostDashboard.Proofs.Registry.Moment
import HostDashboard.Proofs.Registry.Requests
import HostDashboard.Proofs.Registry.Traffic
import HostDashboard.Proofs.Registry.Turn
import HostDashboard.Proofs.Registry.Wire
import HostDashboard.Proofs.SearchBox.Clause
import HostDashboard.Proofs.SearchBox.Grammar
import HostDashboard.Proofs.Session.Applied
import HostDashboard.Proofs.Session.Coherent
import HostDashboard.Proofs.Session.Continued
import HostDashboard.Proofs.Session.Desk
import HostDashboard.Proofs.Session.EventStream
import HostDashboard.Proofs.Session.FreshPage
import HostDashboard.Proofs.Session.LatestRequest
import HostDashboard.Proofs.Session.LoadStates
import HostDashboard.Proofs.Session.Outage
import HostDashboard.Proofs.Session.Phase
import HostDashboard.Proofs.Session.Provenance
import HostDashboard.Proofs.Session.Rebuilt
import HostDashboard.Proofs.Session.Settled
import HostDashboard.Proofs.Session.Staging
import HostDashboard.Proofs.Session.Step
import HostDashboard.Proofs.Text.Case
import HostDashboard.Proofs.Text.Form
import HostDashboard.Proofs.Text.Pieces
import HostDashboard.Proofs.Text.Utf8
import HostDashboard.Proofs.Url.Segments
import HostDashboard.Registry.Basic
import HostDashboard.Registry.Operation
import HostDashboard.SearchBox
import HostDashboard.Session.Basic
import HostDashboard.Session.Event
import HostDashboard.Session.Id
import HostDashboard.Text.Escape
import HostDashboard.Text.Pieces
import HostDashboard.Text.Utf8
import HostDashboard.Text.Word
import HostDashboard.Time.Instant
import HostDashboard.Url.Address
import HostDashboard.Url.Basic
import HostDashboard.Url.Domain
import HostDashboard.Url.Mapping
import HostDashboard.Url.Punycode
import HostDashboard.Url.Reader
import HostDashboard.Web.Endpoint
import HostDashboard.Web.Exchange
import HostDashboard.Web.Relay
import HostDashboard.Web.Socket
