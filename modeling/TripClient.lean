import TripClient.Answer.Listing
import TripClient.Cache
import TripClient.Client.Basic
import TripClient.Client.Chats
import TripClient.Client.Exchange
import TripClient.Client.Friends
import TripClient.Client.Groups
import TripClient.Client.Operation
import TripClient.Client.Places
import TripClient.Client.Plans
import TripClient.Client.SignIn
import TripClient.Client.Tokens
import TripClient.Client.Users
import TripClient.Decimal.Layout
import TripClient.Decimal.Shortest
import TripClient.Failure.Basic
import TripClient.Failure.ServerMessage
import TripClient.Http.Address
import TripClient.Http.Error
import TripClient.Http.Form
import TripClient.Http.Headers
import TripClient.Http.Intake
import TripClient.Http.MediaType
import TripClient.Http.Request
import TripClient.Http.Response
import TripClient.Http.Transport
import TripClient.Json.Basic
import TripClient.Json.Cursor
import TripClient.Json.Decoder
import TripClient.Json.Document
import TripClient.Json.Numeral
import TripClient.Json.Printer
import TripClient.Json.Problem
import TripClient.Json.Reader
import TripClient.Json.Record
import TripClient.Proofs.Interleaving
import TripClient.Proofs.Session.Order
import TripClient.Schedule
import TripClient.Session.Basic
import TripClient.Session.Refresh
import TripClient.Settings
import TripClient.Sorted
import TripClient.Task
import TripClient.Text.Blank
import TripClient.Text.CodeRanges
import TripClient.Text.Composition
import TripClient.Text.Lowercase
import TripClient.Text.Pieces
import TripClient.Text.Quoted
import TripClient.Text.Utf8
import TripClient.Travel.Attachment
import TripClient.Travel.Chat
import TripClient.Travel.Friend
import TripClient.Travel.Group
import TripClient.Travel.Id
import TripClient.Travel.Location
import TripClient.Travel.Plan
import TripClient.Travel.Profile
import TripClient.Url.Basic
import TripClient.Url.Domain.Classes
import TripClient.Url.Domain.Label
import TripClient.Url.Domain.Mapping
import TripClient.Url.Domain.Name
import TripClient.Url.Domain.Punycode
import TripClient.Url.Endpoint
import TripClient.Url.Host
import TripClient.Url.Ipv4
import TripClient.Url.Ipv6
import TripClient.Url.Parser
import TripClient.Url.Path
import TripClient.Url.Percent
import TripClient.Url.Query
import TripClient.Proofs.Session.Refreshing
import TripClient.Proofs.Session.SingleFlight
import TripClient.Proofs.Alone
import TripClient.Proofs.Session.Outcome
import TripClient.Proofs.Session.Request
import TripClient.Proofs.Session.Replay
import TripClient.Proofs.Scheduled
import TripClient.Proofs.Solo
import TripClient.Proofs.Session.History
import TripClient.Proofs.Http.Building
import TripClient.Proofs.Http.Headers
import TripClient.Proofs.Http.Insertion
import TripClient.Proofs.Cache
import TripClient.Proofs.Client.Exchange
import TripClient.Proofs.Client.Course
import TripClient.Proofs.Client.Shape
import TripClient.Proofs.Client.Wire
import TripClient.Proofs.Url.Endpoint
import TripClient.Proofs.Client.SignIn
import TripClient.Proofs.Client.Changes
import TripClient.Proofs.Client.Caching
import TripClient.Proofs.Eviction
import TripClient.Proofs.Client.Coherence
import TripClient.Proofs.Client.Attempts
import TripClient.Proofs.Client.SignOut
import TripClient.Proofs.Client.OwnProfile
import TripClient.Proofs.Answer.Lookup
import TripClient.Proofs.Answer.Page
import TripClient.Proofs.Sorted
import TripClient.Proofs.Json.Quoted
import TripClient.Proofs.Json.Whole
import TripClient.Proofs.Json.Printed
import TripClient.Proofs.Json.Record
import TripClient.Proofs.Json.Written
import TripClient.Proofs.Travel.RoundTrip
import TripClient.Proofs.Text.Utf8
import TripClient.Proofs.Url.Percent
import TripClient.Proofs.Url.Layout
import TripClient.Proofs.Url.Segments
import TripClient.Proofs.Answer.Tokens
import TripClient.Proofs.Settings
import TripClient.Proofs.RoundTrip
import TripClient.Proofs.Twin
import TripClient.Proofs.Session.Secrecy
import TripClient.Proofs.Client.Secrecy
import TripClient.Proofs.Secrecy
import TripClient.Proofs.Cache.Capacity
import TripClient.Proofs.Cache.History
import TripClient.Proofs.Client.WrittenProfile
import TripClient.Proofs.Text.Composition
import TripClient.Proofs.Text.Excerpt
import TripClient.Proofs.Failure.ServerMessage
import TripClient.Proofs.Http.Address
import TripClient.Proofs.Http.Intake
import TripClient.Proofs.Text.Pieces
import TripClient.Proofs.Url.Domain
import TripClient.Proofs.Url.Host
import TripClient.Proofs.Url.Ideographs
import TripClient.Proofs.Url.OfWeb
import TripClient.Proofs.Url.Punycode
import TripClient.Proofs.Url.Reread
import TripClient.Proofs.Url.Query
import TripClient.Proofs.Url.Origin
import TripClient.Proofs.Text.Trim
import TripClient.Proofs.Url.Base
import TripClient.Proofs.Json.Spelling
import TripClient.Proofs.Json.Bounded
import TripClient.Proofs.Travel.Spelling
import TripClient.Proofs.Travel.Id
