import ParishSite.Backend.Client
import ParishSite.Backend.Fault
import ParishSite.Backend.Query
import ParishSite.Backend.Roster
import ParishSite.Backend.Tables
import ParishSite.Content.Account
import ParishSite.Content.Announcement
import ParishSite.Content.BelieversClass
import ParishSite.Content.Calendar
import ParishSite.Content.Event
import ParishSite.Content.Failure
import ParishSite.Content.Faults
import ParishSite.Content.Group
import ParishSite.Content.Slug
import ParishSite.Content.Team
import ParishSite.Content.Video
import ParishSite.Dialogue
import ParishSite.Docs.Document
import ParishSite.Docs.Schema
import ParishSite.Feed.Cache
import ParishSite.Feed.Client
import ParishSite.Feed.Fault
import ParishSite.Feed.Listing
import ParishSite.Json.Basic
import ParishSite.Json.Decoder
import ParishSite.Json.Encode
import ParishSite.Json.Fault
import ParishSite.Json.Node
import ParishSite.Json.Printer
import ParishSite.Json.Token
import ParishSite.Number.Binary64
import ParishSite.Number.Digits
import ParishSite.Number.Extended
import ParishSite.Number.Layout
import ParishSite.Number.Shortest
import ParishSite.Proofs.CacheLifetime
import ParishSite.Proofs.CacheSearches
import ParishSite.Proofs.CalendarDays
import ParishSite.Proofs.CalendarFile
import ParishSite.Proofs.CalendarLines
import ParishSite.Proofs.CalendarLink
import ParishSite.Proofs.CallRuns
import ParishSite.Proofs.ChannelCalls
import ParishSite.Proofs.ChannelReplies
import ParishSite.Proofs.ClosedGate
import ParishSite.Proofs.DecodedRecords
import ParishSite.Proofs.DialogueContract
import ParishSite.Proofs.DocumentedRoutes
import ParishSite.Proofs.EndpointRequests
import ParishSite.Proofs.ExchangedModels
import ParishSite.Proofs.FallibleSteps
import ParishSite.Proofs.FormRoundTrip
import ParishSite.Proofs.GateOutcome
import ParishSite.Proofs.HandlingRuns
import ParishSite.Proofs.InstantOrder
import ParishSite.Proofs.LatestSlot
import ParishSite.Proofs.LeaderColumn
import ParishSite.Proofs.Mediation
import ParishSite.Proofs.MirroredFeed
import ParishSite.Proofs.NewTeams
import ParishSite.Proofs.PageAssembly
import ParishSite.Proofs.PageProvenance
import ParishSite.Proofs.PageSizes
import ParishSite.Proofs.PasswordChange
import ParishSite.Proofs.QueryClauses
import ParishSite.Proofs.Readiness
import ParishSite.Proofs.RecordMembers
import ParishSite.Proofs.RefusalWords
import ParishSite.Proofs.RefusalsTold
import ParishSite.Proofs.RejectedValues
import ParishSite.Proofs.ReopenedForms
import ParishSite.Proofs.RequestContract
import ParishSite.Proofs.RosterCourse
import ParishSite.Proofs.RoutedPaths
import ParishSite.Proofs.RowFilter
import ParishSite.Proofs.RowIds
import ParishSite.Proofs.RowRules
import ParishSite.Proofs.RowsWritten
import ParishSite.Proofs.SafeNames
import ParishSite.Proofs.SearchKeys
import ParishSite.Proofs.SearchRecency
import ParishSite.Proofs.SearchStores
import ParishSite.Proofs.SlugLetters
import ParishSite.Proofs.SlugWords
import ParishSite.Proofs.StartDates
import ParishSite.Proofs.StoreCalls
import ParishSite.Proofs.TeamGroups
import ParishSite.Proofs.TeamPlaces
import ParishSite.Proofs.TextSettings
import ParishSite.Proofs.TrimmedText
import ParishSite.Proofs.UrlExtension
import ParishSite.Proofs.Utf8RoundTrip
import ParishSite.Proofs.WrittenInstants
import ParishSite.Proofs.WrittenTokens
import ParishSite.Proofs.WrittenTrees
import ParishSite.Service.Admin
import ParishSite.Service.Basic
import ParishSite.Service.Gate
import ParishSite.Service.Handle
import ParishSite.Service.Public
import ParishSite.Service.Route
import ParishSite.Settings
import ParishSite.Text.Blank
import ParishSite.Text.CaseTable
import ParishSite.Text.Fold
import ParishSite.Text.HiddenTable
import ParishSite.Text.LowerCase
import ParishSite.Text.Quoted
import ParishSite.Text.Utf8
import ParishSite.Time.Date
import ParishSite.Time.Instant
import ParishSite.Time.Rfc3339
import ParishSite.Web.Exchange
import ParishSite.Web.Form
import ParishSite.Web.Host
import ParishSite.Web.Punycode
import ParishSite.Web.Request
import ParishSite.Web.Response
import ParishSite.Web.Url
