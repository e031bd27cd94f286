import RepoCensus.Anomaly
import RepoCensus.Budget.Acquire
import RepoCensus.Budget.Basic
import RepoCensus.Budget.Registry
import RepoCensus.Budget.Tracker
import RepoCensus.Calendar.Date
import RepoCensus.Calendar.MailDate
import RepoCensus.Calendar.Moment
import RepoCensus.Calendar.MomentReader
import RepoCensus.Calendar.Seconds
import RepoCensus.Category
import RepoCensus.Census.Basic
import RepoCensus.Census.Order
import RepoCensus.Census.Pool
import RepoCensus.Client.Address
import RepoCensus.Client.AddressFlaw
import RepoCensus.Client.Arrival
import RepoCensus.Client.Compression.Code
import RepoCensus.Client.Compression.Container
import RepoCensus.Client.Compression.Damage
import RepoCensus.Client.Compression.Inflate
import RepoCensus.Client.Cookie
import RepoCensus.Client.CookieJar
import RepoCensus.Client.CookieSite
import RepoCensus.Client.Exchange
import RepoCensus.Client.Headers
import RepoCensus.Client.HostName.Basic
import RepoCensus.Client.HostName.DirectionTable
import RepoCensus.Client.HostName.Flaw
import RepoCensus.Client.HostName.Label
import RepoCensus.Client.HostName.Numeric
import RepoCensus.Client.HostName.PermittedTable
import RepoCensus.Client.HostName.Punycode
import RepoCensus.Client.LooseDate
import RepoCensus.Client.Redirect
import RepoCensus.Client.Reference
import RepoCensus.CommandLine.Arguments
import RepoCensus.CommandLine.Basic
import RepoCensus.Digest.Sha256
import RepoCensus.Display.Basic
import RepoCensus.Display.Loggers
import RepoCensus.Fault.Basic
import RepoCensus.Fault.Described
import RepoCensus.Fault.Failure
import RepoCensus.Fault.Undecodable
import RepoCensus.Fetch.Basic
import RepoCensus.Fetch.Endpoint
import RepoCensus.Fetch.Finding
import RepoCensus.Http.Freshness
import RepoCensus.Http.Limits
import RepoCensus.Http.Link
import RepoCensus.Http.Message
import RepoCensus.Http.Transport
import RepoCensus.Http.Verdict
import RepoCensus.Invalid
import RepoCensus.Json.Access
import RepoCensus.Json.Basic
import RepoCensus.Json.Encoding
import RepoCensus.Json.Reader
import RepoCensus.Json.Writer
import RepoCensus.Main
import RepoCensus.Numeral.Double
import RepoCensus.Numeral.Extended
import RepoCensus.Numeral.Grouped
import RepoCensus.Numeral.Shortest
import RepoCensus.Numeral.Whole
import RepoCensus.Pages.Iteration
import RepoCensus.Pages.Walk
import RepoCensus.Proofs.Budget.Allowance
import RepoCensus.Proofs.Budget.Means
import RepoCensus.Proofs.Budget.Naming
import RepoCensus.Proofs.Budget.Overspending
import RepoCensus.Proofs.Budget.Recovery
import RepoCensus.Proofs.Budget.Refill
import RepoCensus.Proofs.Budget.Waiting
import RepoCensus.Proofs.Budget.Window
import RepoCensus.Proofs.Calendar.Date
import RepoCensus.Proofs.Calendar.OrderedSeconds
import RepoCensus.Proofs.Calendar.Moment
import RepoCensus.Proofs.Census.Cancellation
import RepoCensus.Proofs.Census.Coverage
import RepoCensus.Proofs.Census.Deeds
import RepoCensus.Proofs.Census.Independence
import RepoCensus.Proofs.Census.Interrupted
import RepoCensus.Proofs.Census.Outcomes
import RepoCensus.Proofs.Census.Pool
import RepoCensus.Proofs.Census.Retrying
import RepoCensus.Proofs.Census.Undisturbed
import RepoCensus.Proofs.CommandLine.Document
import RepoCensus.Proofs.Fetch.Accounts
import RepoCensus.Proofs.Fetch.Blame
import RepoCensus.Proofs.Fetch.Chain
import RepoCensus.Proofs.Fetch.Concord
import RepoCensus.Proofs.Fetch.Cost
import RepoCensus.Proofs.Fetch.Count
import RepoCensus.Proofs.Fetch.Heed
import RepoCensus.Proofs.Fetch.Interrupts
import RepoCensus.Proofs.Fetch.Languages
import RepoCensus.Proofs.Fetch.Reckoning
import RepoCensus.Proofs.Fetch.Refetch
import RepoCensus.Proofs.Fetch.Requests
import RepoCensus.Proofs.Fetch.SearchTerms
import RepoCensus.Proofs.Fetch.Sends
import RepoCensus.Proofs.Fetch.Spelling
import RepoCensus.Proofs.Fetch.Stages
import RepoCensus.Proofs.Fetch.Steady
import RepoCensus.Proofs.Fetch.Truncation
import RepoCensus.Proofs.Fetch.Undisturbed
import RepoCensus.Proofs.Http.Grounds
import RepoCensus.Proofs.Http.LinkAdditions
import RepoCensus.Proofs.Http.LinkText
import RepoCensus.Proofs.Http.Verdict
import RepoCensus.Proofs.Numeral.Double
import RepoCensus.Proofs.Numeral.PowerOfTwo
import RepoCensus.Proofs.Pages.Accounts
import RepoCensus.Proofs.Pages.Chain
import RepoCensus.Proofs.Pages.Heed
import RepoCensus.Proofs.Pages.Law
import RepoCensus.Proofs.Pages.Resume
import RepoCensus.Proofs.Pages.Steady
import RepoCensus.Proofs.Pages.Undisturbed
import RepoCensus.Proofs.Pages.Verdict
import RepoCensus.Proofs.Pages.Visits
import RepoCensus.Proofs.Pages.Walk
import RepoCensus.Proofs.Record.Reach
import RepoCensus.Proofs.Retry.Accounts
import RepoCensus.Proofs.Retry.Attempts
import RepoCensus.Proofs.Retry.Backoff
import RepoCensus.Proofs.Retry.Blame
import RepoCensus.Proofs.Retry.Course
import RepoCensus.Proofs.Retry.Delays
import RepoCensus.Proofs.Retry.Heed
import RepoCensus.Proofs.Retry.Rounds
import RepoCensus.Proofs.Retry.Schedule
import RepoCensus.Proofs.Retry.Stages
import RepoCensus.Proofs.Retry.Steady
import RepoCensus.Proofs.Retry.Undisturbed
import RepoCensus.Proofs.Settings.Options
import RepoCensus.Proofs.Snapshot.Document
import RepoCensus.Proofs.Snapshot.Merge
import RepoCensus.Proofs.Snapshot.Overlay
import RepoCensus.Proofs.Text.Lower
import RepoCensus.Proofs.Text.Words
import RepoCensus.Proofs.Work.Accounts
import RepoCensus.Proofs.Work.Always
import RepoCensus.Proofs.Work.Blame
import RepoCensus.Proofs.Work.Calm
import RepoCensus.Proofs.Work.Deeds
import RepoCensus.Proofs.Work.Does
import RepoCensus.Proofs.Work.Heed
import RepoCensus.Proofs.Work.Steps
import RepoCensus.Proofs.Work.Within
import RepoCensus.Proofs.World.Accounts
import RepoCensus.Proofs.World.Company
import RepoCensus.Proofs.World.Drift
import RepoCensus.Proofs.World.Journal
import RepoCensus.Proofs.World.Played
import RepoCensus.Proofs.World.Run
import RepoCensus.Proofs.World.Scene
import RepoCensus.Proofs.World.Shown
import RepoCensus.Proofs.World.Steady
import RepoCensus.Query
import RepoCensus.Record.Basic
import RepoCensus.Record.Reader
import RepoCensus.Repository
import RepoCensus.Retry.Basic
import RepoCensus.Retry.Named
import RepoCensus.Retry.Policy
import RepoCensus.Settings.Amount
import RepoCensus.Settings.Conventions
import RepoCensus.Settings.Named
import RepoCensus.Settings.Options
import RepoCensus.Snapshot.Basic
import RepoCensus.Snapshot.Described
import RepoCensus.Snapshot.Document
import RepoCensus.Text.Base64
import RepoCensus.Text.Blank
import RepoCensus.Text.CaseTable
import RepoCensus.Text.Composed
import RepoCensus.Text.CompositionTable
import RepoCensus.Text.Digit
import RepoCensus.Text.Entries
import RepoCensus.Text.Fields
import RepoCensus.Text.Lower
import RepoCensus.Text.Percent
import RepoCensus.Text.PrintableTable
import RepoCensus.Text.Quoted
import RepoCensus.Text.Ranges
import RepoCensus.Text.Upper
import RepoCensus.Text.Utf8
import RepoCensus.Work.Basic
import RepoCensus.Work.Effect
import RepoCensus.Work.Program
import RepoCensus.Work.Stage
import RepoCensus.World.Basic
import RepoCensus.World.Journal
import RepoCensus.World.Rehearsal
import RepoCensus.World.Script
