import TicketKeeper.Json.Writer
import TicketKeeper.Rehearsal
import TicketKeeper.Store.Depot
import TicketKeeper.Jira.Client
import TicketKeeper.LogLevel
import TicketKeeper.Schema
import TicketKeeper.Service.Visit
import TicketKeeper.CommandLine.Run
import TicketKeeper.Main
import TicketKeeper.Proofs.Number.Numeral
import TicketKeeper.Proofs.Text.Utf8
import TicketKeeper.Proofs.Store.IssueFile
import TicketKeeper.Proofs.Store.Directory
import TicketKeeper.Proofs.Store.Keeping
import TicketKeeper.Proofs.Store.Table
import TicketKeeper.Proofs.Store.Healthy
import TicketKeeper.Proofs.Cycle.Path
import TicketKeeper.Proofs.Cycle.Course
import TicketKeeper.Proofs.Cycle.Deed
import TicketKeeper.Proofs.Cycle.Account
import TicketKeeper.Proofs.Cycle.Order
import TicketKeeper.Proofs.Cycle.Script
import TicketKeeper.Proofs.Run
import TicketKeeper.Proofs.OncePerBuild
import TicketKeeper.Proofs.Rerun
import TicketKeeper.Proofs.Tracking
import TicketKeeper.Proofs.Retry
import TicketKeeper.Proofs.Reading
import TicketKeeper.Proofs.Protocol
import TicketKeeper.Proofs.Failing
import TicketKeeper.Proofs.Created
import TicketKeeper.Proofs.Cycle.Wire
import TicketKeeper.Proofs.Jira.Sending
import TicketKeeper.Proofs.Requests
import TicketKeeper.Proofs.Telling
import TicketKeeper.Proofs.Store.Route
import TicketKeeper.Proofs.Store.Sited
import TicketKeeper.Proofs.Store.Confined
import TicketKeeper.Proofs.Store.Reachable
import TicketKeeper.Proofs.Store.Rereading
import TicketKeeper.Proofs.Store.Secluding
import TicketKeeper.Proofs.Store.KeyedMap
import TicketKeeper.Proofs.Store.Transactions
import TicketKeeper.Proofs.Cycle.Own
import TicketKeeper.Proofs.Apart
import TicketKeeper.Proofs.Jira.Content
import TicketKeeper.Proofs.Naming
import TicketKeeper.Proofs.Accepting
import TicketKeeper.Proofs.Forgetting
import TicketKeeper.Proofs.Cycle.Trace
import TicketKeeper.Proofs.Jira.Posting
import TicketKeeper.Proofs.Guarding
import TicketKeeper.Proofs.CommandLine.Options
import TicketKeeper.Proofs.CommandLine.Fields
import TicketKeeper.Proofs.Surfaces
import TicketKeeper.Proofs.Endpoint
import TicketKeeper.Proofs.Addressing
import TicketKeeper.Proofs.Store.Traceless
import TicketKeeper.Proofs.CommandLine.Environment
import TicketKeeper.Proofs.Text.Words
import TicketKeeper.Proofs.Text.Fold
import TicketKeeper.Proofs.Text.Clean
import TicketKeeper.Proofs.Cleaning
import TicketKeeper.Proofs.Projection
import TicketKeeper.Proofs.Reporting
import TicketKeeper.Proofs.Wording
import TicketKeeper.Proofs.Jira.Retrying
import TicketKeeper.Proofs.Jira.Rejecting
import TicketKeeper.Proofs.Jira.Looking
import TicketKeeper.Proofs.Admission
import TicketKeeper.Proofs.Overriding
import TicketKeeper.Proofs.Jira.Resolving
import TicketKeeper.Proofs.Url.Percent
import TicketKeeper.Proofs.Url.Path
import TicketKeeper.Proofs.Url.Hosted
import TicketKeeper.Proofs.Jira.Directing
import TicketKeeper.Proofs.Defaults
import TicketKeeper.Proofs.Jira.Paragraphs
import TicketKeeper.Proofs.Field
