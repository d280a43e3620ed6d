import XanhTab.Program.Contract
import XanhTab.Invariant.Burn
import XanhTab.Invariant.Isolation
import XanhTab.Invariant.Residue
import XanhTab.Invariant.Policy
import XanhTab.Invariant.Mirror
import XanhTab.Netd.Firewall
import XanhTab.Daemon.AuthRun
import XanhTab.Invariant.Credentials
import XanhTab.Invariant.Pairing
import XanhTab.Invariant.Tickets
import XanhTab.Invariant.Commitment
import XanhTab.Invariant.Settings
import XanhTab.Invariant.Burnable
import XanhTab.Invariant.AutoBurn
import XanhTab.Browser.Sessions
import XanhTab.Daemon.Api
import XanhTab.Invariant.Pages
import XanhTab.Text.Numeral
import XanhTab.Netd.Address
import XanhTab.Netd.Script
import XanhTab.Program.Requests
import XanhTab.Netd.Filter
import XanhTab.Throttle.Core
import XanhTab.Invariant.Guesses
import XanhTab.Browser.Navigation
import XanhTab.Text.Basic
import XanhTab.Netd.Reader
import XanhTab.Blocklist.Hosts
import XanhTab.Blocklist.Exact
import XanhTab.Egress.Wireguard
import XanhTab.Egress.Grammar
import XanhTab.Text.Path
import XanhTab.Text.WebUrl
import XanhTab.Egress.Proxy
import XanhTab.Config.Validate
import XanhTab.Config.Gates
import XanhTab.Egress.Endpoint
import XanhTab.Program.Noting
import XanhTab.Program.Outcome
import XanhTab.Invariant.Rejection
import XanhTab.Program.Follow
import XanhTab.Invariant.Decision
import XanhTab.Daemon.Endpoints
import XanhTab.Invariant.Addressed
import XanhTab.Program.Record
import XanhTab.Daemon.Publication
import XanhTab.Invariant.Events
import XanhTab.Data.Zipper
import XanhTab.Browser.History
import XanhTab.Blocklist.Strict
import XanhTab.Release.Evaluator
import XanhTab.Release.Verdict
import XanhTab.Config.Origin
import XanhTab.Json.Basic
import XanhTab.Remote.Document
import XanhTab.Remote.Apply
import XanhTab.Remote.Urls
import XanhTab.Remote.Schema
import XanhTab.Daemon.Clock
import XanhTab.Invariant.Overflow
import XanhTab.Files.Tree
import XanhTab.Daemon.RuntimeDir
import XanhTab.Blocklist.Build
import XanhTab.Blocklist.Trace
import XanhTab.Files.Links
import XanhTab.Files.Write
import XanhTab.Installer.Script
import XanhTab.Installer.Scope
import XanhTab.Installer.Backup
import XanhTab.Installer.Mutation
import XanhTab.Installer.Rollback
import XanhTab.Web.Pairing
import XanhTab.Daemon.SocketEgress
import XanhTab.Invariant.InOrder
import XanhTab.Daemon.Copies
import XanhTab.Daemon.Subscription
import XanhTab.Invariant.Audience
import XanhTab.Invariant.Protocol
import XanhTab.Daemon.Confined
import XanhTab.Invariant.Published
import XanhTab.Invariant.Available
import XanhTab.Netd.Routing
import XanhTab.Web.Channel
import XanhTab.Daemon.Relay
import XanhTab.Daemon.Http
import XanhTab.Program.Authority
import XanhTab.Invariant.Gate
import XanhTab.Invariant.Warrant
import XanhTab.Invariant.Trust
