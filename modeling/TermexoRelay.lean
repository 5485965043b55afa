import TermexoRelay.Library.Run
import TermexoRelay.Library.Interleaving
import TermexoRelay.Library.Table
import TermexoRelay.Protocol.Frames
import TermexoRelay.Tunnel.Handle
import TermexoRelay.Registry.State
import TermexoRelay.Library.Text
import TermexoRelay.Http.Headers
import TermexoRelay.Proxy.Headers
import TermexoRelay.Proxy.ConsoleSession
import TermexoRelay.Proxy.HopByHop
import TermexoRelay.Proxy.Target
import TermexoRelay.Library.Replica
import TermexoRelay.Registry.Entries
import TermexoRelay.Registry.Jobs
import TermexoRelay.Registry.Publication
import TermexoRelay.Registry.Operations
import TermexoRelay.Registry.Offers
import TermexoRelay.Registry.OfferRuns
import TermexoRelay.Registry.Numbers
import TermexoRelay.Registry.Choice
import TermexoRelay.Registry.Snapshots
import TermexoRelay.Library.Rows
import TermexoRelay.Database.Records
import TermexoRelay.Database.Queries
import TermexoRelay.Database.Standing
import TermexoRelay.Relay.State
import TermexoRelay.Tunnel.Session
import TermexoRelay.Api.Errors
import TermexoRelay.Api.Requests
import TermexoRelay.Api.RequestSteps
import TermexoRelay.Relay.System
import TermexoRelay.Registry.Links
import TermexoRelay.Registry.Remembered
import TermexoRelay.Relay.Tunnels
import TermexoRelay.Relay.Revocation
import TermexoRelay.Relay.Credentials
import TermexoRelay.Relay.Operators
import TermexoRelay.Relay.Impersonation
import TermexoRelay.Relay.Announcements
import TermexoRelay.Relay.Accounts
import TermexoRelay.Library.Parents
import TermexoRelay.Upstream.Forward
import TermexoRelay.Upstream.Chain
import TermexoRelay.Tunnel.Multiplexer
import TermexoRelay.Library.Queues
import TermexoRelay.Tunnel.Tasks
import TermexoRelay.Tunnel.Teardown
import TermexoRelay.Library.Urls
import TermexoRelay.Library.Guarded
import TermexoRelay.Database.Migration
import TermexoRelay.Relay.Addressing
import TermexoRelay.Api.DeviceViews
import TermexoRelay.Upstream.Addresses
import TermexoRelay.Upstream.Snapshot
import TermexoRelay.Upstream.Subscription
import TermexoRelay.Upstream.LoopGuard
import TermexoRelay.Upstream.Mesh
import TermexoRelay.Relay.Administrators
import TermexoRelay.Auth.Session
import TermexoRelay.Library.Lease
import TermexoRelay.Relay.Lifetime
import TermexoRelay.Relay.Passwords
import TermexoRelay.Relay.SessionUser
import TermexoRelay.Upstream.Link
import TermexoRelay.Upstream.Reach
import TermexoRelay.Upstream.Running
import TermexoRelay.Upstream.Stored
import TermexoRelay.Relay.AddressLists
import TermexoRelay.Upstream.Publish
import TermexoRelay.Proxy.Access
import TermexoRelay.Proxy.Cookies
import TermexoRelay.Relay.Gateway
import TermexoRelay.Tunnel.ControlFrames
import TermexoRelay.Registry.Registrations
import TermexoRelay.Database.Codes
import TermexoRelay.Api.Redemption
import TermexoRelay.Relay.SignOut
import TermexoRelay.Relay.Codes
import TermexoRelay.Relay.StoredData
import TermexoRelay.Relay.CodeOwners
import TermexoRelay.Library.Addresses
import TermexoRelay.Proxy.Forwarded
import TermexoRelay.Relay.OwnDevices
import TermexoRelay.Proxy.Dispatch
import TermexoRelay.Relay.Origins
import TermexoRelay.Proxy.Entries
import TermexoRelay.Relay.Visitors
import TermexoRelay.Library.Tally
import TermexoRelay.Auth.Lockout
import TermexoRelay.Relay.Attempts
import TermexoRelay.Relay.Lockout
import TermexoRelay.Upstream.Dialing
import TermexoRelay.Upstream.Transport
import TermexoRelay.Library.Encoding
import TermexoRelay.Proxy.LoginRedirect
import TermexoRelay.Console.NextTarget
import TermexoRelay.Proxy.Renderings
import TermexoRelay.Proxy.MappedPeers
import TermexoRelay.Auth.CodeSpelling
import TermexoRelay.Upstream.Origins
import TermexoRelay.Upstream.Fingerprints
import TermexoRelay.Api.Routes
import TermexoRelay.Api.Handlers
import TermexoRelay.Console.ApiCalls
import TermexoRelay.Database.Patches
import TermexoRelay.Relay.Certificates
import TermexoRelay.Relay.Names
import TermexoRelay.Relay.PasswordHistory
import TermexoRelay.Library.Paging
import TermexoRelay.Database.Audit
import TermexoRelay.Console.AuditPage
