import SwiftTunnel.Lib.Slice
import SwiftTunnel.Lib.Layout
import SwiftTunnel.Lib.Tlv
import SwiftTunnel.Lib.OnesComplement
import SwiftTunnel.Lib.Run
import SwiftTunnel.Lib.RateLimit
import SwiftTunnel.Lib.Text
import SwiftTunnel.Lib.Tickets
import SwiftTunnel.Lib.Wildcard
import SwiftTunnel.Lib.Delimiters
import SwiftTunnel.Lib.Utf8
import SwiftTunnel.Lib.Base64
import SwiftTunnel.Lib.Window
import SwiftTunnel.Lib.StableSort
import SwiftTunnel.Lib.PrefixCode
import SwiftTunnel.Lib.Flow
import SwiftTunnel.Net
import SwiftTunnel.Shared
import SwiftTunnel.ProcessNames
import SwiftTunnel.Auth.Storage
import SwiftTunnel.Auth.Logout
import SwiftTunnel.Auth.Migration
import SwiftTunnel.Auth.RefreshFailures
import SwiftTunnel.Auth.Manager
import SwiftTunnel.Auth.Callback
import SwiftTunnel.Auth.OauthFlow
import SwiftTunnel.Auth.SessionKey
import SwiftTunnel.Auth.Refresh
import SwiftTunnel.Auth.Restart
import SwiftTunnel.RobloxProxy.Domains
import SwiftTunnel.RobloxProxy.Pins
import SwiftTunnel.RobloxProxy.Allocation
import SwiftTunnel.RobloxProxy.HostsFile
import SwiftTunnel.RobloxProxy.HostsEdits
import SwiftTunnel.RobloxProxy.Doh
import SwiftTunnel.RobloxProxy.Hosts
import SwiftTunnel.RobloxProxy.BootstrapSets
import SwiftTunnel.RobloxProxy.PinEdits
import SwiftTunnel.RobloxProxy.TlsSni
import SwiftTunnel.RobloxProxy.TlsWalk
import SwiftTunnel.RobloxProxy.TlsHello
import SwiftTunnel.SplitTunnel.ProcessCache
import SwiftTunnel.SplitTunnel.Writers
import SwiftTunnel.SplitTunnel.Classify
import SwiftTunnel.SplitTunnel.Decision
import SwiftTunnel.SplitTunnel.Ports
import SwiftTunnel.SplitTunnel.Sharding
import SwiftTunnel.SplitTunnel.Route
import SwiftTunnel.SplitTunnel.Worker
import SwiftTunnel.SplitTunnel.Checksums
import SwiftTunnel.SplitTunnel.ChecksumRepair
import SwiftTunnel.Vpn.AutoRouting
import SwiftTunnel.Vpn.RouterRuns
import SwiftTunnel.Vpn.LookupTask
import SwiftTunnel.Vpn.PendingLookups
import SwiftTunnel.Vpn.SeenServers
import SwiftTunnel.Vpn.Resolve
import SwiftTunnel.Vpn.ResolveFormat
import SwiftTunnel.Vpn.Relay
import SwiftTunnel.Vpn.ResolveRuns
import SwiftTunnel.Vpn.RelayAuth
import SwiftTunnel.Vpn.RelayWire
import SwiftTunnel.Vpn.ResolveExchange
import SwiftTunnel.Vpn.RelayChoice
import SwiftTunnel.Vpn.Connection
import SwiftTunnel.Vpn.PinRuns
import SwiftTunnel.Vpn.Sessions
import SwiftTunnel.Vpn.PinReturns
import SwiftTunnel.Vpn.Modes
import SwiftTunnel.SplitTunnel.TunnelApps
import SwiftTunnel.SplitTunnel.DataPath
import SwiftTunnel.SplitTunnel.Intact
import SwiftTunnel.SplitTunnel.Trailers
import SwiftTunnel.Vpn.Monitor
import SwiftTunnel.Vpn.Reported
import SwiftTunnel.Vpn.ServerChoice
import SwiftTunnel.Vpn.Geolocation
import SwiftTunnel.SplitTunnel.OwnDatagrams
import SwiftTunnel.SplitTunnel.Pipeline
import SwiftTunnel.SplitTunnel.RefreshRounds
import SwiftTunnel.SplitTunnel.Adapters
import SwiftTunnel.SplitTunnel.AdapterSettings
import SwiftTunnel.SplitTunnel.Interceptor
import SwiftTunnel.SplitTunnel.Lifecycle
import SwiftTunnel.SplitTunnel.LifecycleThreads
import SwiftTunnel.SplitTunnel.Inject
import SwiftTunnel.Vpn.PassFilters
import SwiftTunnel.Vpn.DisklessPassthrough
import SwiftTunnel.Exclusions
import SwiftTunnel.ExclusionHosts
