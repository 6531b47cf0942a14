/-
# `VpnConnection`: `connect_ex`, `disconnect` and what they change

`connection.rs`.  A connection goes through the phases of `connect_ex` in order; each phase is
one function here, and what the outside answers in it (the network, the file system, the driver,
the helper process) is an input, the `ConnectWorld`.  `cleanup` releases what a session holds;
`disconnect` calls it, and so does the one error exit of `connect_ex` that comes after the split
tunnel was tried.  The two exits by `?`, for want of a server and of a socket, do not.

A call reads and writes the connection and the process-wide state (`Client`), of which the phases
touch different parts: the exclusions, the hosts file with the sets of pinned addresses, the asset
addresses.  Beside each phase stands what it leaves of the fields that later results are about,
and what those results use of a whole call is one statement:

* `ConnectOutcome`, `connectEx_outcome`: everything a call can do.  It is refused, leaves by one of
  the two `?`, fails in the split tunnel and is cleaned up, or connects; each case says which
  outcome of the outside leads there and what is left in the connection and in the process.
* `prepareSession_cases`: DNS repair either succeeds and raises the flag `bootstrap_dns_applied`, or
  leaves the flag alone, whatever it has done to the hosts file.
* `hostsFile_prepareSession`: a repair that opens the hosts file leaves there what the write leaves,
  all of the block or a torn part of it.

What is not here.  Callbacks and log lines; an address stands for its text.  The tasks that a
session spawns are modelled where they matter: the lookups of game servers in `LookupTask`, the
monitor of the processes in `Monitor`, the packet workers in `Pipeline`.  Each is spawned after the
last error exit that a call can take, so no failed call leaves one behind: the lookups are spawned
before `driver.start()`, but that does not fail after `configure` (`start_ok_of_configured`, about
the interceptor), so it is not among the driver's outcomes.
-/
import SwiftTunnel.ProcessNames
import SwiftTunnel.RobloxProxy.Hosts
import SwiftTunnel.Vpn.RelayChoice
import SwiftTunnel.Vpn.Resolve

namespace SwiftTunnel

open Rust

/-! ## 1. The connection -/

/-- The fields of `ConnectionState::Connected`. -/
structure ConnectedInfo where
  since : Instant
  serverRegion : String
  serverEndpoint : SocketAddr
  assignedIp : String
  relayAuthMode : String
  splitTunnelActive : Bool
  tunneledProcesses : List String
  relayStatus : Option String
  deriving DecidableEq, Repr

inductive ConnectionState where
  | disconnected
  | fetchingConfig
  | connecting
  | configuringSplitTunnel
  | connected (info : ConnectedInfo)
  | disconnecting
  | error (message : String)
  deriving DecidableEq, Repr

namespace ConnectionState

def isConnected : ConnectionState → Bool
  | connected _ => true
  | _ => false

def isConnecting : ConnectionState → Bool
  | fetchingConfig | connecting | configuringSplitTunnel => true
  | _ => false

end ConnectionState

/-- `VpnConfig`, as far as `connect_ex` fills it in. -/
structure VpnConfig where
  region : String
  endpoint : SocketAddr
  assignedIp : String
  deriving DecidableEq, Repr

/-- A `UdpRelay`, by the address that it sends to. -/
structure UdpRelay where
  relayAddr : SocketAddr
  deriving DecidableEq, Repr

/-- A running helper process. -/
structure GoodbyeDpiGuard where
  pid : UInt32
  deriving DecidableEq, Repr

/-- `SplitTunnelDriver`, by what `setup_split_tunnel` gives it. -/
structure SplitTunnelDriver where
  tunnelApps : List String
  apiTunnelingEnabled : Bool
  udpTunnelingEnabled : Bool
  relay : UdpRelay
  assetRelays : List UdpRelay

structure VpnConnection where
  state : ConnectionState
  relay : Option UdpRelay
  assetRelays : List UdpRelay
  splitTunnel : Option SplitTunnelDriver
  config : Option VpnConfig
  processMonitorStop : Bool
  autoRouter : Option AutoRouter
  /-- Whether Route Assist wrote the hosts file, so that cleanup knows to restore it. -/
  bootstrapDnsApplied : Bool
  goodbyeDpiGuard : Option GoodbyeDpiGuard
  countryBanBypassFailure : Option String

/-- `VpnConnection::new`. -/
def VpnConnection.new : VpnConnection :=
  ⟨.disconnected, none, [], none, none, false, none, false, none, none⟩

/-- A connection and the process that it runs in. -/
structure Client where
  vpn : VpnConnection
  shared : SharedState

namespace Client

/-- A new connection in a new process. -/
def fresh (hostsFile : Text) : Client := ⟨VpnConnection.new, SharedState.fresh hostsFile⟩

def setState (c : Client) (state : ConnectionState) : Client :=
  { c with vpn := { c.vpn with state := state } }

end Client

/-! ## 2. The arguments of `connect_ex`, and what the outside answers -/

/-- The arguments, without the access token, which only goes to the network. -/
structure ConnectOptions where
  region : String
  tunnelApps : List String
  autoRoutingEnabled : Bool
  availableServers : List Server
  whitelistedRegions : List String
  enableApiTunneling : Bool
  excludedUrls : List String
  assetRelayServer : Option String
  assetUrls : List String
  assetRelayCount : Nat
  enableCountryBan : Bool
  enablePartialCountryBan : Bool

/-- How `UdpRelay::new` fares. -/
inductive SocketOutcome where
  | opened
  | bindFailed (e : String)
  | timeoutFailed (e : String)
  deriving DecidableEq, Repr

/-- How the driver fares: whether it is there, and the error of each call that can fail.  `start` is
called after `configure` alone, and then it returns `Ok` (`start_ok_of_configured`, about the runs
of the driver). -/
structure DriverOutcome where
  available : Bool
  initializeErr : Option String
  configureErr : Option String
  /-- `get_tunneled_processes()`. -/
  tunneledProcesses : List String
  deriving DecidableEq, Repr

/-- What `setup_asset_relays` meets. -/
structure AssetOutcome where
  /-- The addresses that the asset hosts resolve to. -/
  resolved : Map Ipv4Addr String
  /-- An explicit relay server, parsed or looked up; unspecified when there is none. -/
  serverAddr : String → SocketAddr
  shuffleFar : Shuffle
  shuffleRest : Shuffle
  /-- Whether the relay to an address comes up. -/
  comesUp : SocketAddr → Bool

/-- What the outside answers during one call of `connect_ex`. -/
structure ConnectWorld where
  now : Instant
  millis : Nat
  /-- The addresses that the excluded hosts resolve to. -/
  excluded : Map Ipv4Addr String
  doh : DohRun
  dohIo : HostsIo
  goodbyeDpi : Except String (Option GoodbyeDpiGuard)
  relaySocket : SocketOutcome
  relayAuthMode : String
  assets : AssetOutcome
  driver : DriverOutcome
  relayAnswer : RelayAnswer
  relayAnswer_hosts : relayAnswer.hosts = robloxBootstrapDomains
  relayIo : HostsIo
  /-- The file operations of `cleanup`, where `connect_ex` calls it. -/
  cleanupIo : HostsIo

namespace ConnectOptions

/-- The arguments with which `connect` calls `connect_ex`. -/
def ofConnect (region : String) (tunnelApps : List String) : ConnectOptions :=
  ⟨region, tunnelApps, false, [], [], false, [], none, [], 0, false, false⟩

/-- `country_ban_bypass`. -/
def countryBanBypass (o : ConnectOptions) : Bool := o.enableCountryBan || o.enablePartialCountryBan

/-- `udp_tunneling`, by way of `effective_route_assist`. -/
def udpTunneling (o : ConnectOptions) : Bool :=
  let effectiveRouteAssist := o.enableApiTunneling && !o.enablePartialCountryBan
  effectiveRouteAssist || o.enableCountryBan

/-- The tunnel apps of the session: Studio only under a country ban. -/
def sessionApps (o : ConnectOptions) : List String :=
  if o.countryBanBypass then o.tunnelApps
  else o.tunnelApps.filter fun app => !isRobloxStudioProcessName app

end ConnectOptions

/-! ## 3. The phases -/

section Phases

variable (o : ConnectOptions) (w : ConnectWorld)

/-- The states in which `connect_ex` refuses to start. -/
def refusal (state : ConnectionState) : Option SdkError :=
  if state.isConnected then some (.vpn "Already connected")
  else if state.isConnecting then some (.vpn "Connection in progress")
  else none

/-- `exclusions::resolve_and_set`. -/
def resolveExclusions (g : SharedState) : SharedState :=
  if o.excludedUrls = [] then { g with excludedIps := ∅ } else { g with excludedIps := w.excluded }

/-- Route Assist's DNS repair. -/
def repairBootstrapDns (c : Client) : Client :=
  if o.enableApiTunneling && !o.tunnelApps.isEmpty then
    match applyBootstrapOverrides o.countryBanBypass (resolveBootstrapOverrides w.doh) w.dohIo
        c.shared with
    | (.ok (), g) => ⟨{ c.vpn with bootstrapDnsApplied := true }, g⟩
    | (.error _, g) => { c with shared := g }
  else c

def startGoodbyeDpi (v : VpnConnection) : VpnConnection :=
  if o.enableCountryBan then
    match w.goodbyeDpi with
    | .ok (some guard) => { v with goodbyeDpiGuard := some guard }
    | _ => v
  else v

/-- Everything before the relay address is resolved. -/
def prepareSession (c : Client) : Client :=
  let c := { c with shared := resolveExclusions o w c.shared }
  let c := repairBootstrapDns o w (c.setState .fetchingConfig)
  { c with vpn := startGoodbyeDpi o w c.vpn }

/-- `UdpRelay::new`. -/
def UdpRelay.new (relayAddr : SocketAddr) : SocketOutcome → Except SdkError UdpRelay
  | .opened => .ok ⟨relayAddr⟩
  | .bindFailed e => .error (.vpn ("Failed to bind UDP socket: " ++ e))
  | .timeoutFailed e => .error (.vpn ("Failed to set read timeout: " ++ e))

/-- From `resolve_relay_for_region` to `self.relay = Some(relay)`: the two exits by `?`. -/
def openRelay (v : VpnConnection) : Except SdkError UdpRelay × VpnConnection :=
  match resolveRelayForRegion o.region o.availableServers with
  | .error e => (.error e, v)
  | .ok relayAddr =>
    let v := { v with config := some ⟨o.region, relayAddr, ""⟩, state := .connecting }
    match UdpRelay.new relayAddr w.relaySocket with
    | .error e => (.error e, v)
    | .ok relay => (.ok relay, { v with relay := some relay })

/-- The targets of `setup_asset_relays`. -/
def assetTargets (primaryAddr : SocketAddr) : List (String × SocketAddr) :=
  let count := if o.assetRelayCount = 0 then 3 else o.assetRelayCount
  match o.assetRelayServer with
  | some server =>
    let a := w.assets.serverAddr server
    if a.ip.isUnspecified then [] else [(o.region, a)]
  | none =>
    pickAssetRelays o.availableServers primaryAddr o.region count w.assets.shuffleFar
      w.assets.shuffleRest

/-- `setup_asset_relays`.  The relays stand in the order of their targets. -/
def setupAssetRelays (primaryAddr : SocketAddr) (c : Client) : List UdpRelay × Client :=
  if o.assetUrls = [] then ([], c)
  else
    let c := { c with shared := { c.shared with assetIps := w.assets.resolved } }
    if w.assets.resolved.entries = [] then ([], c)
    else
      let targets := assetTargets o w primaryAddr
      if targets = [] then ([], c)
      else
        let relays := (targets.filter fun t => w.assets.comesUp t.2).map fun t => ⟨t.2⟩
        (relays, { c with vpn := { c.vpn with assetRelays := relays } })

/-- The auto-router of the session. -/
def sessionRouter (relay : UdpRelay) : AutoRouter :=
  let r := ((AutoRouter.new w.now o.autoRoutingEnabled o.region).setCurrentRelay relay.relayAddr
    o.region).setAvailableServers o.availableServers
  let r := if o.whitelistedRegions = [] then r else r.setWhitelistedRegions o.whitelistedRegions
  if o.autoRoutingEnabled then
    if o.availableServers = [] then
      (r.pushDegradedEvent w.millis
        "Auto-routing enabled but no available servers; continuing without switching").setEnabled
          false
    else r.setLookupChannel
  else r

/-- `setup_split_tunnel`.  The task that looks up game servers is spawned after the last error exit
that can be taken. -/
def setupSplitTunnel (relay : UdpRelay) (assetRelays : List UdpRelay) (tunnelApps : List String)
    (enableApiTunneling udpTunneling : Bool) (v : VpnConnection) :
    Except SdkError (List String) × VpnConnection :=
  if !w.driver.available then
    (.error (.splitTunnel "Windows Packet Filter driver not available"), v)
  else match w.driver.initializeErr with
  | some e => (.error (.splitTunnel ("Failed to initialize driver: " ++ e)), v)
  | none => match w.driver.configureErr with
    | some e => (.error (.splitTunnel ("Failed to configure split tunnel: " ++ e)), v)
    | none =>
      let driver : SplitTunnelDriver :=
        ⟨tunnelApps, enableApiTunneling, udpTunneling, relay, assetRelays⟩
      (.ok w.driver.tunneledProcesses, { v with
        autoRouter := some (sessionRouter o w relay)
        splitTunnel := some driver
        processMonitorStop := false })

/-- The split tunnel is set up when there is an app left to tunnel. -/
def startSplitTunnel (relay : UdpRelay) (assetRelays : List UdpRelay) (v : VpnConnection) :
    Except SdkError (List String × Bool) × VpnConnection :=
  if o.sessionApps = [] then (.ok ([], false), v)
  else
    match setupSplitTunnel o w relay assetRelays o.sessionApps o.enableApiTunneling o.udpTunneling
        v with
    | (.ok processes, v) => (.ok (processes, true), v)
    | (.error e, v) => (.error e, v)

/-- The pins from the relay. -/
def applyRelayPins (g : SharedState) : SharedState :=
  if o.enableCountryBan then
    if w.relayAnswer.resolved.entries = [] then g
    else (applyRelayResolvedOverrides w.relayAnswer.resolved w.relayIo g).2
  else g

/-- The fields of the state that a successful call ends in. -/
def connectedInfo (relay : UdpRelay) (processes : List String) (active : Bool) : ConnectedInfo :=
  ⟨w.now, o.region, relay.relayAddr, "", w.relayAuthMode, active, processes, none⟩

end Phases

/-- `cleanup`. -/
def cleanup (io : HostsIo) (c : Client) : Client :=
  let g := { c.shared with assetIps := ∅, excludedIps := ∅ }
  let g := if c.vpn.bootstrapDnsApplied then (removeOverrides io g).2 else g
  ⟨{ c.vpn with
      processMonitorStop := true
      relay := none
      assetRelays := []
      autoRouter := none
      splitTunnel := none
      bootstrapDnsApplied := false
      goodbyeDpiGuard := none
      countryBanBypassFailure := none
      config := none }, g⟩

/-- `disconnect`, which always returns `Ok`. -/
def disconnect (io : HostsIo) (c : Client) : Client :=
  (cleanup io (c.setState .disconnecting)).setState .disconnected

/-- `connect_ex`. -/
def connectEx (o : ConnectOptions) (w : ConnectWorld) (c : Client) :
    Except SdkError Unit × Client :=
  match refusal c.vpn.state with
  | some e => (.error e, c)
  | none =>
    let c := prepareSession o w c
    match openRelay o w c.vpn with
    | (.error e, v) => (.error e, { c with vpn := v })
    | (.ok relay, v) =>
      let (assetRelays, c) := setupAssetRelays o w relay.relayAddr { c with vpn := v }
      let c := c.setState .configuringSplitTunnel
      match startSplitTunnel o w relay assetRelays c.vpn with
      | (.error e, v) =>
        (.error e, (cleanup w.cleanupIo { c with vpn := v }).setState
          (.error ("Split tunnel failed: " ++ e.toText)))
      | (.ok (processes, active), v) =>
        let c : Client := ⟨v, applyRelayPins o w c.shared⟩
        (.ok (), c.setState (.connected (connectedInfo o w relay processes active)))

/-! ## 4. What the phases leave -/

/-- DNS repair is tried. -/
def ConnectOptions.TriesRepair (o : ConnectOptions) : Prop :=
  o.enableApiTunneling = true ∧ o.tunnelApps ≠ []

/-- DNS repair succeeds: it is tried, something resolves that may be pinned, and the hosts file
can be written. -/
def Repaired (o : ConnectOptions) (w : ConnectWorld) : Prop :=
  o.TriesRepair ∧ ∃ es, resolveBootstrapOverrides w.doh = .ok es ∧
    (allocatePins o.countryBanBypass es).writable ≠ [] ∧ w.dohIo = HostsIo.ok

/-- DNS repair writes a block with these pins, to the end or not: it is tried, they are what may be
pinned of what resolves, and the hosts file is opened. -/
def WritesPins (o : ConnectOptions) (w : ConnectWorld) (pins : List HostOverride) : Prop :=
  o.TriesRepair ∧ (∃ es, resolveBootstrapOverrides w.doh = .ok es ∧
    pins = (allocatePins o.countryBanBypass es).writable) ∧ pins ≠ [] ∧ w.dohIo.Writes

/-- Every call on the driver succeeds. -/
def DriverOutcome.Runs (d : DriverOutcome) : Prop :=
  d.available = true ∧ d.initializeErr = none ∧ d.configureErr = none

/-- The split tunnel is set up, and that fails. -/
def SplitFails (o : ConnectOptions) (w : ConnectWorld) : Prop :=
  o.sessionApps ≠ [] ∧ ¬ w.driver.Runs

/-- Some server matches the region. -/
def ConnectOptions.HasServer (o : ConnectOptions) : Prop :=
  ∃ s ∈ o.availableServers, regionMatches s.region o.region = true

section

variable {o : ConnectOptions} {w : ConnectWorld} {c : Client}

/-- **What DNS repair can do.**  When it succeeds the connection knows; when it does not, the
connection is as it was, and so is the state, except that trying it under a country ban enters
country-ban routing and that a write may be torn (`hostsFile_prepareSession`). -/
theorem repairBootstrapDns_cases (o : ConnectOptions) (w : ConnectWorld) (c : Client) :
    (Repaired o w ∧ (repairBootstrapDns o w c).vpn = { c.vpn with bootstrapDnsApplied := true } ∧
      (repairBootstrapDns o w c).shared.excludedIps = c.shared.excludedIps ∧
      (repairBootstrapDns o w c).shared.assetIps = c.shared.assetIps) ∨
    (¬ Repaired o w ∧ (repairBootstrapDns o w c).vpn = c.vpn ∧
      ((repairBootstrapDns o w c).shared = c.shared ∨
        (o.TriesRepair ∧
          BootstrapFailed o.countryBanBypass c.shared (repairBootstrapDns o w c).shared ∧
          ((∀ n, ¬ w.dohIo.Tears n) →
            (repairBootstrapDns o w c).shared.hostsFile = c.shared.hostsFile)))) := by
  have htry : (o.enableApiTunneling && !o.tunnelApps.isEmpty) = true ↔ o.TriesRepair := by
    simp [ConnectOptions.TriesRepair]
  by_cases ht : o.TriesRepair
  · have hnext := applyBootstrapOverrides_cases o.countryBanBypass
      (resolveBootstrapOverrides w.doh) w.dohIo c.shared
    simp only [repairBootstrapDns, if_pos (htry.mpr ht)]
    rcases hnext with ⟨es, hes, ⟨hne, hio⟩, hok, hshared⟩ | ⟨⟨e, herr⟩, hfail, hfile, -⟩
    · refine Or.inl ⟨⟨ht, es, hes, hne, hio⟩, ?_⟩
      rw [← Prod.mk.eta (p := applyBootstrapOverrides _ _ _ _), hok, hshared]
      exact ⟨rfl, rfl, rfl⟩
    · refine Or.inr ⟨?_, ?_⟩
      · rintro ⟨-, es, hes, hne, hio⟩
        rw [hes, hio, applyBootstrapOverrides_ok hne] at herr
        exact nomatch herr
      · rw [← Prod.mk.eta (p := applyBootstrapOverrides _ _ _ _), herr]
        exact ⟨rfl, Or.inr ⟨ht, hfail, fun hwhole => hfile.resolve_right
          fun ⟨_, _, _, n, htears, _⟩ => hwhole n htears⟩⟩
  · have hne : ¬ (o.enableApiTunneling && !o.tunnelApps.isEmpty) = true := fun h => ht (htry.mp h)
    rw [repairBootstrapDns, if_neg hne]
    exact Or.inr ⟨fun h => ht h.1, rfl, Or.inl rfl⟩

theorem startGoodbyeDpi_frame (o : ConnectOptions) (w : ConnectWorld) (v : VpnConnection) :
    ∃ guard, startGoodbyeDpi o w v = { v with goodbyeDpiGuard := guard } := by
  rw [startGoodbyeDpi]
  split
  · split
    · exact ⟨_, rfl⟩
    · exact ⟨_, rfl⟩
  · exact ⟨_, rfl⟩

/-- **What is so before the relay address is resolved**, whether or not DNS repair succeeded. -/
theorem prepareSession_cases (o : ConnectOptions) (w : ConnectWorld) (c : Client) :
    (prepareSession o w c).vpn.state = .fetchingConfig ∧
    ((Repaired o w ∧ (prepareSession o w c).vpn.bootstrapDnsApplied = true) ∨
    (¬ Repaired o w ∧ (prepareSession o w c).vpn.bootstrapDnsApplied = c.vpn.bootstrapDnsApplied ∧
      ((prepareSession o w c).shared = resolveExclusions o w c.shared ∨
        (o.TriesRepair ∧ BootstrapFailed o.countryBanBypass (resolveExclusions o w c.shared)
            (prepareSession o w c).shared ∧
          ((∀ n, ¬ w.dohIo.Tears n) → (prepareSession o w c).shared.hostsFile =
            (resolveExclusions o w c.shared).hostsFile))))) := by
  obtain ⟨guard, hdpi⟩ := startGoodbyeDpi_frame o w (repairBootstrapDns o w
    (Client.setState ⟨c.vpn, resolveExclusions o w c.shared⟩ .fetchingConfig)).vpn
  have happlied := congrArg VpnConnection.bootstrapDnsApplied hdpi
  change (startGoodbyeDpi o w _).state = _ ∧ _
  rw [hdpi]
  rcases repairBootstrapDns_cases o w
    (Client.setState ⟨c.vpn, resolveExclusions o w c.shared⟩ .fetchingConfig) with
    ⟨hrep, hvpn, -, -⟩ | ⟨hrep, hvpn, hshared⟩
  · refine ⟨by rw [hvpn]; rfl, Or.inl ⟨hrep, ?_⟩⟩
    exact happlied.trans (by rw [hvpn])
  · refine ⟨by rw [hvpn]; rfl, Or.inr ⟨hrep, ?_, hshared⟩⟩
    exact happlied.trans (by rw [hvpn]; rfl)

theorem resolveExclusions_hostsFile (o : ConnectOptions) (w : ConnectWorld) (g : SharedState) :
    (resolveExclusions o w g).hostsFile = g.hostsFile := by
  rw [resolveExclusions]
  split <;> rfl

/-- **What a repair that writes leaves of the hosts file.** -/
theorem hostsFile_prepareSession {pins : List HostOverride} (h : WritesPins o w pins) :
    (prepareSession o w c).shared.hostsFile =
      w.dohIo.leaves c.shared.hostsFile (withBlock c.shared.hostsFile pins) := by
  obtain ⟨⟨hapi, happs⟩, ⟨es, hes, rfl⟩, hne, hread, -⟩ := h
  have htry : (o.enableApiTunneling && !o.tunnelApps.isEmpty) = true := by
    simp [hapi, happs]
  have hfile := applyBootstrapOverrides_leaves hne hread (resolveExclusions o w c.shared)
  rw [resolveExclusions_hostsFile] at hfile
  rw [← hfile, ← hes]
  simp only [prepareSession, repairBootstrapDns, if_pos htry, Client.setState]
  split
  · rename_i heq
    rw [heq]
  · rename_i heq
    rw [heq]

/-- **How opening the relay ends**: with no server for the region, with no socket, or open. -/
theorem openRelay_cases (o : ConnectOptions) (w : ConnectWorld) (v : VpnConnection) :
    (¬ o.HasServer ∧ ∃ e, openRelay o w v = (.error e, v)) ∨
    ∃ addr, o.HasServer ∧ resolveRelayForRegion o.region o.availableServers = .ok addr ∧
      ((w.relaySocket ≠ .opened ∧ ∃ e, openRelay o w v =
          (.error e, { v with config := some ⟨o.region, addr, ""⟩, state := .connecting })) ∨
        (w.relaySocket = .opened ∧ openRelay o w v = (.ok ⟨addr⟩, { v with
          config := some ⟨o.region, addr, ""⟩
          state := .connecting
          relay := some ⟨addr⟩ }))) := by
  have hserver := @resolveRelayForRegion_ok_iff o.region o.availableServers
  rw [openRelay]
  cases hr : resolveRelayForRegion o.region o.availableServers with
  | error e =>
    refine Or.inl ⟨fun hs => ?_, e, rfl⟩
    obtain ⟨addr, haddr⟩ := hserver.mpr hs
    rw [hr] at haddr
    exact nomatch haddr
  | ok addr =>
    have hs : o.HasServer := hserver.mp ⟨addr, hr⟩
    refine Or.inr ⟨addr, hs, rfl, ?_⟩
    cases hsock : w.relaySocket with
    | opened => exact Or.inr ⟨rfl, rfl⟩
    | bindFailed e => exact Or.inl ⟨nofun, _, rfl⟩
    | timeoutFailed e => exact Or.inl ⟨nofun, _, rfl⟩

/-- Setting up the asset relays changes nothing but them and the asset addresses. -/
theorem setupAssetRelays_frame (o : ConnectOptions) (w : ConnectWorld) (addr : SocketAddr)
    (c : Client) :
    ∃ relays assets, (setupAssetRelays o w addr c).2 =
      ⟨{ c.vpn with assetRelays := relays }, { c.shared with assetIps := assets }⟩ := by
  simp only [setupAssetRelays]
  split
  · exact ⟨_, _, rfl⟩
  · split
    · exact ⟨_, _, rfl⟩
    · split
      · exact ⟨_, _, rfl⟩
      · exact ⟨_, _, rfl⟩

/-- The driver of the connection has the session's flags. -/
def HasFlags (o : ConnectOptions) (v : VpnConnection) : Prop :=
  ∃ d, v.splitTunnel = some d ∧ d.apiTunnelingEnabled = o.enableApiTunneling ∧
    d.udpTunnelingEnabled = o.udpTunneling

/-- **How the split tunnel starts**: not at all, for want of an app; in an error of the driver, which
leaves the connection as it was; or with a driver and a router of the session. -/
theorem startSplitTunnel_cases (o : ConnectOptions) (w : ConnectWorld) (relay : UdpRelay)
    (assetRelays : List UdpRelay) (v : VpnConnection) :
    (o.sessionApps = [] ∧ startSplitTunnel o w relay assetRelays v = (.ok ([], false), v)) ∨
    (SplitFails o w ∧ ∃ e, startSplitTunnel o w relay assetRelays v = (.error e, v)) ∨
    (o.sessionApps ≠ [] ∧ w.driver.Runs ∧
      startSplitTunnel o w relay assetRelays v = (.ok (w.driver.tunneledProcesses, true), { v with
        autoRouter := some (sessionRouter o w relay)
        splitTunnel := some
          ⟨o.sessionApps, o.enableApiTunneling, o.udpTunneling, relay, assetRelays⟩
        processMonitorStop := false })) := by
  rw [startSplitTunnel]
  by_cases happs : o.sessionApps = []
  · rw [if_pos happs]
    exact Or.inl ⟨happs, rfl⟩
  rw [if_neg happs, setupSplitTunnel]
  cases havail : w.driver.available with
  | false =>
    refine Or.inr (Or.inl ⟨⟨happs, fun hr => ?_⟩, _, rfl⟩)
    rw [hr.1] at havail
    exact nomatch havail
  | true =>
    cases hinit : w.driver.initializeErr with
    | some e =>
      refine Or.inr (Or.inl ⟨⟨happs, fun hr => ?_⟩, _, rfl⟩)
      rw [hr.2.1] at hinit
      exact nomatch hinit
    | none =>
      cases hconf : w.driver.configureErr with
      | some e =>
        refine Or.inr (Or.inl ⟨⟨happs, fun hr => ?_⟩, _, rfl⟩)
        rw [hr.2.2] at hconf
        exact nomatch hconf
      | none => exact Or.inr (Or.inr ⟨happs, ⟨havail, hinit, hconf⟩, rfl⟩)

end

/-! ## 5. What a call can do -/

/-- **Everything a call of `connect_ex` can do.** -/
inductive ConnectOutcome (o : ConnectOptions) (w : ConnectWorld) (c : Client) :
    Except SdkError Unit → Client → Prop
  /-- The connection is busy. -/
  | refused (e : SdkError) (hbusy : refusal c.vpn.state = some e) : ConnectOutcome o w c (.error e) c
  /-- The first `?`. -/
  | noServer (e : SdkError) (hidle : refusal c.vpn.state = none) (hserver : ¬ o.HasServer) :
      ConnectOutcome o w c (.error e) (prepareSession o w c)
  /-- The second `?`. -/
  | noSocket (e : SdkError) (v : VpnConnection) (hidle : refusal c.vpn.state = none)
      (hserver : o.HasServer) (hsocket : w.relaySocket ≠ .opened) (hstate : v.state = .connecting)
      (happlied : v.bootstrapDnsApplied = (prepareSession o w c).vpn.bootstrapDnsApplied) :
      ConnectOutcome o w c (.error e) ⟨v, (prepareSession o w c).shared⟩
  /-- The split tunnel fails, and the session is cleaned up. -/
  | splitFailed (e : SdkError) (m : String) (v : VpnConnection) (assets : Map Ipv4Addr String)
      (hidle : refusal c.vpn.state = none)
      (hserver : o.HasServer) (hsocket : w.relaySocket = .opened) (hsplit : SplitFails o w)
      (happlied : v.bootstrapDnsApplied = (prepareSession o w c).vpn.bootstrapDnsApplied) :
      ConnectOutcome o w c (.error e)
        ((cleanup w.cleanupIo
          ⟨v, { (prepareSession o w c).shared with assetIps := assets }⟩).setState (.error m))
  | connected (info : ConnectedInfo) (v : VpnConnection) (assets : Map Ipv4Addr String)
      (hidle : refusal c.vpn.state = none)
      (hserver : o.HasServer) (hsocket : w.relaySocket = .opened) (hsplit : ¬ SplitFails o w)
      (happlied : v.bootstrapDnsApplied = (prepareSession o w c).vpn.bootstrapDnsApplied)
      (hflags : o.sessionApps ≠ [] → HasFlags o v) :
      ConnectOutcome o w c (.ok ())
        (Client.setState
          ⟨v, applyRelayPins o w { (prepareSession o w c).shared with assetIps := assets }⟩
          (.connected info))

theorem connectEx_outcome (o : ConnectOptions) (w : ConnectWorld) (c : Client) :
    ConnectOutcome o w c (connectEx o w c).1 (connectEx o w c).2 := by
  rw [connectEx]
  cases hbusy : refusal c.vpn.state with
  | some e => exact ConnectOutcome.refused e hbusy
  | none =>
    dsimp only
    rcases openRelay_cases o w (prepareSession o w c).vpn with ⟨hserver, e, hopen⟩ |
      ⟨addr, hserver, -, ⟨hsocket, e, hopen⟩ | ⟨hsocket, hopen⟩⟩
    · rw [hopen]
      exact ConnectOutcome.noServer e hbusy hserver
    · rw [hopen]
      exact ConnectOutcome.noSocket e _ hbusy hserver hsocket rfl rfl
    · rw [hopen]
      dsimp only
      obtain ⟨relays, assets, hassets⟩ := setupAssetRelays_frame o w addr
        ⟨{ (prepareSession o w c).vpn with
            config := some ⟨o.region, addr, ""⟩
            state := .connecting
            relay := some ⟨addr⟩ }, (prepareSession o w c).shared⟩
      rw [← Prod.mk.eta (p := setupAssetRelays _ _ _ _), hassets]
      dsimp only [Client.setState]
      rcases startSplitTunnel_cases o w ⟨addr⟩ _ _ with ⟨happs, hstart⟩ |
        ⟨hsplit, e, hstart⟩ | ⟨happs, hruns, hstart⟩
      · rw [hstart]
        exact ConnectOutcome.connected _ _ assets hbusy hserver hsocket (fun h => h.1 happs) rfl
          fun h => absurd happs h
      · rw [hstart]
        exact ConnectOutcome.splitFailed e _ _ assets hbusy hserver hsocket hsplit rfl
      · rw [hstart]
        exact ConnectOutcome.connected _ _ assets hbusy hserver hsocket (fun h => h.2 hruns) rfl
          fun _ => ⟨_, rfl, rfl, rfl⟩

/-! ## 6. Sessions for examples -/

/-- A session through Singapore with one server, and every option off. -/
def singaporeOptions : ConnectOptions :=
  { ConnectOptions.ofConnect "singapore" ["RobloxPlayerBeta.exe"] with
    availableServers := [⟨"singapore", ⟨.v4 ⟨54, 255, 205, 216⟩, 51821⟩, some 30⟩] }

/-- A driver that works. -/
def workingDriver : DriverOutcome := ⟨true, none, none, ["RobloxPlayerBeta.exe"]⟩

/-- A network that blocks DNS over HTTPS, with a relay that answers as given and a driver that
fares as given. -/
def blockedWorld (answers : ResolveAnswers) (driver : DriverOutcome) : ConnectWorld where
  now := 0
  millis := 0
  excluded := ∅
  doh :=
    { clientErr := none
      main := ⟨⟨fun _ _ => .requestFailed "blocked", fun _ => false⟩, [], Nat.zero_le _⟩
      retry := fun _ => ⟨⟨fun _ _ => .requestFailed "blocked", fun _ => false⟩, [], Nat.zero_le _⟩ }
  dohIo := HostsIo.ok
  goodbyeDpi := .ok none
  relaySocket := .opened
  relayAuthMode := "authenticated"
  assets :=
    { resolved := ∅
      serverAddr := fun _ => ⟨.v4 Ipv4Addr.unspecified, 0⟩
      shuffleFar := ⟨id, fun l => List.Perm.refl l⟩
      shuffleRest := ⟨id, fun l => List.Perm.refl l⟩
      comesUp := fun _ => true }
  driver := driver
  relayAnswer := relayReplying answers
  relayAnswer_hosts := rfl
  relayIo := HostsIo.ok
  cleanupIo := HostsIo.ok

end SwiftTunnel
