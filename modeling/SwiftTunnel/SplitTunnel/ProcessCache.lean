/-
# The process cache: which local sockets belong to a tunnel app

`process_cache.rs`.  A snapshot lists the owner of each local socket and the name of each
process; workers read it without locks and a writer replaces it whole.  `isTunnelConnection` is
the ownership test, with the fallback to a socket bound to `0.0.0.0`, and `isGameServer` the
destination test that stands in for it when the owner is not known.

`str::to_lowercase` is a parameter of the writers (`lower`): it is the full Unicode mapping, and
nothing here depends on which mapping it is.

* `isTunnelConnection_iff`: the ownership test is the tunnel-app test on the listed owner.
* `isGameServer_iff`: the destination test, as a condition on address, port and protocol.

The writers are the operations of one execution at a time; executions that overlap are in `Writers`,
and what a sequence of operations leaves in a snapshot is in `TunnelApps`.
-/
import Mathlib.Data.Finset.Card
import SwiftTunnel.Net
import SwiftTunnel.Lib.Text

namespace SwiftTunnel

open Rust

/-! ## 1. Destinations -/

/-- `DNS_PORT`. -/
def dnsPort : UInt16 := 53

/-- `ROBLOX_RANGES`: network and mask. -/
def robloxRanges : List (BitVec 32 × BitVec 32) :=
  [ (0x80740000, 0xFFFF8000), (0xD1CE2800, 0xFFFFF800), (0x678C1C00, 0xFFFFFE00),
    (0x678EDC00, 0xFFFFFE00), (0x17ADC000, 0xFFFFFF00), (0x8DC10300, 0xFFFFFF00),
    (0xCDC93E00, 0xFFFFFF00), (0xCC09B800, 0xFFFFFF00), (0xCC0DA800, 0xFFFFFC00),
    (0xCC0DAC00, 0xFFFFFE00) ]

/-- `ROBLOX_PORT_MIN`. -/
def robloxPortMin : UInt16 := 49152

/-- `ROBLOX_PORT_MAX`. -/
def robloxPortMax : UInt16 := 65535

/-- `ip_in_range`. -/
def ipInRange (ip : Ipv4Addr) (network mask : BitVec 32) : Bool :=
  ip.toBits &&& mask == network &&& mask

/-- `is_roblox_game_server_ip`. -/
def isRobloxGameServerIp (ip : Ipv4Addr) : Bool :=
  robloxRanges.any (fun r => ipInRange ip r.1 r.2)

/-- `is_roblox_game_server`. -/
def isRobloxGameServer (dstIp : Ipv4Addr) (dstPort : UInt16) (protocol : Protocol)
    (apiTunneling : Bool) : Bool :=
  if dstPort = dnsPort then false
  else match protocol with
    | .udp =>
      if dstPort < robloxPortMin ∨ dstPort > robloxPortMax then false
      else robloxRanges.any (fun r => ipInRange dstIp r.1 r.2)
    | .tcp =>
      if apiTunneling then robloxRanges.any (fun r => ipInRange dstIp r.1 r.2) else false

/-- `is_game_server`. -/
def isGameServer (dstIp : Ipv4Addr) (dstPort : UInt16) (protocol : Protocol)
    (apiTunneling : Bool) : Bool :=
  isRobloxGameServer dstIp dstPort protocol apiTunneling

/-- `is_likely_game_traffic`. -/
def isLikelyGameTraffic (dstPort : UInt16) (protocol : Protocol) (apiTunneling : Bool) : Bool :=
  if dstPort = dnsPort then false
  else match protocol with
    | .udp => true
    | .tcp => apiTunneling

theorem isLikelyGameTraffic_iff {dstPort : UInt16} {protocol : Protocol} {api : Bool} :
    isLikelyGameTraffic dstPort protocol api = true ↔
      dstPort ≠ dnsPort ∧ (protocol = .udp ∨ api = true) := by
  unfold isLikelyGameTraffic
  split
  · rename_i h
    simp [h]
  · rename_i h
    cases protocol <;> simp [h]

/-- The destination test: likely traffic to a Roblox network, on a game port when it is UDP. -/
theorem isGameServer_iff {dstIp : Ipv4Addr} {dstPort : UInt16} {protocol : Protocol} {api : Bool} :
    isGameServer dstIp dstPort protocol api = true ↔
      dstPort ≠ dnsPort ∧ (protocol = .udp ∨ api = true) ∧ isRobloxGameServerIp dstIp = true ∧
        (protocol = .udp → robloxPortMin ≤ dstPort) := by
  have hmax : ¬ dstPort > robloxPortMax := by
    have := dstPort.toNat_lt
    simp only [robloxPortMax, gt_iff_lt, UInt16.lt_iff_toNat_lt]
    have h : (65535 : UInt16).toNat = 65535 := rfl
    omega
  unfold isGameServer isRobloxGameServer isRobloxGameServerIp
  split
  · rename_i h
    simp [h]
  · rename_i h
    cases protocol with
    | udp =>
      by_cases hmin : dstPort < robloxPortMin
      · simp [hmin, UInt16.not_le.mpr hmin]
      · simp [hmin, hmax, h, UInt16.not_lt.mp hmin]
    | tcp => cases api <;> simp [h]

/-! ## 2. Snapshots -/

/-- `ProcessSnapshot`.  `created_at` is left out: nothing reads it. -/
structure ProcessSnapshot where
  connections : Map ConnectionKey Pid
  pidNames : Map Pid String
  tunnelApps : Finset String
  tunnelUdpPorts : Finset UInt16
  version : UInt64

/-- `name.trim_end_matches(".exe")`. -/
def exeStem (name : String) : String := trimEndMatches ".exe" name

/-- `pid_is_tunnel`, and with a snapshot's own maps `is_tunnel_pid`: the process has a name,
and the name is listed, or its stem holds a listed stem, or is held by one. -/
def pidIsTunnel (pid : Pid) (pidNames : Map Pid String) (tunnelApps : Finset String) : Bool :=
  match pidNames.lookup pid with
  | none => false
  | some name =>
    decide (name ∈ tunnelApps) ||
      decide (∃ app ∈ tunnelApps, contains (exeStem name) (exeStem app) = true ∨
        contains (exeStem app) (exeStem name) = true)

/-- `compute_tunnel_udp_ports`. -/
def computeTunnelUdpPorts (connections : Map ConnectionKey Pid) (pidNames : Map Pid String)
    (tunnelApps : Finset String) : Finset UInt16 :=
  ((connections.entries.filter (fun e =>
    e.1.protocol = .udp ∧ pidIsTunnel e.2 pidNames tunnelApps = true)).map
      (fun e => e.1.localPort)).toFinset

namespace ProcessSnapshot

/-- `ProcessSnapshot::empty`. -/
def empty (tunnelApps : Finset String) : ProcessSnapshot := ⟨∅, ∅, tunnelApps, ∅, 0⟩

/-- `is_tunnel_pid`. -/
def isTunnelPid (s : ProcessSnapshot) (pid : Pid) : Bool := pidIsTunnel pid s.pidNames s.tunnelApps

/-- `is_tunnel_connection`. -/
def isTunnelConnection (s : ProcessSnapshot) (localIp : Ipv4Addr) (localPort : UInt16)
    (protocol : Protocol) : Bool :=
  match s.connections.lookup ⟨localIp, localPort, protocol⟩ with
  | some pid => s.isTunnelPid pid
  | none =>
    if localIp ≠ Ipv4Addr.unspecified then
      match s.connections.lookup ⟨Ipv4Addr.unspecified, localPort, protocol⟩ with
      | some pid => s.isTunnelPid pid
      | none => false
    else false

/-- `should_tunnel_by_port_fallback`. -/
def shouldTunnelByPortFallback (s : ProcessSnapshot) (localPort : UInt16) (protocol : Protocol) :
    Bool :=
  protocol == .udp && decide (localPort ∈ s.tunnelUdpPorts)

/-- `is_tunnel_source`. -/
def isTunnelSource (s : ProcessSnapshot) (localIp : Ipv4Addr) (localPort : UInt16)
    (protocol : Protocol) : Bool :=
  s.isTunnelConnection localIp localPort protocol || s.shouldTunnelByPortFallback localPort protocol

/-- `should_tunnel_v3`. -/
def shouldTunnelV3 (s : ProcessSnapshot) (localIp : Ipv4Addr) (localPort : UInt16)
    (protocol : Protocol) (dstIp : Ipv4Addr) (dstPort : UInt16) (apiTunneling : Bool) : Bool :=
  if s.isTunnelConnection localIp localPort protocol then
    isLikelyGameTraffic dstPort protocol apiTunneling
  else isGameServer dstIp dstPort protocol apiTunneling

/-- The process that the snapshot lists as owner of a local socket: by its exact key, or by the
`0.0.0.0` key when there is no exact one. -/
def ownerPid (s : ProcessSnapshot) (localIp : Ipv4Addr) (localPort : UInt16) (protocol : Protocol) :
    Option Pid :=
  (s.connections.lookup ⟨localIp, localPort, protocol⟩).or
    (s.connections.lookup ⟨Ipv4Addr.unspecified, localPort, protocol⟩)

/-- **The ownership test is the tunnel-app test on the listed owner.** -/
theorem isTunnelConnection_iff (s : ProcessSnapshot) (localIp : Ipv4Addr) (localPort : UInt16)
    (protocol : Protocol) :
    s.isTunnelConnection localIp localPort protocol = true ↔
      ∃ pid, s.ownerPid localIp localPort protocol = some pid ∧ s.isTunnelPid pid = true := by
  unfold isTunnelConnection ownerPid
  split
  · rename_i pid h
    simp [h]
  · rename_i h
    simp only [h, Option.none_or]
    by_cases hip : localIp = Ipv4Addr.unspecified
    · subst hip
      simp [h]
    · rw [if_pos hip]
      split
      · rename_i pid h2
        simp [h2]
      · rename_i h2
        simp [h2]

end ProcessSnapshot

/-! ## 3. The cache -/

/-- `LockFreeProcessCache`, used by one writer at a time. -/
structure LockFreeProcessCache where
  current : ProcessSnapshot
  version : UInt64
  tunnelApps : Finset String

namespace LockFreeProcessCache

variable (lower : String → String)

/-- `tunnel_apps.into_iter().map(|s| s.to_lowercase()).collect()`. -/
def appSet (apps : List String) : Finset String := (apps.map lower).toFinset

/-- `new`. -/
def new (tunnelApps : List String) : LockFreeProcessCache :=
  ⟨ProcessSnapshot.empty (appSet lower tunnelApps), 0, appSet lower tunnelApps⟩

/-- The snapshot a writer builds: the maps it was given, the cache's apps, and the UDP ports
these imply. -/
def publish (c : LockFreeProcessCache) (connections : Map ConnectionKey Pid)
    (pidNames : Map Pid String) : LockFreeProcessCache :=
  { c with
    version := c.version + 1
    current :=
      { connections := connections
        pidNames := pidNames
        tunnelApps := c.tunnelApps
        tunnelUdpPorts := computeTunnelUdpPorts connections pidNames c.tunnelApps
        version := c.version + 1 } }

/-- The same process ids with lowercase names. -/
def lowerNames (pidNames : Map Pid String) : Map Pid String :=
  ⟨pidNames.entries.map (fun e => ⟨e.1, lower e.2⟩), by
    have h := pidNames.nodupKeys
    unfold List.NodupKeys List.keys at h ⊢
    simpa [List.map_map, Function.comp_def] using h⟩

/-- `update`. -/
def update (c : LockFreeProcessCache) (connections : Map ConnectionKey Pid)
    (pidNames : Map Pid String) : LockFreeProcessCache :=
  c.publish connections (lowerNames lower pidNames)

/-- `set_tunnel_apps`. -/
def setTunnelApps (c : LockFreeProcessCache) (apps : List String) : LockFreeProcessCache :=
  { c with tunnelApps := appSet lower apps }.publish c.current.connections c.current.pidNames

/-- `register_process_immediate`. -/
def registerProcessImmediate (c : LockFreeProcessCache) (pid : Pid) (name : String) :
    LockFreeProcessCache :=
  c.publish c.current.connections (c.current.pidNames.insert pid (lower name))

end LockFreeProcessCache

end SwiftTunnel
