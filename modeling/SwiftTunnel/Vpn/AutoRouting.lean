/-
# `AutoRouter`: which relay region a game server asks for

`auto_routing.rs`, with the region type of `geolocation.rs`.  The router is shared by the packet
workers (which report game servers), the lookup task (which moves the relay) and the connection
manager.  Each of its methods is one function here: the atomics and locks it takes are fields of
one record, and a try-lock that may fail is an argument.

An `Instant` is its distance in nanoseconds from a fixed one, and a method that reads the clock
takes the time as an argument.  The session epoch and the lookup generation are 64-bit counters
that a process cannot run through, and natural numbers here.

Later modules never unfold the methods.  The last two sections say which fields each operation can
change (the `_frame` lemmas), and what every operation of another thread does to the two that a
lookup's validity hangs on, the enabled flag and the session epoch:

* `evaluateGameServer_ends`: how `evaluate_game_server` ends, at one of its gates or with a lookup.
* `apply_session`: an operation that ends the session raises the epoch, a toggle sets the flag, and
  nothing else touches either.

Each method is one step.  Where the code lets go of one lock and takes another within a method, the
fields in between are not seen by others; the one method in which this shows, `evaluate_game_server`
with a try-lock refused half way, has the refusals as arguments.
-/
import Mathlib.Data.Finset.Basic
import Mathlib.Data.Finset.Dedup
import Mathlib.Data.List.Sort
import SwiftTunnel.Net
import SwiftTunnel.Lib.Text

namespace SwiftTunnel

open Rust

/-! ## 1. Regions, servers and events -/

/-- `geolocation.rs`, `RobloxRegion`. -/
inductive RobloxRegion where
  | singapore
  | tokyo
  | mumbai
  | sydney
  | london
  | amsterdam
  | paris
  | frankfurt
  | warsaw
  | usEast
  | usCentral
  | usWest
  | brazil
  | unknown
  deriving DecidableEq, Repr

namespace RobloxRegion

def bestSwifttunnelRegion : RobloxRegion → Option String
  | unknown => none
  | singapore => some "singapore"
  | tokyo => some "tokyo"
  | mumbai => some "mumbai"
  | sydney => some "sydney"
  | london => some "london"
  | amsterdam => some "amsterdam"
  | paris => some "paris"
  | frankfurt => some "germany"
  | warsaw => some "germany"
  | usEast => some "america"
  | usCentral => some "america"
  | usWest => some "america"
  | brazil => some "brazil"

def displayName : RobloxRegion → String
  | singapore => "Singapore"
  | tokyo => "Tokyo"
  | mumbai => "Mumbai"
  | sydney => "Sydney"
  | london => "London"
  | amsterdam => "Amsterdam"
  | paris => "Paris"
  | frankfurt => "Frankfurt"
  | warsaw => "Warsaw"
  | usEast => "US East"
  | usCentral => "US Central"
  | usWest => "US West"
  | brazil => "Brazil"
  | unknown => "Unknown"

end RobloxRegion

/-- An entry of the list of available servers. -/
structure Server where
  region : String
  addr : SocketAddr
  latency : Option UInt32
  deriving DecidableEq, Repr

/-- The key by which servers are compared: `latency.unwrap_or(u32::MAX)`. -/
def Server.latencyKey (s : Server) : Nat := (s.latency.getD 4294967295).toNat

/-- Nanoseconds from a fixed point of the monotonic clock. -/
abbrev Instant := Int

/-- Nanoseconds. -/
abbrev Duration := Nat

def Duration.fromMillis (ms : Nat) : Duration := ms * 1000000

def Duration.fromSecs (secs : Nat) : Duration := secs * 1000000000

/-- `Instant::duration_since`, which is zero for a later instant. -/
def durationSince (now earlier : Instant) : Duration := (now - earlier).toNat

theorem lt_durationSince_iff {now earlier : Instant} {d : Duration} :
    d < durationSince now earlier ↔ (d : Int) < now - earlier := Int.lt_toNat

theorem le_durationSince_iff {now earlier : Instant} {d : Duration} (hd : 0 < d) :
    d ≤ durationSince now earlier ↔ (d : Int) ≤ now - earlier := by
  rw [← not_lt, ← not_lt, durationSince, Int.toNat_lt' hd]

/-- `AutoRoutingEvent`; the address stands for its text. -/
structure AutoRoutingEvent where
  timestampMs : Nat
  eventType : String
  fromRegion : String
  toRegion : String
  gameServerRegion : String
  reason : String
  location : Option String
  relayAddr : Option SocketAddr
  deriving DecidableEq, Repr

/-- What `evaluate_game_server` sends to the lookup task. -/
structure LookupMessage where
  ip : Ipv4Addr
  generation : Nat
  sessionEpoch : Nat
  deriving DecidableEq, Repr

/-! ## 2. The router -/

def minSwitchInterval : Duration := Duration.fromSecs 10

def maxSwitchesPerMinute : Nat := 3

def maxEventLog : Nat := 20

def sameRegionUpgradeThresholdMs : UInt32 := 10

def gameTrafficQuietHandoff : Duration := Duration.fromSecs 3

def maxTrackedGameTrafficIps : Nat := 4096

def gameTrafficUpdateGranularity : Duration := Duration.fromMillis 250

structure AutoRouter where
  enabled : Bool
  currentGameRegion : Option RobloxRegion
  currentRelayAddr : Option SocketAddr
  currentStRegion : String
  lastSwitchTime : Instant
  /-- The switches counted, and the start of the window they are counted in. -/
  switchesThisMinute : Nat × Instant
  seenGameServers : Finset Ipv4Addr
  availableServers : List Server
  /-- Oldest first. -/
  eventLog : List AutoRoutingEvent
  /-- Whether `lookup_sender` holds the sending end of the task's channel. -/
  lookupSender : Bool
  pendingLookups : Finset Ipv4Addr
  whitelistedRegions : Finset String
  autoRoutingBypassed : Bool
  lookupSessionEpoch : Nat
  activeGameServerIp : Option Ipv4Addr
  gameTraffic : Map Ipv4Addr Instant
  latestLookupGeneration : Nat
  pendingAny : Bool
  forcedServers : Map String String

namespace AutoRouter

/-- `AutoRouter::new`. -/
def new (now : Instant) (enabled : Bool) (initialRegion : String) : AutoRouter where
  enabled := enabled
  currentGameRegion := none
  currentRelayAddr := none
  currentStRegion := initialRegion
  lastSwitchTime := now - minSwitchInterval
  switchesThisMinute := (0, now)
  seenGameServers := ∅
  availableServers := []
  eventLog := []
  lookupSender := false
  pendingLookups := ∅
  whitelistedRegions := ∅
  autoRoutingBypassed := false
  lookupSessionEpoch := 0
  activeGameServerIp := none
  gameTraffic := ∅
  latestLookupGeneration := 0
  pendingAny := false
  forcedServers := ∅

/-! ### Settings -/

def setLookupChannel (r : AutoRouter) : AutoRouter := { r with lookupSender := true }

def setEnabled (r : AutoRouter) (enabled : Bool) : AutoRouter :=
  let wasEnabled := r.enabled
  let r := { r with enabled := enabled }
  if !enabled then
    { r with
      lookupSessionEpoch := r.lookupSessionEpoch + 1
      pendingLookups := ∅
      pendingAny := false }
  else if !wasEnabled then { r with seenGameServers := ∅ }
  else r

def setWhitelistedRegions (r : AutoRouter) (regions : List String) : AutoRouter :=
  let newSet := regions.toFinset
  let r :=
    if r.autoRoutingBypassed then
      match r.currentGameRegion with
      | some region =>
        if region.displayName ∈ newSet then r else { r with autoRoutingBypassed := false }
      | none => r
    else r
  { r with whitelistedRegions := newSet }

def setAvailableServers (r : AutoRouter) (servers : List Server) : AutoRouter :=
  { r with availableServers := servers }

def setCurrentRelay (r : AutoRouter) (addr : SocketAddr) (region : String) : AutoRouter :=
  { r with currentRelayAddr := some addr, currentStRegion := region }

def setForcedServers (r : AutoRouter) (servers : Map String String) : AutoRouter :=
  { r with forcedServers := servers }

def logEvent (r : AutoRouter) (event : AutoRoutingEvent) : AutoRouter :=
  let log := r.eventLog ++ [event]
  { r with eventLog := if maxEventLog < log.length then log.tail else log }

def isRegionWhitelisted (r : AutoRouter) (region : RobloxRegion) : Bool :=
  decide (region.displayName ∈ r.whitelistedRegions)

/-! ### Game traffic and the pin -/

/-- `needs_update` of `note_game_traffic`. -/
def trafficUpdateDue (r : AutoRouter) (now : Instant) (ip : Ipv4Addr) : Bool :=
  match r.gameTraffic.lookup ip with
  | some last => decide (gameTrafficUpdateGranularity ≤ durationSince now last)
  | none => true

def noteGameTraffic (r : AutoRouter) (now : Instant) (ip : Ipv4Addr) : AutoRouter :=
  if r.trafficUpdateDue now ip then
    if maxTrackedGameTrafficIps ≤ r.gameTraffic.entries.length ∧ ip ∉ r.gameTraffic then r
    else { r with gameTraffic := r.gameTraffic.insert ip now }
  else r

def otherGameTrafficQuiet (r : AutoRouter) (now : Instant) (candidate : Ipv4Addr) : Bool :=
  (r.gameTraffic.entries.filter fun e => e.1 ≠ candidate).all fun e =>
    decide (gameTrafficQuietHandoff ≤ durationSince now e.2)

def gameServerIsQuiet (r : AutoRouter) (now : Instant) (ip : Ipv4Addr) : Bool :=
  match r.gameTraffic.lookup ip with
  | some last => decide (gameTrafficQuietHandoff ≤ durationSince now last)
  | none => true

def recordGameRegion (r : AutoRouter) (region : RobloxRegion) : AutoRouter :=
  { r with currentGameRegion := some region }

def pinActiveGameServer (r : AutoRouter) (ip : Ipv4Addr) : Bool × AutoRouter :=
  (true, { r with activeGameServerIp := some ip })

def isCurrentLookupSession (r : AutoRouter) (epoch : Nat) : Bool := r.lookupSessionEpoch == epoch

def pinActiveGameServerForSession (r : AutoRouter) (now : Instant) (ip : Ipv4Addr)
    (sessionEpoch : Nat) : Bool × AutoRouter :=
  if !r.isCurrentLookupSession sessionEpoch then (false, r)
  else if !r.otherGameTrafficQuiet now ip then (false, r)
  else (true, { r with activeGameServerIp := some ip })

/-- `maybe_expire_quiet_pin`.  The method is one step, so that its check under the write lock
finds what the check before it found. -/
def maybeExpireQuietPin (r : AutoRouter) (now : Instant) : Bool × AutoRouter :=
  match r.activeGameServerIp with
  | none => (false, r)
  | some active =>
    if !r.gameServerIsQuiet now active then (false, r)
    else (true, { r with activeGameServerIp := none, seenGameServers := ∅ })

/-! ### Lookups -/

/-- Which try-locks of `evaluate_game_server` are granted. -/
structure TryLocks where
  seenRead : Bool
  seenWrite : Bool
  pendingWrite : Bool
  deriving DecidableEq, Repr

/-- The end of `evaluate_game_server`, which registers a server and sends its lookup. -/
def enqueueLookup (r : AutoRouter) (locks : TryLocks) (ip : Ipv4Addr) :
    Option LookupMessage × AutoRouter :=
  if !locks.seenWrite then (none, r)
  else
    let sessionEpoch := r.lookupSessionEpoch
    let generation := r.latestLookupGeneration + 1
    (if r.lookupSender then some ⟨ip, generation, sessionEpoch⟩ else none,
      { r with
        seenGameServers := insert ip r.seenGameServers
        latestLookupGeneration := generation
        pendingLookups := if locks.pendingWrite then insert ip r.pendingLookups else r.pendingLookups
        pendingAny := if locks.pendingWrite then true else r.pendingAny })

/-- `evaluate_game_server`, with the message that it sends. -/
def evaluateGameServer (r : AutoRouter) (locks : TryLocks) (now : Instant) (ip : Ipv4Addr) :
    Option LookupMessage × AutoRouter :=
  let r := r.noteGameTraffic now ip
  if !r.enabled then (none, r)
  else if r.pendingAny then (none, r)
  else if !r.otherGameTrafficQuiet now ip then (none, r)
  else if !locks.seenRead then (none, r)
  else if ip ∈ r.seenGameServers then
    match r.maybeExpireQuietPin now with
    | (false, r) => (none, r)
    | (true, r) => r.enqueueLookup locks ip
  else r.enqueueLookup locks ip

/-- `should_process_lookup_result`. -/
def shouldProcessLookupResult (r : AutoRouter) (ip : Ipv4Addr) : Bool :=
  decide (ip ∈ r.pendingLookups)

def lookupCommitAllowed (r : AutoRouter) (ip : Ipv4Addr) (sessionEpoch : Nat) : Bool :=
  r.isCurrentLookupSession sessionEpoch && decide (ip ∈ r.pendingLookups)

def clearPendingLookup (r : AutoRouter) (ip : Ipv4Addr) : AutoRouter :=
  let pending := r.pendingLookups.erase ip
  { r with
    pendingLookups := pending
    pendingAny := if pending = ∅ then false else r.pendingAny }

/-! ### Choosing a server -/

/-- A server's region is the wanted one or `<wanted>-…`. -/
def inFamily (wanted region : String) : Bool :=
  region == wanted || startsWith region (wanted ++ "-")

/-- The available servers of a region family, nearest first; `sort_by_key` keeps the order of
servers with equal keys. -/
def serversOf (r : AutoRouter) (wanted : String) : List (String × SocketAddr) :=
  ((r.availableServers.filter fun s => inFamily wanted s.region).insertionSort
    fun a b => a.latencyKey ≤ b.latencyKey).map fun s => (s.region, s.addr)

def bypassedEvent (r : AutoRouter) (millis : Nat) (gameRegion : RobloxRegion) :
    AutoRoutingEvent where
  timestampMs := millis
  eventType := "bypassed"
  fromRegion := r.currentStRegion
  toRegion := "BYPASS"
  gameServerRegion := gameRegion.displayName
  reason := gameRegion.displayName ++ " is whitelisted - using direct connection"
  location := none
  relayAddr := none

/-- `get_best_server_for_region`, where a forced server comes first. -/
def getBestServerForRegion (r : AutoRouter) (millis : Nat) (gameRegion : RobloxRegion) :
    Option (String × SocketAddr) × AutoRouter :=
  if gameRegion = .unknown then (none, r)
  else if r.isRegionWhitelisted gameRegion then
    let r := { r with autoRoutingBypassed := true, currentGameRegion := some gameRegion }
    (none, r.logEvent (r.bypassedEvent millis gameRegion))
  else
    let r := { r with autoRoutingBypassed := false }
    match gameRegion.bestSwifttunnelRegion with
    | none => (none, r)
    | some bestStRegion =>
      if inFamily bestStRegion r.currentStRegion then
        (none, { r with currentGameRegion := some gameRegion })
      else
        let forced := (r.forcedServers.lookup bestStRegion).bind fun forced =>
          r.availableServers.find? fun s => s.region == forced
        match forced with
        | some s => (some (s.region, s.addr), r)
        | none => ((r.serversOf bestStRegion).head?, r)

def getCandidatesForRegion (r : AutoRouter) (millis : Nat) (gameRegion : RobloxRegion) :
    Option (List (String × SocketAddr)) × AutoRouter :=
  if gameRegion = .unknown then (none, r)
  else if r.isRegionWhitelisted gameRegion then
    let r := { r with autoRoutingBypassed := true, currentGameRegion := some gameRegion }
    (none, r.logEvent (r.bypassedEvent millis gameRegion))
  else
    let r := { r with autoRoutingBypassed := false }
    match gameRegion.bestSwifttunnelRegion with
    | none => (none, r)
    | some bestStRegion =>
      if inFamily bestStRegion r.currentStRegion then
        (none, { r with currentGameRegion := some gameRegion })
      else
        let candidates := r.serversOf bestStRegion
        if candidates = [] then (none, r) else (some candidates, r)

/-- `switch_allowed_precheck`; the new address is not looked at. -/
def switchAllowedPrecheck (r : AutoRouter) (toRegion : String)
    (latencyImprovementMs : Option UInt32) : Bool :=
  let currentSt := r.currentStRegion
  let regionsMatch := currentSt == toRegion || startsWith currentSt (toRegion ++ "-") ||
    startsWith toRegion (currentSt ++ "-")
  if regionsMatch then
    (latencyImprovementMs.map fun ms => decide (sameRegionUpgradeThresholdMs ≤ ms)).getD false
  else true

/-! ### Switching -/

def switchedEvent (millis : Nat) (fromRegion toRegion : String) (gameRegion : RobloxRegion)
    (newAddr : SocketAddr) (location : Option String) : AutoRoutingEvent where
  timestampMs := millis
  eventType := "relay_switched"
  fromRegion := fromRegion
  toRegion := toRegion
  gameServerRegion := gameRegion.displayName
  reason := "Game server moved to " ++ gameRegion.displayName ++ " - switching from " ++
    fromRegion ++ " to " ++ toRegion
  location := location
  relayAddr := some newAddr

def recordSwitch (r : AutoRouter) (now : Instant) (millis : Nat) (fromRegion toRegion : String)
    (gameRegion : RobloxRegion) (newAddr : SocketAddr) (location : Option String) :
    Bool × AutoRouter :=
  if r.currentStRegion = toRegion then (false, r)
  else if durationSince now r.lastSwitchTime < minSwitchInterval then (false, r)
  else
    let r :=
      if Duration.fromSecs 60 < durationSince now r.switchesThisMinute.2 then
        { r with switchesThisMinute := (0, now) }
      else r
    if maxSwitchesPerMinute ≤ r.switchesThisMinute.1 then (false, r)
    else
      let r :=
        { r with
          switchesThisMinute := (r.switchesThisMinute.1 + 1, r.switchesThisMinute.2)
          lastSwitchTime := now
          currentStRegion := toRegion
          currentRelayAddr := some newAddr
          currentGameRegion := some gameRegion }
      (true, r.logEvent (switchedEvent millis fromRegion toRegion gameRegion newAddr location))

def commitSwitch (r : AutoRouter) (now : Instant) (millis : Nat) (gameRegion : RobloxRegion)
    (selectedRegion : String) (selectedAddr : SocketAddr) (location : Option String) :
    Option (SocketAddr × String) × AutoRouter :=
  match r.recordSwitch now millis r.currentStRegion selectedRegion gameRegion selectedAddr
      location with
  | (true, r) => (some (selectedAddr, selectedRegion), r)
  | (false, r) => (none, r)

def pushDegradedEvent (r : AutoRouter) (millis : Nat) (reason : String) : AutoRouter :=
  r.logEvent
    { timestampMs := millis
      eventType := "degraded"
      fromRegion := r.currentStRegion
      toRegion := r.currentStRegion
      gameServerRegion := "Unknown"
      reason := reason
      location := none
      relayAddr := r.currentRelayAddr }

def reset (r : AutoRouter) : AutoRouter :=
  { r with
    currentGameRegion := none
    currentRelayAddr := none
    activeGameServerIp := none
    seenGameServers := ∅
    pendingLookups := ∅
    pendingAny := false
    gameTraffic := ∅
    lookupSessionEpoch := r.lookupSessionEpoch + 1
    autoRoutingBypassed := false }

end AutoRouter

/-! ## 3. What other threads do to the router

Every call that code other than the lookup task makes while a session runs: the packet workers
(`evaluateGameServer`), the settings, and a disconnect (`reset`). -/

inductive RouterOp where
  | setEnabled (enabled : Bool)
  | setWhitelistedRegions (regions : List String)
  | setAvailableServers (servers : List Server)
  | setCurrentRelay (addr : SocketAddr) (region : String)
  | setForcedServers (servers : Map String String)
  | recordGameRegion (region : RobloxRegion)
  | noteGameTraffic (ip : Ipv4Addr)
  | pinActiveGameServer (ip : Ipv4Addr)
  | pinActiveGameServerForSession (ip : Ipv4Addr) (sessionEpoch : Nat)
  | evaluateGameServer (locks : AutoRouter.TryLocks) (ip : Ipv4Addr)
  | pushDegradedEvent (millis : Nat) (reason : String)
  | reset

namespace AutoRouter

/-- The state after an operation, and the message that it sends. -/
def apply (r : AutoRouter) (now : Instant) : RouterOp → Option LookupMessage × AutoRouter
  | .setEnabled enabled => (none, r.setEnabled enabled)
  | .setWhitelistedRegions regions => (none, r.setWhitelistedRegions regions)
  | .setAvailableServers servers => (none, r.setAvailableServers servers)
  | .setCurrentRelay addr region => (none, r.setCurrentRelay addr region)
  | .setForcedServers servers => (none, r.setForcedServers servers)
  | .recordGameRegion region => (none, r.recordGameRegion region)
  | .noteGameTraffic ip => (none, r.noteGameTraffic now ip)
  | .pinActiveGameServer ip => (none, (r.pinActiveGameServer ip).2)
  | .pinActiveGameServerForSession ip epoch => (none, (r.pinActiveGameServerForSession now ip epoch).2)
  | .evaluateGameServer locks ip => r.evaluateGameServer locks now ip
  | .pushDegradedEvent millis reason => (none, r.pushDegradedEvent millis reason)
  | .reset => (none, r.reset)

end AutoRouter

/-- The operations that end a lookup session: `set_enabled(false)` and `reset`. -/
def RouterOp.endsSession : RouterOp → Bool
  | .setEnabled enabled => !enabled
  | .reset => true
  | _ => false

/-! ## 4. What each operation leaves alone -/

namespace AutoRouter

theorem noteGameTraffic_frame (r : AutoRouter) (now : Instant) (ip : Ipv4Addr) :
    ∃ traffic, r.noteGameTraffic now ip = { r with gameTraffic := traffic } := by
  rw [noteGameTraffic]
  split
  · split
    · exact ⟨r.gameTraffic, rfl⟩
    · exact ⟨_, rfl⟩
  · exact ⟨r.gameTraffic, rfl⟩

theorem setWhitelistedRegions_frame (r : AutoRouter) (regions : List String) :
    ∃ bypassed, r.setWhitelistedRegions regions =
      { r with autoRoutingBypassed := bypassed, whitelistedRegions := regions.toFinset } := by
  simp only [setWhitelistedRegions]
  split
  · split
    · split
      · exact ⟨_, rfl⟩
      · exact ⟨_, rfl⟩
    · exact ⟨_, rfl⟩
  · exact ⟨_, rfl⟩

theorem pinActiveGameServerForSession_frame (r : AutoRouter) (now : Instant) (ip : Ipv4Addr)
    (epoch : Nat) :
    ∃ active, (r.pinActiveGameServerForSession now ip epoch).2 =
      { r with activeGameServerIp := active } := by
  simp only [pinActiveGameServerForSession]
  split
  · exact ⟨r.activeGameServerIp, rfl⟩
  · split
    · exact ⟨r.activeGameServerIp, rfl⟩
    · exact ⟨_, rfl⟩

theorem maybeExpireQuietPin_frame (r : AutoRouter) (now : Instant) :
    ∃ active seen, (r.maybeExpireQuietPin now).2 =
      { r with activeGameServerIp := active, seenGameServers := seen } := by
  simp only [maybeExpireQuietPin]
  split
  · exact ⟨r.activeGameServerIp, r.seenGameServers, rfl⟩
  · split
    · exact ⟨r.activeGameServerIp, r.seenGameServers, rfl⟩
    · exact ⟨_, _, rfl⟩

/-- **How `evaluate_game_server` ends**, beyond the traffic that it notes: it returns at a gate, and
may have dropped the pin, or, with the gates open, it enqueues a lookup. -/
theorem evaluateGameServer_ends (r : AutoRouter) (locks : TryLocks) (now : Instant)
    (ip : Ipv4Addr) :
    (∃ active seen, r.evaluateGameServer locks now ip =
        (none, { r.noteGameTraffic now ip with
          activeGameServerIp := active, seenGameServers := seen })) ∨
      (((r.noteGameTraffic now ip).enabled = true ∧ (r.noteGameTraffic now ip).pendingAny = false ∧
          (r.noteGameTraffic now ip).otherGameTrafficQuiet now ip = true) ∧
        ∃ active seen, r.evaluateGameServer locks now ip =
          ({ r.noteGameTraffic now ip with
            activeGameServerIp := active, seenGameServers := seen } :
              AutoRouter).enqueueLookup locks ip) := by
  simp only [evaluateGameServer]
  generalize r.noteGameTraffic now ip = q
  have hquit : ∃ active seen, (none, q) =
      ((none, { q with activeGameServerIp := active, seenGameServers := seen }) :
        Option LookupMessage × AutoRouter) := ⟨q.activeGameServerIp, q.seenGameServers, rfl⟩
  split
  · exact Or.inl hquit
  rename_i hen
  split
  · exact Or.inl hquit
  rename_i hany
  split
  · exact Or.inl hquit
  rename_i hquiet
  have hgates : q.enabled = true ∧ q.pendingAny = false ∧ q.otherGameTrafficQuiet now ip = true :=
    ⟨by simpa using hen, by simpa using hany, by simpa using hquiet⟩
  split
  · exact Or.inl hquit
  split
  · obtain ⟨active, seen, hexp⟩ := q.maybeExpireQuietPin_frame now
    split
    · rename_i q' h
      rw [h] at hexp
      exact Or.inl ⟨active, seen, congrArg (Prod.mk none) hexp⟩
    · rename_i q' h
      rw [h] at hexp
      exact Or.inr ⟨hgates, active, seen, congrArg (enqueueLookup · locks ip) hexp⟩
  · exact Or.inr ⟨hgates, q.activeGameServerIp, q.seenGameServers, rfl⟩

/-- Beyond the traffic that it notes, `evaluate_game_server` changes the lookups and the pin. -/
theorem evaluateGameServer_frame (r : AutoRouter) (locks : TryLocks) (now : Instant)
    (ip : Ipv4Addr) :
    ∃ active seen pending any generation, (r.evaluateGameServer locks now ip).2 =
      { r.noteGameTraffic now ip with
        activeGameServerIp := active
        seenGameServers := seen
        pendingLookups := pending
        pendingAny := any
        latestLookupGeneration := generation } := by
  rcases r.evaluateGameServer_ends locks now ip with
    ⟨active, seen, h⟩ | ⟨-, active, seen, h⟩
  · rw [h]
    exact ⟨active, seen, _, _, _, rfl⟩
  · rw [h, enqueueLookup]
    split
    · exact ⟨active, seen, _, _, _, rfl⟩
    · exact ⟨active, _, _, _, _, rfl⟩

/-- A lookup is sent only when the other servers have been quiet. -/
theorem evaluateGameServer_quiet {r : AutoRouter} {locks : TryLocks} {now : Instant}
    {ip : Ipv4Addr} {m : LookupMessage} (h : (r.evaluateGameServer locks now ip).1 = some m) :
    (r.noteGameTraffic now ip).otherGameTrafficQuiet now ip = true := by
  rcases r.evaluateGameServer_ends locks now ip with ⟨active, seen, hend⟩ | ⟨hgates, -⟩
  · rw [hend] at h
    cases h
  · exact hgates.2.2

theorem getCandidatesForRegion_frame (r : AutoRouter) (millis : Nat) (region : RobloxRegion) :
    ∃ bypassed game log, (r.getCandidatesForRegion millis region).2 =
      { r with autoRoutingBypassed := bypassed, currentGameRegion := game, eventLog := log } := by
  simp only [getCandidatesForRegion]
  split
  · exact ⟨r.autoRoutingBypassed, r.currentGameRegion, r.eventLog, rfl⟩
  · split
    · exact ⟨_, _, _, rfl⟩
    · split
      · exact ⟨_, r.currentGameRegion, r.eventLog, rfl⟩
      · split
        · exact ⟨_, _, r.eventLog, rfl⟩
        · split
          · exact ⟨_, r.currentGameRegion, r.eventLog, rfl⟩
          · exact ⟨_, r.currentGameRegion, r.eventLog, rfl⟩

theorem recordSwitch_frame (r : AutoRouter) (now : Instant) (millis : Nat) (fromRegion : String)
    (toRegion : String) (gameRegion : RobloxRegion) (addr : SocketAddr) (location : Option String) :
    ∃ window last st relay game log,
      (r.recordSwitch now millis fromRegion toRegion gameRegion addr location).2 =
        { r with
          switchesThisMinute := window
          lastSwitchTime := last
          currentStRegion := st
          currentRelayAddr := relay
          currentGameRegion := game
          eventLog := log } := by
  have hsame : ∀ window, ∃ window' last st relay game log,
      ({ r with switchesThisMinute := window } : AutoRouter) =
        { r with
          switchesThisMinute := window'
          lastSwitchTime := last
          currentStRegion := st
          currentRelayAddr := relay
          currentGameRegion := game
          eventLog := log } :=
    fun window => ⟨window, r.lastSwitchTime, r.currentStRegion, r.currentRelayAddr,
      r.currentGameRegion, r.eventLog, rfl⟩
  simp only [recordSwitch]
  split
  · exact hsame r.switchesThisMinute
  · split
    · exact hsame r.switchesThisMinute
    · split
      · split
        · exact hsame _
        · exact ⟨_, _, _, _, _, _, rfl⟩
      · split
        · exact hsame r.switchesThisMinute
        · exact ⟨_, _, _, _, _, _, rfl⟩

theorem commitSwitch_snd (r : AutoRouter) (now : Instant) (millis : Nat)
    (gameRegion : RobloxRegion) (region : String) (addr : SocketAddr) (location : Option String) :
    (r.commitSwitch now millis gameRegion region addr location).2 =
      (r.recordSwitch now millis r.currentStRegion region gameRegion addr location).2 := by
  rw [commitSwitch]
  split
  · rename_i h
    rw [h]
  · rename_i h
    rw [h]

end AutoRouter

/-! ## 5. The enabled flag and the session epoch -/

namespace AutoRouter

/-- What a lookup's validity hangs on, besides its pending entry. -/
def session (r : AutoRouter) : Bool × Nat := (r.enabled, r.lookupSessionEpoch)

theorem setWhitelistedRegions_session (r : AutoRouter) (regions : List String) :
    (r.setWhitelistedRegions regions).session = r.session := by
  obtain ⟨bypassed, h⟩ := r.setWhitelistedRegions_frame regions
  rw [h]
  rfl

theorem noteGameTraffic_session (r : AutoRouter) (now : Instant) (ip : Ipv4Addr) :
    (r.noteGameTraffic now ip).session = r.session := by
  obtain ⟨traffic, h⟩ := r.noteGameTraffic_frame now ip
  rw [h]
  rfl

theorem pinActiveGameServerForSession_session (r : AutoRouter) (now : Instant) (ip : Ipv4Addr)
    (epoch : Nat) : (r.pinActiveGameServerForSession now ip epoch).2.session = r.session := by
  obtain ⟨active, h⟩ := r.pinActiveGameServerForSession_frame now ip epoch
  rw [h]
  rfl

@[simp] theorem clearPendingLookup_session (r : AutoRouter) (ip : Ipv4Addr) :
    (r.clearPendingLookup ip).session = r.session := rfl

theorem enqueueLookup_session (r : AutoRouter) (locks : TryLocks) (ip : Ipv4Addr) :
    (r.enqueueLookup locks ip).2.session = r.session ∧
      ∀ m ∈ (r.enqueueLookup locks ip).1, m.sessionEpoch = r.lookupSessionEpoch := by
  rw [enqueueLookup]
  split
  · exact ⟨rfl, fun m hm => nomatch hm⟩
  · refine ⟨rfl, fun m hm => ?_⟩
    dsimp only at hm
    split at hm
    · rw [Option.mem_some_iff] at hm
      rw [← hm]
    · exact nomatch hm

/-- `evaluate_game_server` stays in the session, and stamps its message with it. -/
theorem evaluateGameServer_session (r : AutoRouter) (locks : TryLocks) (now : Instant)
    (ip : Ipv4Addr) :
    (r.evaluateGameServer locks now ip).2.session = r.session ∧
      ∀ m ∈ (r.evaluateGameServer locks now ip).1, m.sessionEpoch = r.lookupSessionEpoch := by
  have hnote := noteGameTraffic_session r now ip
  rcases r.evaluateGameServer_ends locks now ip with ⟨active, seen, h⟩ | ⟨-, active, seen, h⟩
  · rw [h]
    exact ⟨hnote, fun m hm => by cases hm⟩
  · rw [h]
    obtain ⟨hses, hm⟩ := enqueueLookup_session
      { r.noteGameTraffic now ip with activeGameServerIp := active, seenGameServers := seen } locks ip
    have hepoch : (r.noteGameTraffic now ip).lookupSessionEpoch = r.lookupSessionEpoch :=
      congrArg Prod.snd hnote
    exact ⟨hses.trans hnote, fun m hmem => (hm m hmem).trans hepoch⟩

/-- **What another thread's operation does to the session.**  One that ends the session raises the
epoch; a toggle sets the flag; nothing else touches either. -/
theorem apply_session (r : AutoRouter) (now : Instant) (op : RouterOp) :
    (r.apply now op).2.lookupSessionEpoch =
        (if op.endsSession then r.lookupSessionEpoch + 1 else r.lookupSessionEpoch) ∧
      (op.endsSession = false → r.enabled = true → (r.apply now op).2.enabled = true) ∧
      ∀ m ∈ (r.apply now op).1, m.sessionEpoch = r.lookupSessionEpoch := by
  have hsame : ∀ q : AutoRouter, q.session = r.session →
      q.lookupSessionEpoch = r.lookupSessionEpoch ∧ (r.enabled = true → q.enabled = true) := by
    intro q hq
    have hen : q.enabled = r.enabled := congrArg Prod.fst hq
    exact ⟨congrArg Prod.snd hq, fun h => hen.trans h⟩
  have hquiet : ∀ q : AutoRouter, q.session = r.session →
      q.lookupSessionEpoch = r.lookupSessionEpoch ∧
        (false = false → r.enabled = true → q.enabled = true) ∧
        ∀ m ∈ (none : Option LookupMessage), m.sessionEpoch = r.lookupSessionEpoch :=
    fun q hq => ⟨(hsame q hq).1, fun _ => (hsame q hq).2, fun m hm => nomatch hm⟩
  cases op with
  | setEnabled enabled =>
    cases enabled with
    | false =>
      refine ⟨rfl, fun h => ?_, fun m hm => nomatch hm⟩
      exact absurd h (by decide)
    | true =>
      refine ⟨?_, fun _ _ => ?_, fun m hm => nomatch hm⟩
      · cases hen : r.enabled with
        | false => simp [apply, setEnabled, hen, RouterOp.endsSession]
        | true => simp [apply, setEnabled, hen, RouterOp.endsSession]
      · cases hen : r.enabled with
        | false => simp [apply, setEnabled, hen]
        | true => simp [apply, setEnabled, hen]
  | reset =>
    refine ⟨rfl, fun h => ?_, fun m hm => nomatch hm⟩
    exact absurd h (by decide)
  | setWhitelistedRegions regions => exact hquiet _ (setWhitelistedRegions_session r regions)
  | noteGameTraffic ip => exact hquiet _ (noteGameTraffic_session r now ip)
  | pinActiveGameServerForSession ip epoch =>
    exact hquiet _ (pinActiveGameServerForSession_session r now ip epoch)
  | evaluateGameServer locks ip =>
    obtain ⟨hs, hm⟩ := evaluateGameServer_session r locks now ip
    exact ⟨(hsame _ hs).1, fun _ => (hsame _ hs).2, hm⟩
  | setAvailableServers servers => exact hquiet _ rfl
  | setCurrentRelay addr region => exact hquiet _ rfl
  | setForcedServers servers => exact hquiet _ rfl
  | recordGameRegion region => exact hquiet _ rfl
  | pinActiveGameServer ip => exact hquiet _ rfl
  | pushDegradedEvent millis reason => exact hquiet _ rfl

end AutoRouter

end SwiftTunnel
