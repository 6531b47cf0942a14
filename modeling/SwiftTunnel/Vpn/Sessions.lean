/-
# What a session leaves behind

The two ways out of a session: a `connect_ex` that fails, and a `disconnect`.  Both rest on
`cleanup`.  The two exits by `?` do not call it, and what it takes back of the hosts file hangs
on one flag, which only a DNS repair that returned `Ok` has set.

A run is any order of connects and disconnects, and of what the packet workers of a session learn
beside them: an address learned from a relayed flow goes into the direct-only set, which `cleanup`
empties only where the flag is up.  Writes of the hosts file may fail at any byte (`HostsIo`).

* `flagDown_run`: a connection that is disconnected or in error has its flag down, whatever else
  goes on in its process; `cleanup` is the only way into these states.
* `failed_connect_released_iff`: when a failed `connect_ex` has released everything.  Neither `?` is
  taken, and what DNS repair did to the hosts file is taken back: a complete block by `cleanup`,
  a torn one by the tear itself, for its repair has not raised the flag.
* `plain_connect_not_released`: `connect` passes no servers and leaves the connection busy.
* `sessions_undone`: in every run of calls whose books are kept, a disconnect undoes everything.
  The invariant is `Books`: where the flag is down, no pin is left.  It breaks where something is
  pinned or learned in a session whose repair has not succeeded.
* `banned_session_remains`: a session under a country ban in which it does.

The second result takes every write for complete, as is asked of it; what a torn write leaves of
the lines of a user is in `PinRuns`.  Nothing is claimed of threads that outlive their join.
-/
import SwiftTunnel.Lib.Run
import SwiftTunnel.Vpn.Connection

namespace SwiftTunnel

open Rust

/-! ## 1. Cleanup -/

/-- What a connection has pinned is in its books: where the flag is down, no pin is left. -/
def Books (c : Client) : Prop := c.vpn.bootstrapDnsApplied = false → PinsCleared c.shared

/-- The exclusion and the asset addresses are no pins. -/
theorem PinsCleared.congr {g g' : SharedState} (h : PinsCleared g)
    (hhosts : g'.hostsFile = g.hostsFile) (hactive : g'.activeBootstrapIps = g.activeBootstrapIps)
    (hdirect : g'.directOnlyBootstrapIps = g.directOnlyBootstrapIps)
    (hrouting : g'.countryBanBypassRouting = g.countryBanBypassRouting) : PinsCleared g' := by
  refine ⟨?_, hactive.trans h.active, hdirect.trans h.directOnly, hrouting.trans h.routing⟩
  rw [hhosts]
  exact h.hostsFile

theorem cleanup_sets (io : HostsIo) (c : Client) :
    (cleanup io c).shared.excludedIps = ∅ ∧ (cleanup io c).shared.assetIps = ∅ := by
  rw [cleanup]
  cases c.vpn.bootstrapDnsApplied with
  | true => exact ⟨rfl, rfl⟩
  | false => exact ⟨rfl, rfl⟩

/-- **Cleanup undoes what is in the books**, when the hosts file can be written. -/
theorem pinsCleared_of_cleanup {c : Client} (h : Books c) :
    PinsCleared (cleanup HostsIo.ok c).shared := by
  have hb : c.vpn.bootstrapDnsApplied = false → PinsCleared c.shared := h
  simp only [cleanup]
  cases ha : c.vpn.bootstrapDnsApplied with
  | true => exact pinsCleared_of_removeOverrides (removeOverridesInner_ok _)
  | false => exact (hb ha).congr rfl rfl rfl rfl

/-! ## 2. Calls -/

/-- A call on the connection, or what a packet worker of its session does beside them.  Workers run
from the start of the driver to its `close`, before the hosts file and the sets are touched again:
what they learn during a call counts as learned after a `connect_ex`, and before a `disconnect`. -/
inductive SessionCall where
  | connect (o : ConnectOptions) (w : ConnectWorld)
  | disconnect (io : HostsIo)
  | learn (serverName : String) (ip : Ipv4Addr)

def SessionCall.apply (c : Client) : SessionCall → Except SdkError Unit × Client
  | .connect o w => connectEx o w c
  | .disconnect io => (.ok (), SwiftTunnel.disconnect io c)
  | .learn serverName ip =>
    (.ok (), { c with shared := (learnDirectOnlyBootstrapIp serverName ip c.shared).2 })

/-- One call. -/
def SessionStep (c : Client) (call : SessionCall) (r : Except SdkError Unit) (c' : Client) : Prop :=
  call.apply c = (r, c')

/-- One call on a connection, whatever else goes on in its process. -/
def ConnectionStep (v : VpnConnection) (call : SessionCall) (r : Except SdkError Unit)
    (v' : VpnConnection) : Prop :=
  ∃ g g', SessionStep ⟨v, g⟩ call r ⟨v', g'⟩

/-- `Disconnected` or `Error`. -/
def ConnectionState.Idle (state : ConnectionState) : Prop :=
  state = .disconnected ∨ ∃ m, state = .error m

/-- An idle connection has no pins in its books. -/
def FlagDown (v : VpnConnection) : Prop := v.state.Idle → v.bootstrapDnsApplied = false

theorem not_idle_of_eq {state state' : ConnectionState} (h : state = state')
    (hd : state' ≠ .disconnected) (he : ∀ m, state' ≠ .error m) : ¬ state.Idle := by
  subst h
  rintro (h | ⟨m, h⟩)
  · exact hd h
  · exact he m h

/-- **Every call ends busy, or with the flag down**: `cleanup` is the only way to an idle state. -/
theorem flagDown_step {v v' : VpnConnection} {call : SessionCall} {r : Except SdkError Unit}
    (hstep : ConnectionStep v call r v') (h : FlagDown v) : FlagDown v' := by
  obtain ⟨g, g', hstep⟩ := hstep
  cases call with
  | learn serverName ip =>
    obtain ⟨-, heq⟩ := Prod.mk.inj hstep
    obtain rfl : v = v' := congrArg Client.vpn heq
    exact h
  | disconnect io =>
    obtain ⟨-, heq⟩ := Prod.mk.inj hstep
    obtain rfl := congrArg Client.vpn heq
    exact fun _ => rfl
  | connect o w =>
    have hout := connectEx_outcome o w ⟨v, g⟩
    rw [show connectEx o w ⟨v, g⟩ = (r, ⟨v', g'⟩) from hstep] at hout
    generalize hc : (⟨v', g'⟩ : Client) = c' at hout
    obtain rfl : c'.vpn = v' := by
      rw [← hc]
    cases hout with
    | refused e _ => exact h
    | noServer e _ _ =>
      have hbusy := (prepareSession_cases o w ⟨v, g⟩).1
      exact fun hidle => absurd hidle (not_idle_of_eq hbusy nofun nofun)
    | noSocket e v _ _ _ hbusy _ =>
      exact fun hidle => absurd hidle (not_idle_of_eq hbusy nofun nofun)
    | splitFailed e m v assets _ _ _ _ _ => exact fun _ => rfl
    | connected info v assets _ _ _ _ _ _ =>
      exact fun hidle => absurd hidle (not_idle_of_eq rfl nofun nofun)

theorem flagDown_run {es : List (SessionCall × Except SdkError Unit)} {v : VpnConnection}
    (hrun : Run ConnectionStep VpnConnection.new es v) : FlagDown v :=
  hrun.preserves (P := FlagDown) (fun _ _ _ _ hstep h => flagDown_step hstep h) fun _ => rfl

/-! ## 3. A failed connect -/

/-- The state is idle, and everything that the attempt created has been released: in the hosts file
is what a removal leaves of the file with the block. -/
structure Released (o : ConnectOptions) (w : ConnectWorld) (before : SharedState) (c : Client) :
    Prop where
  idle : c.vpn.state.Idle
  relay : c.vpn.relay = none
  assetRelays : c.vpn.assetRelays = []
  config : c.vpn.config = none
  splitTunnel : c.vpn.splitTunnel = none
  autoRouter : c.vpn.autoRouter = none
  helper : c.vpn.goodbyeDpiGuard = none
  overrides : ∀ pins, WritesPins o w pins →
    c.shared.hostsFile = removeMarkerBlock (withBlock before.hostsFile pins)
  excluded : c.shared.excludedIps = ∅
  assets : c.shared.assetIps = ∅

/-- How the hosts file must bear the writes of an attempt that fails.  A block that was written is
taken out if all of the cleaned text gets into the file.  A block whose write is torn is not in the
books, and `cleanup` leaves it: the write must have stopped at the end of the cleaned text. -/
structure WritesBorne (w : ConnectWorld) (before : SharedState) (pins : List HostOverride) :
    Prop where
  written : w.dohIo = HostsIo.ok →
    w.cleanupIo.WritesAll (removeMarkerBlock (withBlock before.hostsFile pins))
  torn : ∀ n, w.dohIo.Tears n → cutBytes n (withBlock before.hostsFile pins) =
    removeMarkerBlock (withBlock before.hostsFile pins)

theorem cleanup_hostsFile (io : HostsIo) (c : Client) :
    (cleanup io c).shared.hostsFile = if c.vpn.bootstrapDnsApplied
      then (removeOverridesInner io c.shared.hostsFile).2 else c.shared.hostsFile := by
  rw [cleanup]
  cases c.vpn.bootstrapDnsApplied with
  | true => rfl
  | false => rfl

/-- **When a cleanup restores the hosts file** after a repair that wrote to it. -/
theorem cleanup_restores_iff {o : ConnectOptions} {w : ConnectWorld} {c c' : Client}
    (hdown : c.vpn.bootstrapDnsApplied = false) {pins : List HostOverride}
    (hpins : WritesPins o w pins)
    (hflag : c'.vpn.bootstrapDnsApplied = (prepareSession o w c).vpn.bootstrapDnsApplied)
    (hfile : c'.shared.hostsFile = (prepareSession o w c).shared.hostsFile) :
    (cleanup w.cleanupIo c').shared.hostsFile =
        removeMarkerBlock (withBlock c.shared.hostsFile pins) ↔ WritesBorne w c.shared pins := by
  rw [hostsFile_prepareSession (c := c) hpins] at hfile
  obtain ⟨-, hprep⟩ := prepareSession_cases o w c
  obtain ⟨htries, ⟨es, hes, rfl⟩, hne, hwrites⟩ := hpins
  rw [cleanup_hostsFile, hfile]
  rcases HostsIo.writes_iff.mp hwrites with hok | ⟨n, htears⟩
  · -- the repair succeeded, so `cleanup` knows of the block
    have hup : c'.vpn.bootstrapDnsApplied = true := by
      rcases hprep with ⟨-, hup⟩ | ⟨hno, -⟩
      · exact hflag.trans hup
      · exact absurd ⟨htries, es, hes, hne, hok⟩ hno
    have hwritten : w.dohIo.leaves c.shared.hostsFile (withBlock c.shared.hostsFile
        (allocatePins o.countryBanBypass es).writable) = withBlock c.shared.hostsFile
          (allocatePins o.countryBanBypass es).writable := by
      rw [hok]
      rfl
    rw [hup, if_pos rfl, hwritten, removeOverridesInner_clean_iff (not_noMarker_withBlock _ _)]
    constructor
    · intro hall
      refine ⟨fun _ => hall, fun n htears => ?_⟩
      rw [hok] at htears
      exact absurd htears (HostsIo.not_tears_ok n)
    · exact fun hborne => hborne.written hok
  · -- it did not, so the flag is as it was, and the file is left alone
    have hnot : w.dohIo ≠ HostsIo.ok := by
      intro hok
      rw [hok] at htears
      exact HostsIo.not_tears_ok n htears
    have hstays : c'.vpn.bootstrapDnsApplied = false := by
      rcases hprep with ⟨⟨-, -, -, -, hok⟩, -⟩ | ⟨-, happlied, -⟩
      · exact absurd hok hnot
      · exact hflag.trans (happlied.trans hdown)
    rw [hstays, if_neg Bool.false_ne_true, htears.leaves]
    constructor
    · intro hcut
      refine ⟨fun hok => absurd hok hnot, fun n' htears' => ?_⟩
      rw [htears'.unique htears]
      exact hcut
    · exact fun hborne => hborne.torn n htears

/-- **When a failed connect leaves nothing behind**: neither exit by `?` is taken, and where the
split tunnel fails after a DNS repair that wrote to the hosts file, the file can be restored.  The
connection is one that a program can hold, and the process may be in any state. -/
theorem failed_connect_released_iff (es : List (SessionCall × Except SdkError Unit))
    (v : VpnConnection) (hrun : Run ConnectionStep VpnConnection.new es v) (hidle : v.state.Idle)
    (o : ConnectOptions) (w : ConnectWorld) (g : SharedState) :
    (∀ e, (connectEx o w ⟨v, g⟩).1 = .error e → Released o w g (connectEx o w ⟨v, g⟩).2) ↔
      o.HasServer ∧ w.relaySocket = .opened ∧
        (SplitFails o w → ∀ pins, WritesPins o w pins → WritesBorne w g pins) := by
  have hdown := flagDown_run hrun hidle
  have hrefused : refusal v.state = none := by
    rcases hidle with h | ⟨m, h⟩
    · rw [h]
      rfl
    · rw [h]
      rfl
  have hfetching := (prepareSession_cases o w ⟨v, g⟩).1
  have hout := connectEx_outcome o w ⟨v, g⟩
  generalize (connectEx o w ⟨v, g⟩).1 = r at hout ⊢
  generalize (connectEx o w ⟨v, g⟩).2 = c' at hout ⊢
  cases hout with
  | refused e hbusy =>
    rw [hrefused] at hbusy
    exact nomatch hbusy
  | noServer e _ hserver =>
    constructor
    · intro h
      exact absurd (h e rfl).idle (not_idle_of_eq hfetching nofun nofun)
    · intro h
      exact absurd h.1 hserver
  | noSocket e v' _ hserver hsocket hstate _ =>
    constructor
    · intro h
      exact absurd (h e rfl).idle (not_idle_of_eq hstate nofun nofun)
    · intro h
      exact absurd h.2.1 hsocket
  | splitFailed e m v' assets _ hserver hsocket hsplit happlied =>
    have hhosts : ∀ pins, WritesPins o w pins → (((cleanup w.cleanupIo
        ⟨v', { (prepareSession o w ⟨v, g⟩).shared with assetIps := assets }⟩).setState
          (.error m)).shared.hostsFile = removeMarkerBlock (withBlock g.hostsFile pins) ↔
            WritesBorne w g pins) :=
      fun pins hpins => cleanup_restores_iff (c := ⟨v, g⟩) hdown hpins happlied rfl
    obtain ⟨hexcluded, hassets⟩ := cleanup_sets w.cleanupIo
      ⟨v', { (prepareSession o w ⟨v, g⟩).shared with assetIps := assets }⟩
    constructor
    · intro h
      exact ⟨hserver, hsocket, fun _ pins hpins =>
        (hhosts pins hpins).mp ((h e rfl).overrides pins hpins)⟩
    · intro h _ _
      exact ⟨Or.inr ⟨m, rfl⟩, rfl, rfl, rfl, rfl, rfl, rfl,
        fun pins hpins => (hhosts pins hpins).mpr (h.2.2 hsplit pins hpins), hexcluded, hassets⟩
  | connected info v' assets _ hserver hsocket hsplit _ _ =>
    constructor
    · intro _
      exact ⟨hserver, hsocket, fun h => absurd h hsplit⟩
    · intro _ e he
      exact nomatch he

/-- The state after `connect`, which passes no servers. -/
def afterPlainConnect : Except SdkError Unit × Client :=
  connectEx (.ofConnect "singapore" ["RobloxPlayerBeta.exe"]) (blockedWorld [] workingDriver)
    (Client.fresh localhostFile)

/-- **`connect` leaves the connection busy**: no relay resolves, and the next attempt is refused. -/
theorem plain_connect_not_released :
    (Client.fresh localhostFile).vpn.state = .disconnected ∧
    afterPlainConnect.1 =
      .error (.vpn "No servers available — call swifttunnel_servers_fetch first") ∧
    ¬ Released (.ofConnect "singapore" ["RobloxPlayerBeta.exe"]) (blockedWorld [] workingDriver)
      (SharedState.fresh localhostFile) afterPlainConnect.2 ∧
    refusal afterPlainConnect.2.vpn.state = some (.vpn "Connection in progress") := by
  have hstate : afterPlainConnect.2.vpn.state = .fetchingConfig := by decide +kernel
  refine ⟨rfl, by decide +kernel, ?_, by rw [hstate]; rfl⟩
  intro h
  exact not_idle_of_eq hstate nofun nofun h.idle

/-- The driver is missing. -/
def missingDriver : DriverOutcome := ⟨false, none, none, []⟩

/-- A session with Route Assist. -/
def routeAssistOptions : ConnectOptions := { singaporeOptions with enableApiTunneling := true }

/-- A pass over any domains may end with none. -/
theorem noneJoined_le (missing : List String) :
    ([] : List (Except String { d // d ∈ missing })).length ≤ missing.length := Nat.zero_le _

/-- One host resolves over HTTPS. -/
def openDoh : DohRun where
  clientErr := none
  main :=
    { world :=
        ⟨fun _ _ => .body (.ok ⟨0, [⟨1, "128.116.1.1"⟩]⟩), fun _ => true⟩
      joined := [.ok ⟨"gamejoin.roblox.com", by decide⟩]
      joined_le := by decide }
  retry := fun missing =>
    ⟨⟨fun _ _ => .requestFailed "timeout", fun _ => false⟩, [], noneJoined_le missing⟩

/-- DNS over HTTPS is open. -/
def openWorld : ConnectWorld := { blockedWorld [] workingDriver with doh := openDoh }

/-- The same, and the driver is missing. -/
def driverlessWorld : ConnectWorld := { openWorld with driver := missingDriver }

theorem openDoh_resolved : resolveBootstrapOverrides openDoh =
    .ok [⟨⟨128, 116, 1, 1⟩, "gamejoin.roblox.com"⟩] := by decide +kernel

theorem driverless_repaired : Repaired routeAssistOptions driverlessWorld :=
  ⟨⟨rfl, by decide⟩, _, openDoh_resolved, by decide +kernel, rfl⟩

/-- A connect that pins a host and then fails because the driver is missing leaves nothing behind. -/
theorem missing_driver_released :
    Repaired routeAssistOptions driverlessWorld ∧
    (connectEx routeAssistOptions driverlessWorld (Client.fresh localhostFile)).1 =
      .error (.splitTunnel "Windows Packet Filter driver not available") ∧
    ∀ e, (connectEx routeAssistOptions driverlessWorld (Client.fresh localhostFile)).1 = .error e →
      Released routeAssistOptions driverlessWorld (SharedState.fresh localhostFile)
        (connectEx routeAssistOptions driverlessWorld (Client.fresh localhostFile)).2 := by
  refine ⟨driverless_repaired, by decide +kernel, ?_⟩
  refine (failed_connect_released_iff [] VpnConnection.new (Run.nil _) (Or.inl rfl) _ _ _).mpr
    ⟨⟨_, List.mem_singleton_self _, by decide +kernel⟩, rfl, fun _ pins _ => ⟨fun _ => ?_, ?_⟩⟩
  · exact ⟨rfl, Or.inl rfl⟩
  · exact fun n htears => absurd htears (HostsIo.not_tears_ok n)

/-! ## 4. Runs of sessions -/

/-- The hosts file can be read and written throughout the call. -/
def SessionCall.FilesOk : SessionCall → Prop
  | .connect _ w => w.dohIo = HostsIo.ok ∧ w.relayIo = HostsIo.ok ∧ w.cleanupIo = HostsIo.ok
  | .disconnect io => io = HostsIo.ok
  | .learn _ _ => True

/-- The call keeps the books: if it starts a session, then a DNS repair that it tries under a
country ban succeeds, and it pins what the relay answers only after a repair that has; and a worker
records an address only in a session whose repair has succeeded. -/
def SessionCall.KeepsBooks (c : Client) : SessionCall → Prop
  | .connect o w => refusal c.vpn.state = none →
    (o.countryBanBypass = true → o.TriesRepair → Repaired o w) ∧
    (o.enableCountryBan = true → o.HasServer → w.relaySocket = .opened → ¬ SplitFails o w →
      relayEntries w.relayAnswer.resolved ≠ [] → Repaired o w)
  | .disconnect _ => True
  | .learn serverName ip => Learns serverName ip c.shared → c.vpn.bootstrapDnsApplied = true

/-- Nothing of a session is left in the hosts file and in the process-wide sets. -/
structure Undone (g : SharedState) : Prop extends PinsCleared g where
  excluded : g.excludedIps = ∅
  assets : g.assetIps = ∅

/-- Preparing a session keeps the books, when a repair tried under a country ban succeeds. -/
theorem books_prepareSession {o : ConnectOptions} {w : ConnectWorld} {c : Client} (h : Books c)
    (hban : o.countryBanBypass = true → o.TriesRepair → Repaired o w)
    (hwhole : w.dohIo = HostsIo.ok) : Books (prepareSession o w c) := by
  intro hdown
  obtain ⟨-, ⟨-, hup⟩ | ⟨hno, happlied, hshared⟩⟩ := prepareSession_cases o w c
  · rw [hup] at hdown
    exact nomatch hdown
  · rw [happlied] at hdown
    have hexcl : PinsCleared (resolveExclusions o w c.shared) := by
      rw [resolveExclusions]
      split
      · exact (h hdown).congr rfl rfl rfl rfl
      · exact (h hdown).congr rfl rfl rfl rfl
    rcases hshared with hsame | ⟨htry, hfail, hfile⟩
    · rw [hsame]
      exact hexcl
    · cases hb : o.countryBanBypass with
      | true => exact absurd (hban hb htry) hno
      | false =>
        rw [hb] at hfail
        rw [hwhole] at hfile
        exact hexcl.congr (hfile HostsIo.not_tears_ok) hfail.active hfail.directOnly hfail.routing

/-- Where the relay's answers pin nothing, they change nothing. -/
theorem applyRelayPins_eq_self {o : ConnectOptions} {w : ConnectWorld} {g : SharedState}
    (h : o.enableCountryBan = true → relayEntries w.relayAnswer.resolved = []) :
    applyRelayPins o w g = g := by
  rw [applyRelayPins]
  split
  · rename_i hban
    split
    · rfl
    · rw [applyRelayResolvedOverrides, if_pos (h hban)]
  · rfl

/-- **Every call keeps the books.** -/
theorem books_step {c c' : Client} {call : SessionCall} {r : Except SdkError Unit}
    (hfiles : call.FilesOk) (hkeeps : call.KeepsBooks c) (hstep : SessionStep c call r c')
    (h : Books c) : Books c' := by
  cases call with
  | learn serverName ip =>
    obtain ⟨-, rfl⟩ := Prod.mk.inj hstep
    intro hdown
    have hnot : ¬ Learns serverName ip c.shared := fun hlearns =>
      Bool.false_ne_true (hdown.symm.trans (hkeeps hlearns))
    rw [learnDirectOnlyBootstrapIp_of_not hnot]
    exact h hdown
  | disconnect io =>
    obtain ⟨-, rfl⟩ := Prod.mk.inj hstep
    obtain rfl : io = HostsIo.ok := hfiles
    intro _
    exact pinsCleared_of_cleanup h
  | connect o w =>
    have hout := connectEx_outcome o w c
    rw [show connectEx o w c = (r, c') from hstep] at hout
    obtain ⟨hwhole, -, hcleanup⟩ := hfiles
    cases hout with
    | refused e _ => exact h
    | noServer e hidle _ => exact books_prepareSession h (hkeeps hidle).1 hwhole
    | noSocket e v hidle _ _ _ happlied =>
      intro hdown
      exact books_prepareSession h (hkeeps hidle).1 hwhole (happlied.symm.trans hdown)
    | splitFailed e m v assets hidle _ _ _ happlied =>
      intro _
      rw [hcleanup]
      refine pinsCleared_of_cleanup ?_
      intro hdown
      exact (books_prepareSession h (hkeeps hidle).1 hwhole (happlied.symm.trans hdown)).congr
        rfl rfl rfl rfl
    | connected info v assets hidle hserver hsocket hsplit happlied _ =>
      intro hdown
      obtain ⟨hban, hrelay⟩ := hkeeps hidle
      have hdown' : (prepareSession o w c).vpn.bootstrapDnsApplied = false :=
        happlied.symm.trans hdown
      have hno : ¬ Repaired o w := by
        intro hrep
        obtain ⟨-, ⟨-, hup⟩ | ⟨hno, -⟩⟩ := prepareSession_cases o w c
        · rw [hup] at hdown'
          exact nomatch hdown'
        · exact hno hrep
      have hpins : o.enableCountryBan = true → relayEntries w.relayAnswer.resolved = [] := by
        intro hb
        by_contra hne
        exact hno (hrelay hb hserver hsocket hsplit hne)
      simp only [applyRelayPins_eq_self hpins]
      exact (books_prepareSession h hban hwhole hdown').congr rfl rfl rfl rfl

/-- **Disconnect undoes every session whose books are kept**: in every run from a new process,
with a hosts file that has no marker line and can be read and written. -/
theorem sessions_undone (hostsFile : Text) (hclean : NoMarker hostsFile)
    (es : List (SessionCall × Except SdkError Unit)) (c c' : Client) (r : Except SdkError Unit)
    (hrun : Run (fun c call r c' => (call.FilesOk ∧ call.KeepsBooks c) ∧ SessionStep c call r c')
      (Client.fresh hostsFile) es c)
    (hstep : SessionStep c (.disconnect HostsIo.ok) r c') : Undone c'.shared := by
  have hbooks : Books c := by
    refine Run.preserves (P := Books) ?_ hrun (fun _ => ⟨hclean, rfl, rfl, rfl⟩)
    intro s call r s' hs h
    exact books_step hs.1.1 hs.1.2 hs.2 h
  obtain ⟨-, rfl⟩ := Prod.mk.inj hstep
  obtain ⟨hexcluded, hassets⟩ := cleanup_sets HostsIo.ok (c.setState .disconnecting)
  exact ⟨pinsCleared_of_cleanup hbooks, hexcluded, hassets⟩

/-- A session under a country ban. -/
def countryBanOptions : ConnectOptions :=
  { singaporeOptions with enableApiTunneling := true, enableCountryBan := true }

/-- DNS over HTTPS is blocked, and the relay resolves one host. -/
def bannedWorld : ConnectWorld :=
  blockedWorld [("gamejoin.roblox.com", [⟨128, 116, 1, 1⟩])] workingDriver

/-- The state after a session under a country ban. -/
def afterBannedSession : Client :=
  disconnect HostsIo.ok (connectEx countryBanOptions bannedWorld (Client.fresh localhostFile)).2

theorem noMarker_localhostFile : NoMarker localhostFile := by
  intro l hl
  have hlines : lines localhostFile = ["127.0.0.1 localhost".toList] := by decide +kernel
  rw [hlines, List.mem_singleton] at hl
  subst hl
  rintro (h | h)
  · exact absurd h (by decide +kernel)
  · exact absurd h (by decide +kernel)

/-- **A session whose repair fails is not undone.**  The connect succeeds; after the disconnect the
block with the relay's pin is still in the hosts file, and country-ban routing is still on. -/
theorem banned_session_remains :
    NoMarker localhostFile ∧
    Run (fun c call r c' => call.FilesOk ∧ SessionStep c call r c') (Client.fresh localhostFile)
      [(.connect countryBanOptions bannedWorld, .ok ()), (.disconnect HostsIo.ok, .ok ())]
      afterBannedSession ∧
    ¬ NoMarker afterBannedSession.shared.hostsFile ∧
    afterBannedSession.shared.countryBanBypassRouting = true := by
  have hok : (connectEx countryBanOptions bannedWorld (Client.fresh localhostFile)).1 = .ok () := by
    decide +kernel
  refine ⟨noMarker_localhostFile, ?_, ?_, by decide +kernel⟩
  · exact Run.cons ⟨⟨rfl, rfl, rfl⟩, Prod.ext hok rfl⟩ (Run.cons ⟨rfl, rfl⟩ (Run.nil _))
  · intro h
    exact h markerStart (by decide +kernel) (Or.inl (by decide +kernel))

/-- A Route Assist session whose repair succeeds is undone, with what its workers learned. -/
theorem open_session_undone :
    Undone (disconnect HostsIo.ok (SessionCall.apply
      (connectEx routeAssistOptions openWorld (Client.fresh localhostFile)).2
      (.learn "auth.roblox.com" ⟨128, 116, 1, 9⟩)).2).shared := by
  refine sessions_undone localhostFile noMarker_localhostFile
    [(.connect routeAssistOptions openWorld, _), (.learn "auth.roblox.com" ⟨128, 116, 1, 9⟩, .ok ())]
    _ _ (.ok ())
    (Run.cons ⟨⟨⟨rfl, rfl, rfl⟩, ?_⟩, rfl⟩ (Run.cons ⟨⟨trivial, ?_⟩, rfl⟩ (Run.nil _))) rfl
  · exact fun _ => ⟨fun hban => absurd hban (by decide), fun hban => absurd hban (by decide)⟩
  · exact fun _ => by decide +kernel

/-- The worker's address was recorded. -/
example : (⟨128, 116, 1, 9⟩ : Ipv4Addr) ∈ (SessionCall.apply
    (connectEx routeAssistOptions openWorld (Client.fresh localhostFile)).2
    (.learn "auth.roblox.com" ⟨128, 116, 1, 9⟩)).2.shared.directOnlyBootstrapIps := by
  decide +kernel

end SwiftTunnel
