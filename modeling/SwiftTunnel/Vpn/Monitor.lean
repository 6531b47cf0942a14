/-
# The process monitor across sessions

`setup_split_tunnel` ends by spawning a task that wakes every 50 ms and writes the driver's
processes and the router's region into the `Connected` state.  Each task holds the driver and
the router of its own session, but all sessions share one stop flag: `disconnect` raises it, and
the next `connect_ex` lowers it again.  A task reads the flag twice a round and stops only when
it finds it up, so one that sleeps, or waits for a lock, from before the `disconnect` until
after the reconnect goes on, with the old driver and the old router.

Here the calls and the tasks run interleaved.  A call is the phases of `Connection`, one step
each (`uninterleaved_connectEx` and `uninterleaved_disconnect` put them together again); a task
makes a step at each check of the flag and at each lock.

What a step can do to the flag, the tasks and the state is listed once (`Move`, `resume_move`,
`next_move`).  A task is silenced (`MonitorTask.Silenced`) when it has ended, or when the flag is up
and, where the state is `Connected`, the task has yet to look at it once more; `SilentInv` says that
all but the current session's are.  A step breaks that only where it makes a connection or lowers
the flag while an earlier task goes on.

* `ended_monitors_silent`: where every reconnect finds the earlier tasks out of the way, only
  the task of the current session changes the connection state.
* `ended_monitor_writes`: a task that slept through a reconnect.

What the task writes is data here: the driver's processes and the router's region are inputs of its
steps.  `Reported` follows the region from the router to the state.
-/
import SwiftTunnel.Lib.Run
import SwiftTunnel.Vpn.Connection

namespace SwiftTunnel

open Rust

/-! ## 1. The task -/

/-- Where a monitor stands in its loop. -/
inductive MonitorPhase where
  /-- At the condition of the `while`. -/
  | check
  | sleep
  /-- Awake, before the second look at the flag. -/
  | recheck
  /-- Waiting for the lock of its driver. -/
  | driver
  /-- Waiting for the lock of the connection state. -/
  | state (runningNames : List String)
  | ended
  deriving DecidableEq, Repr

/-- The second look at the flag is behind the monitor: this round it will write. -/
def MonitorPhase.Committed : MonitorPhase → Prop
  | driver | state _ => True
  | check | sleep | recheck | ended => False

instance : DecidablePred MonitorPhase.Committed
  | .driver | .state _ => .isTrue trivial
  | .check | .sleep | .recheck | .ended => .isFalse id

/-- The monitor of one session.  Its driver stands for itself; of its router it reads
`current_region()`. -/
structure MonitorTask where
  region : String
  phase : MonitorPhase
  deriving DecidableEq, Repr

/-- What a monitor writes into the `Connected` state. -/
def ConnectedInfo.refresh (info : ConnectedInfo) (runningNames : List String)
    (routedRegion : String) : ConnectedInfo :=
  let info :=
    if info.tunneledProcesses ≠ runningNames then { info with tunneledProcesses := runningNames }
    else info
  if routedRegion ≠ "" ∧ info.serverRegion ≠ routedRegion then
    { info with serverRegion := routedRegion }
  else info

def ConnectionState.refresh (runningNames : List String) (routedRegion : String) :
    ConnectionState → ConnectionState
  | connected info => connected (info.refresh runningNames routedRegion)
  | state => state

/-- One step of a monitor, when the flag is `stop` and its driver reports `running`. -/
def MonitorTask.next (stop : Bool) (running : List String) (state : ConnectionState)
    (t : MonitorTask) : MonitorTask × ConnectionState :=
  match t.phase with
  | .check => ({ t with phase := if stop then .ended else .sleep }, state)
  | .sleep => ({ t with phase := .recheck }, state)
  | .recheck => ({ t with phase := if stop then .ended else .driver }, state)
  | .driver => ({ t with phase := .state running }, state)
  | .state runningNames => ({ t with phase := .check }, state.refresh runningNames t.region)
  | .ended => (t, state)

/-! ## 2. The calls -/

/-- Where the caller stands.  Calls take the connection by `&mut`, so there is at most one. -/
inductive CallerPhase where
  | idle
  /-- `connect_ex`, before the relay is resolved and opened. -/
  | opening (o : ConnectOptions) (w : ConnectWorld)
  | relaying (o : ConnectOptions) (w : ConnectWorld) (relay : UdpRelay)
  | configuring (o : ConnectOptions) (w : ConnectWorld) (relay : UdpRelay)
      (assetRelays : List UdpRelay)
  /-- The split tunnel failed; before `cleanup`, and after it. -/
  | failing (w : ConnectWorld) (e : SdkError)
  | failed (e : SdkError)
  | publishing (o : ConnectOptions) (w : ConnectWorld) (relay : UdpRelay)
      (processes : List String) (active : Bool)
  /-- `disconnect`, before `cleanup`, and after it. -/
  | disconnecting (io : HostsIo)
  | closed

/-- A call that returns. -/
inductive CallReturn where
  | connectEx (r : Except SdkError Unit)
  | disconnect

/-- The connection, its caller, and the monitor of every session so far, oldest first. -/
structure Monitored where
  client : Client
  caller : CallerPhase
  monitors : List MonitorTask

namespace Monitored

/-- A new connection in a new process. -/
def fresh (hostsFile : Text) : Monitored := ⟨Client.fresh hostsFile, .idle, []⟩

/-- The caller goes on from where it stands. -/
def resume (s : Monitored) : Option CallReturn × Monitored :=
  match s.caller with
  | .idle => (none, s)
  | .opening o w =>
    match openRelay o w s.client.vpn with
    | (.error e, v) =>
      (some (.connectEx (.error e)), { s with client := { s.client with vpn := v }, caller := .idle })
    | (.ok relay, v) =>
      (none, { s with client := { s.client with vpn := v }, caller := .relaying o w relay })
  | .relaying o w relay =>
    let (assetRelays, c) := setupAssetRelays o w relay.relayAddr s.client
    (none, { s with
      client := c.setState .configuringSplitTunnel
      caller := .configuring o w relay assetRelays })
  | .configuring o w relay assetRelays =>
    match startSplitTunnel o w relay assetRelays s.client.vpn with
    | (.error e, v) =>
      (none, { s with client := { s.client with vpn := v }, caller := .failing w e })
    | (.ok (processes, active), v) =>
      (none, {
        client := { s.client with vpn := v }
        caller := .publishing o w relay processes active
        -- an active split tunnel has spawned its monitor
        monitors := if active then
            s.monitors ++ [⟨(sessionRouter o w relay).currentStRegion, .check⟩]
          else s.monitors })
  | .failing w e => (none, { s with client := cleanup w.cleanupIo s.client, caller := .failed e })
  | .failed e =>
    (some (.connectEx (.error e)), { s with
      client := s.client.setState (.error ("Split tunnel failed: " ++ e.toText))
      caller := .idle })
  | .publishing o w relay processes active =>
    let c : Client := { s.client with shared := applyRelayPins o w s.client.shared }
    (some (.connectEx (.ok ())), { s with
      client := c.setState (.connected (connectedInfo o w relay processes active))
      caller := .idle })
  | .disconnecting io => (none, { s with client := cleanup io s.client, caller := .closed })
  | .closed =>
    (some .disconnect, { s with client := s.client.setState .disconnected, caller := .idle })

end Monitored

/-- What happens next. -/
inductive MonitorInput where
  /-- A call, which waits while another one runs. -/
  | connectEx (o : ConnectOptions) (w : ConnectWorld)
  | disconnect (io : HostsIo)
  /-- The running call goes on. -/
  | caller
  /-- The monitor of session `n` goes on; its driver reports `running`. -/
  | monitor (n : Nat) (running : List String)
  /-- The lookup task of session `n` switches the region of its router. -/
  | switched (n : Nat) (region : String)

namespace Monitored

/-- One step, with the call that returns in it. -/
def next (s : Monitored) : MonitorInput → Option CallReturn × Monitored
  | .connectEx o w =>
    match s.caller with
    | .idle =>
      match refusal s.client.vpn.state with
      | some e => (some (.connectEx (.error e)), s)
      | none =>
        (none, { s with client := prepareSession o w s.client, caller := .opening o w })
    | _ => (none, s)
  | .disconnect io =>
    match s.caller with
    | .idle =>
      (none, { s with client := s.client.setState .disconnecting, caller := .disconnecting io })
    | _ => (none, s)
  | .caller => s.resume
  | .monitor n running =>
    match s.monitors[n]? with
    | none => (none, s)
    | some t =>
      let (t, state) := t.next s.client.vpn.processMonitorStop running s.client.vpn.state
      (none, { s with client := s.client.setState state, monitors := s.monitors.set n t })
  | .switched n region =>
    match s.monitors[n]? with
    | none => (none, s)
    | some t => (none, { s with monitors := s.monitors.set n { t with region := region } })

/-- The state after the running call has gone on `k` times, with nothing in between. -/
def resumed : Nat → Monitored → Monitored
  | 0, s => s
  | k + 1, s => resumed k (s.next .caller).2

@[simp] theorem resumed_idle (c : Client) (ms : List MonitorTask) :
    ∀ k, resumed k ⟨c, .idle, ms⟩ = ⟨c, .idle, ms⟩
  | 0 => rfl
  | k + 1 => resumed_idle c ms k

theorem resumed_succ (k : Nat) (s : Monitored) : resumed (k + 1) s = resumed k s.resume.2 := rfl

/-- **A call that nothing comes between** is `connect_ex`. -/
theorem uninterleaved_connectEx (o : ConnectOptions) (w : ConnectWorld) (c : Client)
    (ms : List MonitorTask) :
    ∃ ms', resumed 5 (next ⟨c, .idle, ms⟩ (.connectEx o w)).2 =
      ⟨(connectEx o w c).2, .idle, ms'⟩ := by
  rw [connectEx]
  simp only [next]
  cases refusal c.vpn.state with
  | some e => exact ⟨ms, resumed_idle c ms 5⟩
  | none =>
    rw [resumed_succ]
    simp only [resume]
    rcases openRelay o w (prepareSession o w c).vpn with ⟨e | relay, v⟩
    · exact ⟨ms, resumed_idle _ ms 4⟩
    · simp only [resumed_succ 3, resume]
      rcases setupAssetRelays o w relay.relayAddr ⟨v, (prepareSession o w c).shared⟩
        with ⟨assetRelays, c'⟩
      simp only [resumed_succ 2, resume]
      rcases startSplitTunnel o w relay assetRelays (c'.setState .configuringSplitTunnel).vpn
        with ⟨e | ⟨processes, active⟩, v'⟩
      · exact ⟨ms, rfl⟩
      · exact ⟨_, rfl⟩

/-- **A call that nothing comes between** is `disconnect`. -/
theorem uninterleaved_disconnect (io : HostsIo) (c : Client) (ms : List MonitorTask) :
    resumed 2 (next ⟨c, .idle, ms⟩ (.disconnect io)).2 = ⟨disconnect io c, .idle, ms⟩ := rfl

end Monitored

/-! ## 3. What a phase leaves of the split tunnel and the flag -/

/-- The split tunnel and the stop flag are the same. -/
structure SameMonitor (v v' : VpnConnection) : Prop where
  splitTunnel : v'.splitTunnel = v.splitTunnel
  stop : v'.processMonitorStop = v.processMonitorStop

theorem SameMonitor.refl (v : VpnConnection) : SameMonitor v v := ⟨rfl, rfl⟩

theorem sameMonitor_prepareSession (o : ConnectOptions) (w : ConnectWorld) (c : Client) :
    SameMonitor c.vpn (prepareSession o w c).vpn := by
  obtain ⟨guard, hdpi⟩ := startGoodbyeDpi_frame o w (repairBootstrapDns o w
    (Client.setState ⟨c.vpn, resolveExclusions o w c.shared⟩ .fetchingConfig)).vpn
  have hrepair : SameMonitor c.vpn (repairBootstrapDns o w
      (Client.setState ⟨c.vpn, resolveExclusions o w c.shared⟩ .fetchingConfig)).vpn := by
    rcases repairBootstrapDns_cases o w
      (Client.setState ⟨c.vpn, resolveExclusions o w c.shared⟩ .fetchingConfig) with
      ⟨-, hvpn, -⟩ | ⟨-, hvpn, -⟩
    · rw [hvpn]
      exact ⟨rfl, rfl⟩
    · rw [hvpn]
      exact ⟨rfl, rfl⟩
  rw [prepareSession]
  dsimp only
  rw [hdpi]
  exact ⟨hrepair.splitTunnel, hrepair.stop⟩

/-- Opening the relay moves a connection that is not connected to another such state. -/
theorem openRelay_monitor (o : ConnectOptions) (w : ConnectWorld) (v : VpnConnection) :
    SameMonitor v (openRelay o w v).2 ∧
      ((openRelay o w v).2.state = v.state ∨ (openRelay o w v).2.state = .connecting) := by
  rcases openRelay_cases o w v with ⟨-, e, hopen⟩ | ⟨addr, -, -, ⟨-, e, hopen⟩ | ⟨-, hopen⟩⟩
  · rw [hopen]
    exact ⟨⟨rfl, rfl⟩, Or.inl rfl⟩
  · rw [hopen]
    exact ⟨⟨rfl, rfl⟩, Or.inr rfl⟩
  · rw [hopen]
    exact ⟨⟨rfl, rfl⟩, Or.inr rfl⟩

theorem sameMonitor_setupAssetRelays (o : ConnectOptions) (w : ConnectWorld) (addr : SocketAddr)
    (c : Client) : SameMonitor c.vpn (setupAssetRelays o w addr c).2.vpn := by
  obtain ⟨relays, assets, hassets⟩ := setupAssetRelays_frame o w addr c
  rw [hassets]
  exact ⟨rfl, rfl⟩

/-! ## 4. What a step can do -/

namespace Monitored

/-- The session whose monitor the split tunnel of the connection belongs to. -/
def Current (s : Monitored) (n : Nat) : Prop :=
  s.client.vpn.splitTunnel ≠ none ∧ n + 1 = s.monitors.length

/-- **Everything a step can do** to what the monitors read and write. -/
inductive Move (s : Monitored) (i : MonitorInput) (s' : Monitored) : Prop
  /-- A call writes a state that is not `Connected`, or nothing. -/
  | kept (hsame : SameMonitor s.client.vpn s'.client.vpn) (hmonitors : s'.monitors = s.monitors)
      (hstate : s'.client.vpn.state = s.client.vpn.state ∨
        s'.client.vpn.state.isConnected = false)
      (hcaller : s.caller = .idle →
        s'.caller = .idle ∨ s'.client.vpn.state.isConnected = false)
      (hclosed : s'.caller = .closed → s.caller = .closed)
  /-- The split tunnel comes up and lowers the flag. -/
  | started (o : ConnectOptions) (w : ConnectWorld) (relay : UdpRelay)
      (assetRelays : List UdpRelay) (t : MonitorTask) (hi : i = .caller)
      (hcaller : s.caller = .configuring o w relay assetRelays) (happs : o.sessionApps ≠ [])
      (hruns : w.driver.Runs) (hup : s'.client.vpn.splitTunnel ≠ none)
      (hflag : s'.client.vpn.processMonitorStop = false)
      (hmonitors : s'.monitors = s.monitors ++ [t])
      (hstate : s'.client.vpn.state = s.client.vpn.state) (hclosed : s'.caller ≠ .closed)
  /-- `cleanup` raises the flag. -/
  | cleaned (hcaller : (∃ w e, s.caller = .failing w e) ∨ ∃ io, s.caller = .disconnecting io)
      (hdown : s'.client.vpn.splitTunnel = none)
      (hflag : s'.client.vpn.processMonitorStop = true) (hmonitors : s'.monitors = s.monitors)
      (hstate : s'.client.vpn.state = s.client.vpn.state)
  /-- The call ends in `Connected`. -/
  | published (o : ConnectOptions) (w : ConnectWorld) (relay : UdpRelay)
      (processes : List String) (active : Bool) (hi : i = .caller)
      (hcaller : s.caller = .publishing o w relay processes active)
      (hreturned : s'.caller = .idle) (hsame : SameMonitor s.client.vpn s'.client.vpn)
      (hmonitors : s'.monitors = s.monitors)
  /-- A monitor goes on. -/
  | watched (n : Nat) (running : List String) (t : MonitorTask) (ht : s.monitors[n]? = some t)
      (hs' : s' = { s with
        client := s.client.setState
          (t.next s.client.vpn.processMonitorStop running s.client.vpn.state).2
        monitors := s.monitors.set n
          (t.next s.client.vpn.processMonitorStop running s.client.vpn.state).1 })
  /-- A router switches. -/
  | switched (n : Nat) (region : String) (t : MonitorTask) (ht : s.monitors[n]? = some t)
      (hs' : s' = { s with monitors := s.monitors.set n { t with region := region } })

theorem Move.refl (s : Monitored) (i : MonitorInput) : Move s i s :=
  .kept (SameMonitor.refl _) rfl (Or.inl rfl) Or.inl id

theorem resume_move (s : Monitored) : Move s .caller s.resume.2 := by
  rw [resume]
  cases hcaller : s.caller with
  | idle => exact .refl s _
  | opening o w =>
    obtain ⟨hsame, hstate⟩ := openRelay_monitor o w s.client.vpn
    dsimp only
    generalize openRelay o w s.client.vpn = opened at hsame hstate ⊢
    obtain ⟨e | relay, v⟩ := opened
    · exact .kept hsame rfl (hstate.imp id fun h => by rw [h]; rfl) (by simp [hcaller])
        nofun
    · exact .kept hsame rfl (hstate.imp id fun h => by rw [h]; rfl) (by simp [hcaller])
        nofun
  | relaying o w relay =>
    have hsame := sameMonitor_setupAssetRelays o w relay.relayAddr s.client
    exact .kept ⟨hsame.splitTunnel, hsame.stop⟩ rfl (Or.inr rfl) (fun _ => Or.inr rfl) nofun
  | configuring o w relay assetRelays =>
    dsimp only
    rcases startSplitTunnel_cases o w relay assetRelays s.client.vpn with ⟨-, hstart⟩ |
      ⟨-, e, hstart⟩ | ⟨happs, hruns, hstart⟩
    · rw [hstart]
      exact .kept ⟨rfl, rfl⟩ rfl (Or.inl rfl) (by simp [hcaller]) nofun
    · rw [hstart]
      exact .kept ⟨rfl, rfl⟩ rfl (Or.inl rfl) (by simp [hcaller]) nofun
    · rw [hstart]
      exact .started o w relay assetRelays _ rfl hcaller happs hruns nofun rfl rfl rfl nofun
  | failing w e => exact .cleaned (Or.inl ⟨w, e, hcaller⟩) rfl rfl rfl rfl
  | failed e => exact .kept ⟨rfl, rfl⟩ rfl (Or.inr rfl) (fun _ => Or.inl rfl) nofun
  | publishing o w relay processes active =>
    exact .published o w relay processes active rfl hcaller rfl ⟨rfl, rfl⟩ rfl
  | disconnecting io => exact .cleaned (Or.inr ⟨io, hcaller⟩) rfl rfl rfl rfl
  | closed => exact .kept ⟨rfl, rfl⟩ rfl (Or.inr rfl) (fun _ => Or.inl rfl) nofun

theorem next_move (s : Monitored) (i : MonitorInput) : Move s i (s.next i).2 := by
  cases i with
  | connectEx o w =>
    simp only [next]
    split
    · split
      · exact .refl s _
      · have hdown : (prepareSession o w s.client).vpn.state.isConnected = false := by
          rw [(prepareSession_cases o w s.client).1]
          rfl
        exact .kept (sameMonitor_prepareSession o w s.client) rfl (Or.inr hdown)
          (fun _ => Or.inr hdown) nofun
    · exact .refl s _
  | disconnect io =>
    simp only [next]
    split
    · exact .kept ⟨rfl, rfl⟩ rfl (Or.inr rfl) (fun _ => Or.inr rfl) nofun
    · exact .refl s _
  | caller => exact resume_move s
  | monitor n running =>
    simp only [next]
    split
    · exact .refl s _
    · rename_i t ht
      exact .watched n running t ht rfl
  | switched n region =>
    simp only [next]
    split
    · exact .refl s _
    · rename_i t ht
      exact .switched n region t ht rfl

end Monitored

/-! ## 5. Silent monitors -/

@[simp] theorem ConnectionState.isConnected_refresh (names : List String) (region : String)
    (state : ConnectionState) : (state.refresh names region).isConnected = state.isConnected := by
  cases state <;> rfl

theorem ConnectionState.refresh_of_not_connected {state : ConnectionState}
    (h : state.isConnected = false) (names : List String) (region : String) :
    state.refresh names region = state := by
  cases state with
  | connected info => exact nomatch h
  | _ => rfl

theorem MonitorTask.isConnected_next (t : MonitorTask) (stop : Bool) (running : List String)
    (state : ConnectionState) : (t.next stop running state).2.isConnected = state.isConnected := by
  rw [MonitorTask.next]
  split <;> simp

/-- The monitor will write no more, as long as the flag stays up: it has ended, or it has a look
at the flag before it, unless what it would write to is not connected. -/
def MonitorTask.Silenced (v : VpnConnection) (t : MonitorTask) : Prop :=
  t.phase = .ended ∨
    v.processMonitorStop = true ∧ (v.state.isConnected = true → ¬ t.phase.Committed)

theorem MonitorTask.Silenced.next {v : VpnConnection} {t : MonitorTask} (h : t.Silenced v)
    (running : List String) :
    (t.next v.processMonitorStop running v.state).2 = v.state ∧
      (t.next v.processMonitorStop running v.state).1.Silenced v := by
  obtain ⟨region, phase⟩ := t
  rcases h with hended | ⟨hstop, hfree⟩
  · obtain rfl : phase = .ended := hended
    exact ⟨rfl, Or.inl rfl⟩
  · simp only [MonitorTask.next, hstop]
    cases phase with
    | check => exact ⟨rfl, Or.inl rfl⟩
    | sleep => exact ⟨rfl, Or.inr ⟨hstop, fun _ h => h⟩⟩
    | recheck => exact ⟨rfl, Or.inl rfl⟩
    | driver => exact ⟨rfl, Or.inr ⟨hstop, fun hc => absurd trivial (hfree hc)⟩⟩
    | state names =>
      refine ⟨ConnectionState.refresh_of_not_connected ?_ names region,
        Or.inr ⟨hstop, fun _ h => h⟩⟩
      exact Bool.eq_false_iff.mpr fun hc => hfree hc trivial
    | ended => exact ⟨rfl, Or.inl rfl⟩

/-- A silenced monitor stays so where the flag stays up and no connection is made. -/
theorem MonitorTask.Silenced.congr {v v' : VpnConnection} {t : MonitorTask} (h : t.Silenced v)
    (hstop : v'.processMonitorStop = v.processMonitorStop)
    (hstate : v'.state.isConnected = v.state.isConnected ∨ v'.state.isConnected = false) :
    t.Silenced v' := by
  rcases h with hended | ⟨hup, hfree⟩
  · exact Or.inl hended
  · refine Or.inr ⟨hstop.trans hup, fun hc => ?_⟩
    rcases hstate with hs | hs
    · exact hfree (hs ▸ hc)
    · rw [hs] at hc
      exact nomatch hc

/-- The earlier monitors `ms` are out of the way of a call that goes on: when the split tunnel
comes up, which lowers the flag, all of them have ended; when a session without a split tunnel
is published, none is past its second look at the flag. -/
def CallerPhase.Unhindered (v : VpnConnection) (ms : List MonitorTask) :
    CallerPhase → Prop
  | .configuring o w _ _ => o.sessionApps ≠ [] → w.driver.Runs → ∀ t ∈ ms, t.phase = .ended
  | .publishing .. => v.splitTunnel = none → ∀ t ∈ ms, ¬ t.phase.Committed
  | .idle | .opening .. | .relaying .. | .failing .. | .failed _ | .disconnecting _ | .closed => True

instance (d : DriverOutcome) : Decidable d.Runs :=
  inferInstanceAs (Decidable (_ = _ ∧ _ = _ ∧ _ = _))

instance (v : VpnConnection) (ms : List MonitorTask) :
    DecidablePred (CallerPhase.Unhindered v ms)
  | .configuring o w _ _ =>
    inferInstanceAs (Decidable (o.sessionApps ≠ [] → w.driver.Runs → ∀ t ∈ ms, t.phase = .ended))
  | .publishing .. =>
    inferInstanceAs (Decidable (v.splitTunnel = none → ∀ t ∈ ms, ¬ t.phase.Committed))
  | .idle | .opening .. | .relaying .. | .failing .. | .failed _ | .disconnecting _ | .closed =>
    .isTrue trivial

namespace Monitored

/-- The earlier monitors are out of the way. -/
def OutOfTheWay (s : Monitored) : MonitorInput → Prop
  | .caller => s.caller.Unhindered s.client.vpn s.monitors
  | .connectEx .. | .disconnect _ | .monitor .. | .switched .. => True

instance (s : Monitored) : DecidablePred s.OutOfTheWay
  | .caller => inferInstanceAs (Decidable (s.caller.Unhindered s.client.vpn s.monitors))
  | .connectEx .. | .disconnect _ | .monitor .. | .switched .. => .isTrue trivial

/-- A step that finds the earlier monitors out of the way. -/
def Step (s : Monitored) (i : MonitorInput) (r : Option CallReturn) (s' : Monitored) : Prop :=
  s.OutOfTheWay i ∧ s.next i = (r, s')

/-- Only the monitor of the current session can still write. -/
structure SilentInv (s : Monitored) : Prop where
  caller : s.caller = .idle ∨ s.client.vpn.state.isConnected = false
  lowered : s.client.vpn.splitTunnel ≠ none → s.client.vpn.processMonitorStop = false
  earlier : ∀ n t, s.monitors[n]? = some t → ¬ s.Current n → t.Silenced s.client.vpn
  closed : s.caller = .closed → s.client.vpn.splitTunnel = none

theorem silentInv_fresh (hostsFile : Text) : SilentInv (fresh hostsFile) :=
  ⟨Or.inl rfl, fun h => absurd rfl h, fun n t ht => by simp [fresh] at ht, nofun⟩

/-- `cleanup` runs while the state is not `Connected`. -/
theorem not_connected_of_cleaned {s : Monitored}
    (h : s.caller = .idle ∨ s.client.vpn.state.isConnected = false)
    (hcaller : (∃ w e, s.caller = .failing w e) ∨ ∃ io, s.caller = .disconnecting io) :
    s.client.vpn.state.isConnected = false := by
  refine h.resolve_left ?_
  rcases hcaller with ⟨w, e, hc⟩ | ⟨io, hc⟩
  · rw [hc]
    exact nofun
  · rw [hc]
    exact nofun

/-- The state is not `Connected` while a call runs. -/
theorem Move.caller {s s' : Monitored} {i : MonitorInput} (hmove : Move s i s')
    (h : s.caller = .idle ∨ s.client.vpn.state.isConnected = false) :
    s'.caller = .idle ∨ s'.client.vpn.state.isConnected = false := by
  cases hmove with
  | kept _ _ hstate hcaller _ =>
    rcases h with hidle | hdown
    · exact hcaller hidle
    · exact Or.inr (hstate.elim (fun hs => by rw [hs]; exact hdown) id)
  | started _ _ _ _ _ _ hcaller _ _ _ _ _ hstate _ =>
    refine Or.inr (hstate ▸ h.resolve_left ?_)
    rw [hcaller]
    exact nofun
  | cleaned hcaller _ _ _ hstate =>
    exact Or.inr (hstate ▸ not_connected_of_cleaned h hcaller)
  | published _ _ _ _ _ _ _ hreturned => exact Or.inl hreturned
  | watched n running t _ hs' =>
    rw [hs']
    exact h.imp id fun hdown => (t.isConnected_next _ running _).trans hdown
  | switched n region t _ hs' =>
    rw [hs']
    exact h

theorem getElem?_set_cases {l : List MonitorTask} {n m : Nat} {a b : MonitorTask}
    (h : (l.set n a)[m]? = some b) : n = m ∧ a = b ∨ l[m]? = some b := by
  by_cases hnm : n = m
  · subst hnm
    have hlt : n < l.length := by simpa using (List.getElem?_eq_some_iff.mp h).1
    rw [List.getElem?_set_self hlt] at h
    exact Or.inl ⟨rfl, Option.some.inj h⟩
  · rw [List.getElem?_set_ne hnm] at h
    exact Or.inr h

/-- **One step keeps the earlier monitors silenced.** -/
theorem silentInv_step {s s' : Monitored} {i : MonitorInput} {r : Option CallReturn}
    (hstep : Step s i r s') (h : SilentInv s) : SilentInv s' := by
  obtain ⟨hout, hnext⟩ := hstep
  have hmove : Move s i s' := by
    have := next_move s i
    rwa [hnext] at this
  have hcaller := hmove.caller h.caller
  cases hmove with
  | kept hsame hmonitors hstate _ hclosed =>
    refine ⟨hcaller, ?_, ?_, fun hc => hsame.splitTunnel.trans (h.closed (hclosed hc))⟩
    · rw [hsame.splitTunnel, hsame.stop]
      exact h.lowered
    · rw [hmonitors]
      intro n t ht hn
      rw [Current, hsame.splitTunnel, hmonitors] at hn
      exact (h.earlier n t ht hn).congr hsame.stop (hstate.imp (congrArg _) id)
  | started o w relay assetRelays t hi hconf happs hruns hup hflag hmonitors _ hopen =>
    subst hi
    simp only [OutOfTheWay, hconf, CallerPhase.Unhindered] at hout
    refine ⟨hcaller, fun _ => hflag, fun n t' ht hn => Or.inl ?_, fun hc => absurd hc hopen⟩
    have hlen : s'.monitors.length = s.monitors.length + 1 := by rw [hmonitors]; simp
    have hlt : n < s'.monitors.length := (List.getElem?_eq_some_iff.mp ht).1
    have hold : n < s.monitors.length := by
      have : ¬ n + 1 = s'.monitors.length := fun h => hn ⟨hup, h⟩
      omega
    rw [hmonitors, List.getElem?_append_left hold] at ht
    exact hout happs hruns t' (List.mem_of_getElem? ht)
  | cleaned hcall hdown hflag hmonitors hstate =>
    refine ⟨hcaller, fun hup => absurd hdown hup, fun n t _ _ => Or.inr ⟨hflag, fun hc => ?_⟩,
      fun _ => hdown⟩
    rw [hstate, not_connected_of_cleaned h.caller hcall] at hc
    exact nomatch hc
  | published o w relay processes active hi hpub hreturned hsame hmonitors =>
    subst hi
    simp only [OutOfTheWay, hpub, CallerPhase.Unhindered] at hout
    refine ⟨hcaller, ?_, ?_, by simp [hreturned]⟩
    · rw [hsame.splitTunnel, hsame.stop]
      exact h.lowered
    · rw [hmonitors]
      intro n t ht hn
      rw [Current, hsame.splitTunnel, hmonitors] at hn
      rcases h.earlier n t ht hn with hended | ⟨hup, -⟩
      · exact Or.inl hended
      · -- the flag is up, so there is no split tunnel, and the condition applies
        refine Or.inr ⟨hsame.stop.trans hup, fun _ => hout ?_ t (List.mem_of_getElem? ht)⟩
        by_contra hsplit
        rw [h.lowered hsplit] at hup
        exact nomatch hup
  | watched n running t ht hs' =>
    obtain rfl := hs'
    refine ⟨hcaller, h.lowered, fun m t' hm hcur => ?_, h.closed⟩
    rw [Current, List.length_set] at hcur
    rcases getElem?_set_cases hm with ⟨rfl, rfl⟩ | hm
    · obtain ⟨hsame, hsil⟩ := MonitorTask.Silenced.next (h.earlier n t ht hcur) running
      exact hsil.congr rfl (Or.inl (congrArg _ hsame))
    · exact (h.earlier m t' hm hcur).congr rfl (Or.inl (t.isConnected_next _ running _))
  | switched n region t ht hs' =>
    obtain rfl := hs'
    refine ⟨hcaller, h.lowered, fun m t' hm hcur => ?_, h.closed⟩
    rw [Current, List.length_set] at hcur
    rcases getElem?_set_cases hm with ⟨rfl, rfl⟩ | hm
    · exact h.earlier n t ht hcur
    · exact h.earlier m t' hm hcur

theorem silentInv_run {s s' : Monitored} {es : List (MonitorInput × Option CallReturn)}
    (hrun : Run Step s es s') (h : SilentInv s) : SilentInv s' :=
  hrun.preserves (P := SilentInv) (fun _ _ _ _ hstep => silentInv_step hstep) h

/-- A monitor that changes the connection state is that of the current session. -/
theorem current_of_writes {s : Monitored} (h : SilentInv s) {n : Nat} {running : List String}
    (hwrites : (s.next (.monitor n running)).2.client.vpn.state ≠ s.client.vpn.state) :
    s.Current n := by
  by_contra hcur
  apply hwrites
  simp only [next]
  split
  · rfl
  · rename_i t ht
    exact (MonitorTask.Silenced.next (h.earlier n t ht hcur) running).1

/-- The monitors of the first `k` sessions belong to no session that can still be current. -/
structure Superseded (k : Nat) (s : Monitored) : Prop where
  spawned : k ≤ s.monitors.length
  later : s.client.vpn.splitTunnel ≠ none → k < s.monitors.length

theorem superseded_next {k : Nat} {s : Monitored} (h : Superseded k s) (i : MonitorInput) :
    Superseded k (s.next i).2 := by
  have hmove := next_move s i
  generalize (s.next i).2 = s' at hmove
  cases hmove with
  | kept hsame hmonitors _ _ _ =>
    refine ⟨?_, ?_⟩
    · rw [hmonitors]
      exact h.spawned
    · rw [hsame.splitTunnel, hmonitors]
      exact h.later
  | started _ _ _ _ t _ _ _ _ _ _ hmonitors _ _ =>
    have hlen : s'.monitors.length = s.monitors.length + 1 := by rw [hmonitors]; simp
    have := h.spawned
    exact ⟨by omega, fun _ => by omega⟩
  | cleaned _ hdown _ hmonitors _ =>
    refine ⟨?_, fun hup => absurd hdown hup⟩
    rw [hmonitors]
    exact h.spawned
  | published _ _ _ _ _ _ _ _ hsame hmonitors =>
    refine ⟨?_, ?_⟩
    · rw [hmonitors]
      exact h.spawned
    · rw [hsame.splitTunnel, hmonitors]
      exact h.later
  | watched n running t ht hs' =>
    obtain rfl := hs'
    exact ⟨by rw [List.length_set]; exact h.spawned,
      fun hup => by rw [List.length_set]; exact h.later hup⟩
  | switched n region t ht hs' =>
    obtain rfl := hs'
    exact ⟨by rw [List.length_set]; exact h.spawned,
      fun hup => by rw [List.length_set]; exact h.later hup⟩

/-- When `disconnect` returns, every session so far is over. -/
theorem superseded_of_disconnect {s s' : Monitored} (h : SilentInv s)
    (hnext : s.next .caller = (some .disconnect, s')) : Superseded s'.monitors.length s' := by
  refine ⟨le_rfl, fun hup => absurd ?_ hup⟩
  rw [next, resume] at hnext
  cases hcaller : s.caller with
  | closed =>
    rw [hcaller] at hnext
    obtain ⟨-, rfl⟩ := Prod.mk.inj hnext
    exact h.closed hcaller
  | opening o w =>
    rw [hcaller] at hnext
    dsimp only at hnext
    split at hnext
    · exact nomatch hnext
    · exact nomatch hnext
  | configuring o w relay assetRelays =>
    rw [hcaller] at hnext
    dsimp only at hnext
    split at hnext
    · exact nomatch hnext
    · exact nomatch hnext
  | _ =>
    rw [hcaller] at hnext
    exact nomatch hnext

/-- **When the monitor of an ended session stays silent**: in every run in which each reconnect
finds the earlier monitors out of the way.  After a `disconnect` has returned, no monitor that
was spawned before it changes the connection state, and at all times a monitor that does is
that of the current session, with its driver and its router. -/
theorem ended_monitors_silent {hostsFile : Text} {s₁ s₂ : Monitored}
    {es fs : List (MonitorInput × Option CallReturn)} (h₁ : Run Step (fresh hostsFile) es s₁)
    (h₂ : Run Step s₁ fs s₂) (n : Nat) (running : List String) :
    (es.getLast? = some (.caller, some .disconnect) → n < s₁.monitors.length →
      (s₂.next (.monitor n running)).2.client.vpn.state = s₂.client.vpn.state) ∧
    ((s₂.next (.monitor n running)).2.client.vpn.state ≠ s₂.client.vpn.state → s₂.Current n) := by
  have hinv : SilentInv s₂ := silentInv_run h₂ (silentInv_run h₁ (silentInv_fresh hostsFile))
  refine ⟨fun hlast hn => ?_, current_of_writes hinv⟩
  obtain ⟨es', rfl⟩ := List.getLast?_eq_some_iff.mp hlast
  obtain ⟨s₀, h₀, -, hnext⟩ := run_concat_iff.mp h₁
  have hover : Superseded s₁.monitors.length s₂ :=
    h₂.preserves (P := Superseded s₁.monitors.length)
      (fun s i r s' hstep h => by
        have hs' := superseded_next h i
        rwa [hstep.2] at hs')
      (superseded_of_disconnect (silentInv_run h₀ (silentInv_fresh hostsFile)) hnext)
  by_contra hwrites
  obtain ⟨hup, hcur⟩ := current_of_writes hinv hwrites
  have := hover.later hup
  omega

/-- A `connect_ex` that nothing comes between, in a world whose driver fares as given. -/
def connectInputs (o : ConnectOptions) (d : DriverOutcome) : List MonitorInput :=
  .connectEx o (blockedWorld [] d) :: List.replicate 4 .caller

/-- A session through Singapore whose monitor makes the given number of steps, and its end. -/
def singaporeInputs (steps : Nat) : List MonitorInput :=
  connectInputs singaporeOptions workingDriver ++ List.replicate steps (.monitor 0 []) ++
    [.disconnect HostsIo.ok, .caller, .caller]

def afterSingapore (steps : Nat) : Monitored :=
  (trace next (fresh localhostFile) (singaporeInputs steps)).2

/-- A session through Tokyo in which Roblox does not run. -/
def tokyoOptions : ConnectOptions :=
  { ConnectOptions.ofConnect "tokyo" ["RobloxPlayerBeta.exe"] with
    availableServers := [⟨"tokyo-02", ⟨.v4 ⟨45, 32, 253, 124⟩, 51821⟩, none⟩] }

def idleDriver : DriverOutcome := ⟨true, none, none, []⟩

/-- What is reported of the session through Tokyo. -/
def tokyoInfo : ConnectedInfo :=
  ⟨0, "tokyo", ⟨.v4 ⟨45, 32, 253, 124⟩, 51821⟩, "", "authenticated", true, [], none⟩

/-- The connection has been made anew, and then the monitor of the first session makes the given
number of steps; its driver still has the process that ran when it was closed. -/
def reconnectInputs (steps : Nat) : List MonitorInput :=
  connectInputs tokyoOptions idleDriver ++
    List.replicate steps (.monitor 0 ["RobloxPlayerBeta.exe"])

def afterReconnect (steps steps' : Nat) : Monitored :=
  (trace next (afterSingapore steps) (reconnectInputs steps')).2

/-- **A monitor that sleeps through a reconnect goes on**: it finds the flag down again, and
overwrites what is reported of the new session with the processes and the region of its own. -/
theorem ended_monitor_writes :
    Run (fun s i r s' => s.next i = (r, s')) (fresh localhostFile)
      (trace next (fresh localhostFile) (singaporeInputs 1)).1 (afterSingapore 1) ∧
    (trace next (fresh localhostFile) (singaporeInputs 1)).1.getLast? =
      some (.caller, some .disconnect) ∧
    Run (fun s i r s' => s.next i = (r, s')) (afterSingapore 1)
      (trace next (afterSingapore 1) (reconnectInputs 3)).1 (afterReconnect 1 3) ∧
    0 < (afterSingapore 1).monitors.length ∧
    (afterReconnect 1 3).client.vpn.state = .connected tokyoInfo ∧
    ((afterReconnect 1 3).next (.monitor 0 [])).2.client.vpn.state =
      .connected { tokyoInfo with
        serverRegion := "singapore"
        tunneledProcesses := ["RobloxPlayerBeta.exe"] } := by
  refine ⟨run_trace next _ _, rfl, run_trace next _ _, by decide +kernel, by decide +kernel,
    by decide +kernel⟩

/-- A monitor that looks at the flag between the two sessions has ended when the second one
starts, and nothing of the second is overwritten. -/
theorem ended_monitor_silent :
    TraceMeets next OutOfTheWay (fresh localhostFile) (singaporeInputs 2) ∧
    TraceMeets next OutOfTheWay (afterSingapore 2) (.monitor 0 [] :: reconnectInputs 1) ∧
    ∀ running, ((trace next (afterSingapore 2) (.monitor 0 [] :: reconnectInputs 1)).2.next
      (.monitor 0 running)).2.client.vpn.state =
        (trace next (afterSingapore 2) (.monitor 0 [] :: reconnectInputs 1)).2.client.vpn.state := by
  have h₁ : TraceMeets next OutOfTheWay (fresh localhostFile) (singaporeInputs 2) := by
    decide +kernel
  have h₂ : TraceMeets next OutOfTheWay (afterSingapore 2) (.monitor 0 [] :: reconnectInputs 1) := by
    decide +kernel
  refine ⟨h₁, h₂, fun running => ?_⟩
  exact (ended_monitors_silent (run_trace_meets h₁) (run_trace_meets h₂) 0 running).1 rfl
    (by decide +kernel)

end Monitored

end SwiftTunnel
