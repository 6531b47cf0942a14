/-
# What is reported of the relay in use

Which server a session uses is kept in four places: the `Connected` state, the router's region,
the router's address and the relay itself.  A switch writes the last three.  The process monitor
copies the router's region into the `Connected` state on each of its ticks, but nothing copies an
address: `server_endpoint` stays what `connect_ex` put there.

Here one session runs from the end of `setup_split_tunnel`, where its tasks are spawned.  The
lookup task, the packet workers that report game servers to it, the monitor and the end of
`connect_ex` are interleaved.  That a successful `connect_ex` leaves the machine at its start is
`connectEx_reported`.

A monitor copies a region only if it has a name, so §1 shows that every region a switch can bring has
one.  `Inv` is what ties the four places together: the relay and the router are where the last switch
went, or else where the session began, and the endpoint is where it began.

* `reported_region`: after a tick the region is the router's.
* `reported_server_iff`: after a tick the region is the router's, and the endpoint is the
  relay's exactly when the last switch, if there was one, went back to the first server.
* `stale_endpoint_reported`: one switch, and a tick.

Between ticks the region may lag behind the router; that is by design, and nothing is said of it.
The monitors of earlier sessions are in `Monitor`.
-/
import SwiftTunnel.Vpn.LookupTask
import SwiftTunnel.Vpn.Monitor
import SwiftTunnel.Vpn.RouterRuns
import SwiftTunnel.Vpn.SeenServers

namespace SwiftTunnel

open Rust

/-! ## 1. The regions that the lookup task handles -/

theorem bestSwifttunnelRegion_ne {gameRegion : RobloxRegion} {st : String}
    (h : gameRegion.bestSwifttunnelRegion = some st) : st ≠ "" := by
  rintro rfl
  cases gameRegion <;> simp [RobloxRegion.bestSwifttunnelRegion] at h

/-- A region of a named family has a name. -/
theorem ne_of_inFamily {wanted region : String} (h : AutoRouter.inFamily wanted region = true)
    (hwanted : wanted ≠ "") : region ≠ "" := by
  rintro rfl
  rw [AutoRouter.inFamily, Bool.or_eq_true, beq_iff_eq, startsWith] at h
  rcases h with h | h
  · exact hwanted h.symm
  · simp at h

/-- Every candidate has a region. -/
theorem candidates_named {r : AutoRouter} {millis : Nat} {gameRegion : RobloxRegion}
    {cs : List (String × SocketAddr)}
    (h : (r.getCandidatesForRegion millis gameRegion).1 = some cs) : ∀ c ∈ cs, c.1 ≠ "" := by
  simp only [AutoRouter.getCandidatesForRegion] at h
  split at h
  · cases h
  split at h
  · cases h
  split at h
  · cases h
  rename_i st hst
  split at h
  · cases h
  split at h
  · cases h
  obtain rfl := Option.some.inj h
  intro c hc
  obtain ⟨s, hs, rfl⟩ := List.mem_map.mp hc
  have hfamily := (List.mem_filter.mp ((List.mem_insertionSort _).mp hs)).2
  exact ne_of_inFamily hfamily (bestSwifttunnelRegion_ne hst)

/-- The best candidate is a candidate. -/
theorem mem_of_pingAndSelectBest {candidates : List (String × SocketAddr)}
    {pings : List (Option UInt32)} {best : String × SocketAddr × UInt32}
    (h : pingAndSelectBest candidates pings = some best) : (best.1, best.2.1) ∈ candidates := by
  refine List.foldlRecOn (motive := fun acc => ∀ b, acc = some b → (b.1, b.2.1) ∈ candidates)
    (candidates.zip pings) _ nofun ?_ best h
  intro acc hacc e he b hb
  split at hb
  · split at hb
    · obtain rfl := Option.some.inj hb
      exact (List.of_mem_zip he).1
    · exact hacc b hb
  · exact hacc b hb

/-- Where the step has switched the relay to. -/
def LookupEvent.switchedTo : LookupEvent → Option SocketAddr
  | switched _ _ newAddr _ => some newAddr
  | quiet | sent _ | discarded _ | commitAllowed _ => none

/-- The regions that the task holds are named. -/
def TaskPc.Named : TaskPc → Prop
  | ping _ _ candidates => ∀ c ∈ candidates, c.1 ≠ ""
  | precheck _ _ selected | commit _ _ selected => selected.1 ≠ ""
  | _ => True

namespace LookupState

theorem taskNext_named {st : LookupState} (h : st.task.Named) (a : TaskAnswer) :
    (st.taskNext a).2.task.Named := by
  have hmove := st.taskNext_move a
  generalize st.taskNext a = out at hmove ⊢
  cases hmove with
  | selects st m region location candidates r hc => exact candidates_named (congrArg Prod.fst hc)
  | pinged st m target candidates best hbest => exact h _ (mem_of_pingAndSelectBest hbest)
  | notPinged st m target first rest => exact h first List.mem_cons_self
  | prechecked => exact h
  | _ => trivial

/-- The router's region is left alone, or becomes a named one. -/
theorem taskNext_region {st : LookupState} (h : st.task.Named) (a : TaskAnswer) :
    (st.taskNext a).2.router.currentStRegion = st.router.currentStRegion ∨
      (st.taskNext a).2.router.currentStRegion ≠ "" := by
  rcases st.taskNext_router a with hr | ⟨region, hr⟩ | ⟨m, target, selected, htask, hr⟩ | ⟨m, -, hr⟩
  · exact Or.inl (by rw [hr])
  · obtain ⟨bypassed, game, log, hframe⟩ := st.router.getCandidatesForRegion_frame a.millis region
    exact Or.inl (by rw [hr, hframe])
  · rw [htask] at h
    rw [hr, AutoRouter.commitSwitch_snd]
    rcases st.router.recordSwitch_cases st.now a.millis st.router.currentStRegion selected.1
      target.region selected.2 (some target.location) with hrec | ⟨-, count, start, -, hrec⟩
    · exact Or.inl (by rw [hrec])
    · exact Or.inr (by rw [hrec]; exact h)
  · exact Or.inl (by rw [hr]; rfl)

/-- Where the relay sends to changes in the step that reports the switch. -/
theorem taskNext_relayAddr (st : LookupState) (a : TaskAnswer) :
    (st.taskNext a).2.relayAddr = (st.taskNext a).1.switchedTo.getD st.relayAddr := by
  have hmove := st.taskNext_move a
  generalize st.taskNext a = out at hmove ⊢
  cases hmove <;> rfl

end LookupState

/-! ## 2. One session -/

/-- The tasks of one session, and what is reported of it. -/
structure Reported where
  lookup : LookupState
  monitor : MonitorPhase
  /-- What `connect_ex` is about to publish, until it has. -/
  caller : Option ConnectedInfo
  connection : ConnectionState

inductive ReportedInput where
  /-- The lookup task goes on. -/
  | task (a : TaskAnswer)
  /-- A packet worker reports a game server. -/
  | worker (locks : AutoRouter.TryLocks) (ip : Ipv4Addr)
  /-- Time passes. -/
  | tick (d : Duration)
  /-- The monitor goes on; the driver reports `running`. -/
  | monitor (running : List String)
  /-- `connect_ex` sets the state to `Connected` and returns. -/
  | publish

namespace Reported

/-- The end of `setup_split_tunnel`, in a `connect_ex` that will succeed. -/
def start (o : ConnectOptions) (w : ConnectWorld) (relay : UdpRelay) : Reported where
  lookup := LookupState.start w.now (sessionRouter o w relay) relay.relayAddr
  monitor := .check
  caller := some (connectedInfo o w relay w.driver.tunneledProcesses true)
  connection := .configuringSplitTunnel

def next (s : Reported) : ReportedInput → LookupEvent × Reported
  | .task a =>
    let (event, lookup) := s.lookup.taskNext a
    (event, { s with lookup := lookup })
  | .worker locks ip =>
    let (event, lookup) := s.lookup.otherNext (.evaluateGameServer locks ip)
    (event, { s with lookup := lookup })
  | .tick d => (.quiet, { s with lookup := { s.lookup with now := s.lookup.now + d } })
  | .monitor running =>
    -- the session is not over, so the flag is down
    let (t, state) := MonitorTask.next false running s.connection
      ⟨s.lookup.router.currentStRegion, s.monitor⟩
    (.quiet, { s with monitor := t.phase, connection := state })
  | .publish =>
    match s.caller with
    | some info => (.quiet, { s with caller := none, connection := .connected info })
    | none => (.quiet, s)

/-- One step. -/
def Step (s : Reported) (i : ReportedInput) (e : LookupEvent) (s' : Reported) : Prop :=
  s.next i = (e, s')

end Reported

/-! The machine starts where a successful `connect_ex` has set up the split tunnel. -/

/-- **What a successful `connect_ex` leaves** is the machine's start, published. -/
theorem connectEx_reported {o : ConnectOptions} {w : ConnectWorld} {c : Client}
    (hok : (connectEx o w c).1 = .ok ()) (happs : o.sessionApps ≠ []) :
    ∃ relay, resolveRelayForRegion o.region o.availableServers = .ok relay.relayAddr ∧
      (connectEx o w c).2.vpn.relay = some relay ∧
      (connectEx o w c).2.vpn.autoRouter = some (Reported.start o w relay).lookup.router ∧
      (connectEx o w c).2.vpn.processMonitorStop = false ∧
      (connectEx o w c).2.vpn.state = ((Reported.start o w relay).next .publish).2.connection := by
  rw [connectEx] at hok ⊢
  cases hbusy : refusal c.vpn.state with
  | some e =>
    rw [hbusy] at hok
    cases hok
  | none =>
    rw [hbusy] at hok
    dsimp only at hok ⊢
    rcases openRelay_cases o w (prepareSession o w c).vpn with ⟨-, e, hopen⟩ |
      ⟨addr, -, haddr, ⟨-, e, hopen⟩ | ⟨-, hopen⟩⟩
    · rw [hopen] at hok
      cases hok
    · rw [hopen] at hok
      cases hok
    · rw [hopen] at hok ⊢
      dsimp only at hok ⊢
      obtain ⟨relays, assets, hassets⟩ := setupAssetRelays_frame o w addr
        ⟨{ (prepareSession o w c).vpn with
            config := some ⟨o.region, addr, ""⟩
            state := .connecting
            relay := some ⟨addr⟩ }, (prepareSession o w c).shared⟩
      rw [← Prod.mk.eta (p := setupAssetRelays _ _ _ _), hassets] at hok ⊢
      dsimp only [Client.setState] at hok ⊢
      rcases startSplitTunnel_cases o w ⟨addr⟩ _ _ with ⟨hnone, -⟩ | ⟨-, e, hstart⟩ |
        ⟨-, -, hstart⟩
      · exact absurd hnone happs
      · rw [hstart] at hok
        cases hok
      · rw [hstart]
        exact ⟨⟨addr⟩, haddr, rfl, rfl, rfl, rfl⟩

/-! ## 3. The invariant -/

/-- **What a tick copies**: the names, and the router's region if it has a name; no address. -/
theorem ConnectedInfo.refresh_eq (info : ConnectedInfo) (names : List String) (region : String) :
    info.refresh names region =
      { info with
        tunneledProcesses := names
        serverRegion := if region = "" then info.serverRegion else region } := by
  have hnames : (if info.tunneledProcesses ≠ names then { info with tunneledProcesses := names }
      else info) = { info with tunneledProcesses := names } := by
    by_cases h : info.tunneledProcesses = names
    · subst h
      simp
    · rw [if_pos h]
  simp only [ConnectedInfo.refresh, hnames]
  by_cases hregion : region = ""
  · simp [hregion]
  · by_cases hsame : info.serverRegion = region
    · simp [hsame]
    · simp [hregion, hsame]

/-- Where the switches of a run went, in order. -/
def switches (es : List (ReportedInput × LookupEvent)) : List SocketAddr :=
  es.filterMap fun e => e.2.switchedTo

/-- Where the last switch went, or else where the session began. -/
def lastRelay (addr : SocketAddr) (es : List (ReportedInput × LookupEvent)) : SocketAddr :=
  (switches es).getLast?.getD addr

theorem lastRelay_concat (addr : SocketAddr) (es : List (ReportedInput × LookupEvent))
    (i : ReportedInput) (e : LookupEvent) :
    lastRelay addr (es ++ [(i, e)]) = e.switchedTo.getD (lastRelay addr es) := by
  cases he : e.switchedTo with
  | none => simp [lastRelay, switches, he]
  | some a => simp [lastRelay, switches, he]

namespace Reported

/-- What ties the four places together. -/
structure Inv (o : ConnectOptions) (relay : UdpRelay)
    (es : List (ReportedInput × LookupEvent)) (s : Reported) : Prop where
  relayAddr : s.lookup.relayAddr = lastRelay relay.relayAddr es
  named : s.lookup.task.Named
  caller : ∀ info, s.caller = some info →
    info.serverEndpoint = relay.relayAddr ∧ info.serverRegion = o.region
  endpoint : ∀ info, s.connection = .connected info → info.serverEndpoint = relay.relayAddr
  /-- A router whose region has no name is still in the first one. -/
  unnamed : s.lookup.router.currentStRegion = "" →
    o.region = "" ∧ ∀ info, s.connection = .connected info → info.serverRegion = ""

theorem sessionRouter_region (o : ConnectOptions) (w : ConnectWorld) (relay : UdpRelay) :
    (sessionRouter o w relay).currentStRegion = o.region := by
  have hlisted : ∀ r : AutoRouter, r.currentStRegion = o.region →
      (if o.whitelistedRegions = [] then r
        else r.setWhitelistedRegions o.whitelistedRegions).currentStRegion = o.region := by
    intro r hr
    split
    · exact hr
    · obtain ⟨bypassed, hframe⟩ := r.setWhitelistedRegions_frame o.whitelistedRegions
      rw [hframe]
      exact hr
  simp only [sessionRouter]
  split
  · split
    · exact hlisted _ rfl
    · exact hlisted _ rfl
  · exact hlisted _ rfl

theorem otherNext_relay (st : LookupState) (op : RouterOp) :
    (st.otherNext op).2.relayAddr = st.relayAddr ∧ (st.otherNext op).2.task = st.task ∧
      (st.otherNext op).1.switchedTo = none := by
  refine ⟨by rw [LookupState.otherNext_eq], by rw [LookupState.otherNext_eq], ?_⟩
  rcases st.otherNext_event op with ho | ⟨m, ho⟩ <;> rw [ho] <;> rfl

theorem evaluateGameServer_region (r : AutoRouter) (locks : AutoRouter.TryLocks) (now : Instant)
    (ip : Ipv4Addr) :
    (r.evaluateGameServer locks now ip).2.currentStRegion = r.currentStRegion := by
  obtain ⟨active, seen, pending, any, generation, hframe⟩ := r.evaluateGameServer_frame locks now ip
  obtain ⟨traffic, htraffic⟩ := r.noteGameTraffic_frame now ip
  rw [hframe, htraffic]

/-- What a monitor leaves of a connection: its address, and its region if the router's has no
name. -/
theorem connected_of_next {stop : Bool} {running : List String} {state : ConnectionState}
    {info : ConnectedInfo} (t : MonitorTask)
    (h : (t.next stop running state).2 = .connected info) :
    ∃ info', state = .connected info' ∧ info.serverEndpoint = info'.serverEndpoint ∧
      (t.region = "" → info.serverRegion = info'.serverRegion) := by
  rw [MonitorTask.next] at h
  split at h
  · exact ⟨info, h, rfl, fun _ => rfl⟩
  · exact ⟨info, h, rfl, fun _ => rfl⟩
  · exact ⟨info, h, rfl, fun _ => rfl⟩
  · exact ⟨info, h, rfl, fun _ => rfl⟩
  · cases state with
    | connected info' =>
      rename_i names _
      rw [← ConnectionState.connected.inj h, ConnectedInfo.refresh_eq]
      exact ⟨info', rfl, rfl, fun hr => if_pos hr⟩
    | _ => cases h
  · exact ⟨info, h, rfl, fun _ => rfl⟩

theorem inv_start (o : ConnectOptions) (w : ConnectWorld) (relay : UdpRelay) :
    Inv o relay [] (start o w relay) where
  relayAddr := rfl
  named := trivial
  caller info h := by
    obtain rfl := Option.some.inj h
    exact ⟨rfl, rfl⟩
  endpoint := nofun
  unnamed h := ⟨(sessionRouter_region o w relay).symm.trans h, nofun⟩

theorem inv_step {o : ConnectOptions} {relay : UdpRelay}
    {es : List (ReportedInput × LookupEvent)} {s s' : Reported} {i : ReportedInput}
    {e : LookupEvent} (h : Inv o relay es s) (hstep : Step s i e s') :
    Inv o relay (es ++ [(i, e)]) s' := by
  cases i with
  | task a =>
    obtain ⟨rfl, rfl⟩ := Prod.mk.inj hstep
    refine ⟨?_, LookupState.taskNext_named h.named a, h.caller, h.endpoint, fun hregion => ?_⟩
    · rw [lastRelay_concat, ← h.relayAddr]
      exact s.lookup.taskNext_relayAddr a
    · rcases LookupState.taskNext_region h.named a with hsame | hnamed
      · exact h.unnamed (hsame.symm.trans hregion)
      · exact absurd hregion hnamed
  | worker locks ip =>
    obtain ⟨hrelay, htask, hevent⟩ := otherNext_relay s.lookup (.evaluateGameServer locks ip)
    have hregion : (s.lookup.otherNext (.evaluateGameServer locks ip)).2.router.currentStRegion =
        s.lookup.router.currentStRegion := by
      rw [otherNext_router]
      exact evaluateGameServer_region s.lookup.router locks s.lookup.now ip
    rw [Step, next] at hstep
    generalize s.lookup.otherNext (.evaluateGameServer locks ip) = out
      at hrelay htask hevent hregion hstep
    obtain ⟨rfl, rfl⟩ := Prod.mk.inj hstep
    refine ⟨?_, ?_, h.caller, h.endpoint, fun hr => h.unnamed (hregion.symm.trans hr)⟩
    · rw [lastRelay_concat, hevent]
      exact hrelay.trans h.relayAddr
    · change out.2.task.Named
      rw [htask]
      exact h.named
  | tick d =>
    obtain ⟨rfl, rfl⟩ := Prod.mk.inj hstep
    exact ⟨(lastRelay_concat ..).symm ▸ h.relayAddr, h.named, h.caller, h.endpoint, h.unnamed⟩
  | monitor running =>
    obtain ⟨rfl, rfl⟩ := Prod.mk.inj hstep
    have hkept := fun info => @connected_of_next false running s.connection info
      ⟨s.lookup.router.currentStRegion, s.monitor⟩
    refine ⟨(lastRelay_concat ..).symm ▸ h.relayAddr, h.named, h.caller, fun info hinfo => ?_,
      fun hr => ⟨(h.unnamed hr).1, fun info hinfo => ?_⟩⟩
    · obtain ⟨info', hinfo', hendpoint, -⟩ := hkept info hinfo
      exact hendpoint.trans (h.endpoint info' hinfo')
    · obtain ⟨info', hinfo', -, hregion⟩ := hkept info hinfo
      exact (hregion hr).trans ((h.unnamed hr).2 info' hinfo')
  | publish =>
    cases hcaller : s.caller with
    | none =>
      rw [Step, next, hcaller] at hstep
      obtain ⟨rfl, rfl⟩ := Prod.mk.inj hstep
      exact ⟨(lastRelay_concat ..).symm ▸ h.relayAddr, h.named, h.caller, h.endpoint, h.unnamed⟩
    | some info =>
      rw [Step, next, hcaller] at hstep
      obtain ⟨rfl, rfl⟩ := Prod.mk.inj hstep
      obtain ⟨hendpoint, hregion⟩ := h.caller info hcaller
      refine ⟨(lastRelay_concat ..).symm ▸ h.relayAddr, h.named, nofun, ?_, fun hr => ?_⟩
      · intro info' hinfo
        obtain rfl := ConnectionState.connected.inj hinfo
        exact hendpoint
      · refine ⟨(h.unnamed hr).1, fun info' hinfo => ?_⟩
        obtain rfl := ConnectionState.connected.inj hinfo
        exact hregion.trans (h.unnamed hr).1

theorem inv_run {o : ConnectOptions} {w : ConnectWorld} {relay : UdpRelay}
    {es : List (ReportedInput × LookupEvent)} {s : Reported}
    (hrun : Run Step (start o w relay) es s) : Inv o relay es s :=
  hrun.history (P := Inv o relay) (inv_start o w relay) fun _ _ _ _ _ _ h hstep => inv_step h hstep

/-! ## 4. What a tick reports -/

/-- What a tick writes. -/
theorem tick_connected {s s' : Reported} {names running : List String} {e : LookupEvent}
    {info' : ConnectedInfo} (hphase : s.monitor = .state names)
    (htick : Step s (.monitor running) e s') (hconn : s'.connection = .connected info') :
    s'.lookup = s.lookup ∧ ∃ info, s.connection = .connected info ∧
      info' = info.refresh names s.lookup.router.currentStRegion := by
  rw [Step, next, hphase] at htick
  obtain ⟨-, rfl⟩ := Prod.mk.inj htick
  refine ⟨rfl, ?_⟩
  change s.connection.refresh names s.lookup.router.currentStRegion = _ at hconn
  cases hs : s.connection with
  | connected info =>
    rw [hs] at hconn
    exact ⟨info, rfl, (ConnectionState.connected.inj hconn).symm⟩
  | _ =>
    rw [hs] at hconn
    exact nomatch hconn

/-- After a tick the region is the router's. -/
theorem reported_region {o : ConnectOptions} {relay : UdpRelay}
    {es : List (ReportedInput × LookupEvent)} {s s' : Reported} {names running : List String}
    {e : LookupEvent} {info : ConnectedInfo} (h : Inv o relay es s)
    (hphase : s.monitor = .state names) (htick : Step s (.monitor running) e s')
    (hconn : s'.connection = .connected info) :
    info.serverRegion = s'.lookup.router.currentStRegion := by
  obtain ⟨hlookup, info, hinfo, rfl⟩ := tick_connected hphase htick hconn
  rw [hlookup, ConnectedInfo.refresh_eq]
  dsimp only
  split
  · rename_i hr
    exact ((h.unnamed hr).2 info hinfo).trans hr.symm
  · rfl

/-- **When the reported server is the one in use**: right after a tick, whether or not a lookup
is being processed, region and endpoint are those of the router and of the relay exactly when
the last switch, if the session has had one, went to the address that `connect_ex` connected to. -/
theorem reported_server_iff {o : ConnectOptions} {w : ConnectWorld} {relay : UdpRelay}
    {es : List (ReportedInput × LookupEvent)} {s s' : Reported} {names running : List String}
    {e : LookupEvent} {info : ConnectedInfo} (hrun : Run Step (start o w relay) es s)
    (hphase : s.monitor = .state names) (htick : Step s (.monitor running) e s')
    (hconn : s'.connection = .connected info) :
    (info.serverRegion = s'.lookup.router.currentStRegion ∧
        info.serverEndpoint = s'.lookup.relayAddr) ↔
      ∀ addr, (switches es).getLast? = some addr → addr = relay.relayAddr := by
  have hinv := inv_run hrun
  have hregion := reported_region hinv hphase htick hconn
  obtain ⟨hlookup, info, hinfo, rfl⟩ := tick_connected hphase htick hconn
  have hendpoint : (info.refresh names s.lookup.router.currentStRegion).serverEndpoint =
      relay.relayAddr := by
    rw [ConnectedInfo.refresh_eq]
    exact hinv.endpoint info hinfo
  rw [hendpoint, hlookup, hinv.relayAddr, lastRelay]
  rw [hlookup] at hregion
  cases (switches es).getLast? with
  | none => exact ⟨fun _ => nofun, fun _ => ⟨hregion, rfl⟩⟩
  | some addr =>
    constructor
    · rintro ⟨-, heq⟩ addr' haddr
      obtain rfl := Option.some.inj haddr
      exact heq.symm
    · intro h
      exact ⟨hregion, (h addr rfl).symm⟩

/-! A session through Singapore that may go to Tokyo. -/

/-- Auto-routing is on, and there is a server of Tokyo. -/
def routedOptions : ConnectOptions :=
  { singaporeOptions with
    autoRoutingEnabled := true
    availableServers := singaporeOptions.availableServers ++ Monitored.tokyoOptions.availableServers }

def singaporeRelay : UdpRelay := ⟨⟨.v4 ⟨54, 255, 205, 216⟩, 51821⟩⟩

/-- `connect_ex` returns, and the monitor gets to the lock of the state. -/
def quietInputs : List ReportedInput :=
  .publish :: List.replicate 4 (.monitor ["RobloxPlayerBeta.exe"])

/-- In between, a game server of Tokyo is reported and looked up, and the relay is switched. -/
def switchingInputs : List ReportedInput :=
  .publish :: .worker ⟨true, true, true⟩ ⟨128, 116, 1, 1⟩ ::
    List.replicate 12 (.task ⟨.resolved .tokyo "Tokyo, JP", [some 40], 0⟩) ++
    List.replicate 4 (.monitor ["RobloxPlayerBeta.exe"])

def afterInputs (is : List ReportedInput) : Reported :=
  (trace next (start routedOptions (blockedWorld [] workingDriver) singaporeRelay) is).2

/-- What is reported of the session through Singapore. -/
def singaporeInfo : ConnectedInfo :=
  ⟨0, "singapore", singaporeRelay.relayAddr, "", "authenticated", true, ["RobloxPlayerBeta.exe"],
    none⟩

/-- **A switch and a tick**: the endpoint of the first server is reported beside the region of the
new one, while the relay sends to the new one and no lookup is being processed. -/
theorem stale_endpoint_reported :
    (connectEx routedOptions (blockedWorld [] workingDriver) (Client.fresh localhostFile)).1 =
      .ok () ∧
    ∃ es s s', Run Step (start routedOptions (blockedWorld [] workingDriver) singaporeRelay) es s ∧
      s.monitor = .state ["RobloxPlayerBeta.exe"] ∧ s.lookup.task = .recv ∧
      Step s (.monitor []) .quiet s' ∧
      s'.connection = .connected { singaporeInfo with serverRegion := "tokyo-02" } ∧
      s'.lookup.router.currentStRegion = "tokyo-02" ∧
      s'.lookup.relayAddr = ⟨.v4 ⟨45, 32, 253, 124⟩, 51821⟩ ∧
      singaporeInfo.serverEndpoint ≠ s'.lookup.relayAddr := by
  have haddr : (afterInputs switchingInputs).lookup.relayAddr =
      ⟨.v4 ⟨45, 32, 253, 124⟩, 51821⟩ := by decide +kernel
  refine ⟨rfl, _, _, _, run_trace next _ switchingInputs, ?_, ?_, rfl, ?_, ?_, haddr, ?_⟩
  · decide +kernel
  · decide +kernel
  · decide +kernel
  · decide +kernel
  · exact fun h => absurd (h.trans haddr) (by decide)

/-- Without a switch the tick reports the server in use. -/
theorem quiet_server_reported :
    ∃ es s s', Run Step (start routedOptions (blockedWorld [] workingDriver) singaporeRelay) es s ∧
      s.monitor = .state ["RobloxPlayerBeta.exe"] ∧ Step s (.monitor []) .quiet s' ∧
      s'.connection = .connected singaporeInfo ∧
      singaporeInfo.serverRegion = s'.lookup.router.currentStRegion ∧
      singaporeInfo.serverEndpoint = s'.lookup.relayAddr := by
  have hrun := run_trace next
    (start routedOptions (blockedWorld [] workingDriver) singaporeRelay) quietInputs
  have hphase : (afterInputs quietInputs).monitor = .state ["RobloxPlayerBeta.exe"] := by
    decide +kernel
  have hconn : ((afterInputs quietInputs).next (.monitor [])).2.connection =
      .connected singaporeInfo := by decide +kernel
  have hnone : switches (trace next
      (start routedOptions (blockedWorld [] workingDriver) singaporeRelay) quietInputs).1 = [] := by
    decide +kernel
  have htick : Step (afterInputs quietInputs) (.monitor []) .quiet
      ((afterInputs quietInputs).next (.monitor [])).2 := rfl
  refine ⟨_, _, _, hrun, hphase, htick, hconn, ?_⟩
  refine (reported_server_iff hrun hphase htick hconn).mpr fun addr haddr => ?_
  rw [hnone] at haddr
  exact nomatch haddr

end Reported

end SwiftTunnel
