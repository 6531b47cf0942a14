/-
# Which game servers are looked up again

`auto_routing.rs` with the task of `connection.rs`.  A server that has been looked up joins
`seen_game_servers`, and `evaluate_game_server` sends no second lookup for it unless
`maybe_expire_quiet_pin` finds the pinned server quiet and empties the set.  The two functions
that set the pin have no caller: in the loop that `setup_split_tunnel` starts nothing is ever
pinned, nothing expires, and the set is emptied by `set_enabled(true)` alone.

§1 to §3 are about that loop (`LookupInput.Wired`).  `Unpinned` is what its runs keep, and with it
`evaluate_game_server` has one gate more and one exit less (`evaluateGameServer_unpinned`).

* `seen_sent`: the seen ones are those looked up since the router was last turned on, as a log of
  the run tells them.
* `rerouted_iff`: a server is looked up again exactly when it is not among the seen ones.
* `return_not_rerouted`: the player who moves back.

§4 is about one call of `evaluate_game_server` in any state, with the try-locks that it takes as
inputs: it marks the server, registers the lookup and sends the message under three locks.

* `evaluateGameServer_all_or_nothing_iff`: what becomes of a server when a lock is refused.
* `evaluateGameServer_not_all_or_nothing`: one that is seen and sent but not registered.
-/
import SwiftTunnel.Vpn.PendingLookups

namespace SwiftTunnel

/-! ## 1. The loop as it is wired -/

/-- What the threads of a session do: they set no pin, and the router is not reset. -/
def LookupInput.Wired : LookupInput → Prop
  | .other (.pinActiveGameServer _) => False
  | .other (.pinActiveGameServerForSession _ _) => False
  | .other .reset => False
  | _ => True

/-- No server is pinned, and `pending_any` is set only while a lookup is pending. -/
structure Unpinned (r : AutoRouter) : Prop where
  pin : r.activeGameServerIp = none
  sender : r.lookupSender = true
  any : r.pendingLookups = ∅ → r.pendingAny = false

namespace AutoRouter

/-- What two routers have in common when an operation touches neither the pin nor the books. -/
theorem unpinned_of_books {r r' : AutoRouter} (h : Unpinned r) (hbooks : r'.books = r.books)
    (hpin : r'.activeGameServerIp = r.activeGameServerIp) : Unpinned r' := by
  have hpend : r'.pendingLookups = r.pendingLookups := congrArg LookupBooks.pending hbooks
  have hany : r'.pendingAny = r.pendingAny := congrArg LookupBooks.pendingAny hbooks
  have hsender : r'.lookupSender = r.lookupSender := congrArg LookupBooks.sender hbooks
  constructor
  · exact hpin.trans h.pin
  · exact hsender.trans h.sender
  · rw [hpend, hany]
    exact h.any

/-- **Nothing expires**: without a pin, `maybe_expire_quiet_pin` does nothing. -/
theorem maybeExpireQuietPin_none {r : AutoRouter} (h : r.activeGameServerIp = none)
    (now : Instant) : r.maybeExpireQuietPin now = (false, r) := by
  simp only [maybeExpireQuietPin, h]

theorem unpinned_noteGameTraffic {r : AutoRouter} (h : Unpinned r) (now : Instant)
    (ip : Ipv4Addr) : Unpinned (r.noteGameTraffic now ip) := by
  obtain ⟨traffic, hframe⟩ := r.noteGameTraffic_frame now ip
  rw [hframe]
  exact unpinned_of_books h rfl rfl

theorem unpinned_enqueueLookup {r : AutoRouter} (h : Unpinned r) (locks : TryLocks)
    (ip : Ipv4Addr) : Unpinned (r.enqueueLookup locks ip).2 := by
  rw [enqueueLookup]
  split
  · exact h
  · refine ⟨h.pin, h.sender, ?_⟩
    dsimp only
    split
    · intro hempty
      exact absurd hempty (Finset.insert_ne_empty ip r.pendingLookups)
    · exact h.any

/-- The traffic of a server says nothing about the others. -/
theorem otherGameTrafficQuiet_note (r : AutoRouter) (now : Instant) (ip : Ipv4Addr) :
    (r.noteGameTraffic now ip).otherGameTrafficQuiet now ip = r.otherGameTrafficQuiet now ip := by
  have hinsert : ({ r with gameTraffic := r.gameTraffic.insert ip now } :
      AutoRouter).otherGameTrafficQuiet now ip = r.otherGameTrafficQuiet now ip := by
    rw [Bool.eq_iff_iff]
    simp only [otherGameTrafficQuiet, List.all_eq_true, List.mem_filter, decide_eq_true_eq]
    have hmem : ∀ e : Sigma fun _ : Ipv4Addr => Instant, e.1 ≠ ip →
        (e ∈ (r.gameTraffic.insert ip now).entries ↔ e ∈ r.gameTraffic.entries) := by
      rintro ⟨other, last⟩ hne
      rw [← AList.mem_lookup_iff, ← AList.mem_lookup_iff, AList.lookup_insert_ne hne]
    constructor
    · rintro h e ⟨he, hne⟩
      exact h e ⟨(hmem e hne).mpr he, hne⟩
    · rintro h e ⟨he, hne⟩
      exact h e ⟨(hmem e hne).mp he, hne⟩
  rw [noteGameTraffic]
  split
  · split
    · rfl
    · exact hinsert
  · rfl

/-- **What `evaluate_game_server` does when nothing is pinned**: a server that has been seen is
left alone, and one that has not is looked up, unless a gate is closed. -/
theorem evaluateGameServer_unpinned {r : AutoRouter} (hpin : r.activeGameServerIp = none)
    (locks : TryLocks) (now : Instant) (ip : Ipv4Addr) :
    r.evaluateGameServer locks now ip =
      if r.enabled = true ∧ r.pendingAny = false ∧ r.otherGameTrafficQuiet now ip = true ∧
          locks.seenRead = true ∧ ip ∉ r.seenGameServers then
        (r.noteGameTraffic now ip).enqueueLookup locks ip
      else (none, r.noteGameTraffic now ip) := by
  have hquiet := r.otherGameTrafficQuiet_note now ip
  obtain ⟨hen, hany, hseen, hpin'⟩ : (r.noteGameTraffic now ip).enabled = r.enabled ∧
      (r.noteGameTraffic now ip).pendingAny = r.pendingAny ∧
      (r.noteGameTraffic now ip).seenGameServers = r.seenGameServers ∧
      (r.noteGameTraffic now ip).activeGameServerIp = none := by
    obtain ⟨traffic, hframe⟩ := r.noteGameTraffic_frame now ip
    rw [hframe]
    exact ⟨rfl, rfl, rfl, hpin⟩
  simp only [evaluateGameServer]
  generalize r.noteGameTraffic now ip = q at hquiet hen hany hseen hpin' ⊢
  rw [hen, hany, hquiet, hseen, maybeExpireQuietPin_none hpin']
  -- the gates, in the order of the source
  cases r.enabled with
  | false => simp
  | true =>
    cases r.pendingAny with
    | true => simp
    | false =>
      cases r.otherGameTrafficQuiet now ip with
      | false => simp
      | true =>
        cases locks.seenRead with
        | false => simp
        | true => by_cases h : ip ∈ r.seenGameServers <;> simp [h]

theorem unpinned_evaluateGameServer {r : AutoRouter} (h : Unpinned r) (locks : TryLocks)
    (now : Instant) (ip : Ipv4Addr) : Unpinned (r.evaluateGameServer locks now ip).2 := by
  rw [evaluateGameServer_unpinned h.pin]
  split
  · exact unpinned_enqueueLookup (unpinned_noteGameTraffic h now ip) locks ip
  · exact unpinned_noteGameTraffic h now ip

theorem unpinned_setEnabled {r : AutoRouter} (h : Unpinned r) (enabled : Bool) :
    Unpinned (r.setEnabled enabled) := by
  simp only [setEnabled]
  split
  · exact ⟨h.pin, h.sender, fun _ => rfl⟩
  · split
    · exact ⟨h.pin, h.sender, h.any⟩
    · exact ⟨h.pin, h.sender, h.any⟩

theorem unpinned_apply {r : AutoRouter} (h : Unpinned r) (now : Instant) {op : RouterOp}
    (hwired : (LookupInput.other op).Wired) : Unpinned (r.apply now op).2 := by
  cases op with
  | setEnabled enabled => exact unpinned_setEnabled h enabled
  | setWhitelistedRegions regions =>
    obtain ⟨bypassed, hframe⟩ := r.setWhitelistedRegions_frame regions
    rw [apply, hframe]
    exact unpinned_of_books h rfl rfl
  | noteGameTraffic ip => exact unpinned_noteGameTraffic h now ip
  | evaluateGameServer locks ip => exact unpinned_evaluateGameServer h locks now ip
  | pinActiveGameServer ip => cases hwired
  | pinActiveGameServerForSession ip epoch => cases hwired
  | reset => cases hwired
  | setAvailableServers servers => exact unpinned_of_books h rfl rfl
  | setCurrentRelay addr region => exact unpinned_of_books h rfl rfl
  | setForcedServers servers => exact unpinned_of_books h rfl rfl
  | recordGameRegion region => exact unpinned_of_books h rfl rfl
  | pushDegradedEvent millis reason => exact unpinned_of_books h rfl rfl

theorem unpinned_clearPendingLookup {r : AutoRouter} (h : Unpinned r) (ip : Ipv4Addr) :
    Unpinned (r.clearPendingLookup ip) := by
  refine ⟨h.pin, h.sender, ?_⟩
  simp only [clearPendingLookup]
  intro hempty
  rw [if_pos hempty]

end AutoRouter

open AutoRouter in
/-- A step of the task pins nothing. -/
theorem unpinned_task {st : LookupState} (h : Unpinned st.router) (a : TaskAnswer) :
    Unpinned (st.taskNext a).2.router := by
  rcases st.taskNext_frame a with
    ⟨bypassed, window, last, stRegion, relay, game, log, hr⟩ | ⟨m, -, hr⟩
  · rw [hr]
    exact unpinned_of_books h rfl rfl
  · rw [hr]
    exact unpinned_clearPendingLookup h m.ip

theorem otherNext_router (st : LookupState) (op : RouterOp) :
    (st.otherNext op).2.router = (st.router.apply st.now op).2 := by
  rw [LookupState.otherNext_eq]

theorem unpinned_step {st st' : LookupState} {i : LookupInput} {o : LookupEvent}
    (hwired : i.Wired) (hstep : LookupStep st i o st') (h : Unpinned st.router) :
    Unpinned st'.router := by
  cases i with
  | task a =>
    obtain ⟨rfl, rfl⟩ := Prod.mk.inj hstep
    exact unpinned_task h a
  | other op =>
    obtain ⟨rfl, rfl⟩ := Prod.mk.inj hstep
    change Unpinned (st.otherNext op).2.router
    rw [otherNext_router]
    exact AutoRouter.unpinned_apply h st.now hwired
  | tick d =>
    obtain ⟨rfl, rfl⟩ := Prod.mk.inj hstep
    exact h

/-- A step of the loop as it is wired. -/
def WiredStep (st : LookupState) (i : LookupInput) (o : LookupEvent) (st' : LookupState) : Prop :=
  i.Wired ∧ LookupStep st i o st'

theorem unpinned_run {now : Instant} {enabled : Bool} {region : String} {relayAddr : SocketAddr}
    {es : List (LookupInput × LookupEvent)} {st : LookupState}
    (hrun : Run WiredStep (lookupLoop now enabled region relayAddr) es st) : Unpinned st.router := by
  have hloop : Unpinned (lookupLoop now enabled region relayAddr).router :=
    ⟨rfl, rfl, fun _ => rfl⟩
  refine hrun.preserves (P := fun st => Unpinned st.router) ?_ hloop
  intro s i o s' hs h
  exact unpinned_step hs.1 hs.2 h

/-! ## 2. The seen servers are those looked up -/

/-- Whether the router is on after an event, and the servers looked up since it was turned on. -/
def lookedUpAfter (s : Bool × Finset Ipv4Addr) :
    LookupInput × LookupEvent → Bool × Finset Ipv4Addr
  | (.other (.setEnabled true), _) => (true, if s.1 then s.2 else ∅)
  | (.other (.setEnabled false), _) => (false, s.2)
  | (_, .sent m) => (s.1, insert m.ip s.2)
  | _ => s

/-- The servers looked up in a run since the router was last turned on; `enabled` tells whether
it was on at the start. -/
def lookedUp (enabled : Bool) (es : List (LookupInput × LookupEvent)) : Finset Ipv4Addr :=
  (es.foldl lookedUpAfter (enabled, ∅)).2

/-- The task sends no lookups. -/
theorem taskNext_not_sent (st : LookupState) (a : TaskAnswer) (m : LookupMessage) :
    (st.taskNext a).1 ≠ .sent m := by
  have hmove := st.taskNext_move a
  generalize st.taskNext a = out at hmove ⊢
  intro h
  cases hmove <;> cases h

/-- A step of the task leaves the flag and the seen servers alone. -/
theorem taskNext_seen (st : LookupState) (a : TaskAnswer) :
    (st.taskNext a).2.router.enabled = st.router.enabled ∧
      (st.taskNext a).2.router.seenGameServers = st.router.seenGameServers := by
  rcases st.taskNext_frame a with
    ⟨bypassed, window, last, stRegion, relay, game, log, hr⟩ | ⟨m, -, hr⟩
  · rw [hr]
    exact ⟨rfl, rfl⟩
  · rw [hr]
    exact ⟨rfl, rfl⟩

/-- `evaluate_game_server` adds the server that it looks up, and nothing else. -/
theorem seen_evaluate {st : LookupState} (h : Unpinned st.router) (locks : AutoRouter.TryLocks)
    (ip : Ipv4Addr) :
    lookedUpAfter (st.router.enabled, st.router.seenGameServers)
        (.other (.evaluateGameServer locks ip), (st.otherNext (.evaluateGameServer locks ip)).1) =
      ((st.otherNext (.evaluateGameServer locks ip)).2.router.enabled,
        (st.otherNext (.evaluateGameServer locks ip)).2.router.seenGameServers) := by
  rw [LookupState.otherNext_eq, AutoRouter.apply, AutoRouter.evaluateGameServer_unpinned h.pin]
  obtain ⟨traffic, hframe⟩ := st.router.noteGameTraffic_frame st.now ip
  rw [hframe]
  split
  · rw [AutoRouter.enqueueLookup]
    split
    · rfl
    · simp only [h.sender, if_true]
      rfl
  · rfl

theorem seen_other {st : LookupState} {op : RouterOp} (h : Unpinned st.router)
    (hwired : (LookupInput.other op).Wired) :
    lookedUpAfter (st.router.enabled, st.router.seenGameServers) (.other op, (st.otherNext op).1) =
      ((st.otherNext op).2.router.enabled, (st.otherNext op).2.router.seenGameServers) := by
  cases op with
  | setEnabled enabled =>
    simp only [LookupState.otherNext, AutoRouter.apply, AutoRouter.setEnabled]
    cases enabled with
    | false => rfl
    | true => cases st.router.enabled <;> simp [lookedUpAfter]
  | setWhitelistedRegions regions =>
    obtain ⟨bypassed, hframe⟩ := st.router.setWhitelistedRegions_frame regions
    simp only [LookupState.otherNext, AutoRouter.apply, hframe]
    rfl
  | noteGameTraffic ip =>
    obtain ⟨traffic, hframe⟩ := st.router.noteGameTraffic_frame st.now ip
    simp only [LookupState.otherNext, AutoRouter.apply, hframe]
    rfl
  | evaluateGameServer locks ip => exact seen_evaluate h locks ip
  | pinActiveGameServer ip => cases hwired
  | pinActiveGameServerForSession ip epoch => cases hwired
  | reset => cases hwired
  | setAvailableServers servers => rfl
  | setCurrentRelay addr region => rfl
  | setForcedServers servers => rfl
  | recordGameRegion region => rfl
  | pushDegradedEvent millis reason => rfl

/-- One step keeps the books of the servers looked up. -/
theorem seen_step {st st' : LookupState} {i : LookupInput} {o : LookupEvent}
    (h : Unpinned st.router) (hstep : WiredStep st i o st') :
    lookedUpAfter (st.router.enabled, st.router.seenGameServers) (i, o) =
      (st'.router.enabled, st'.router.seenGameServers) := by
  obtain ⟨hwired, hstep⟩ := hstep
  cases i with
  | task a =>
    obtain ⟨rfl, rfl⟩ := Prod.mk.inj hstep
    obtain ⟨hen, hseen⟩ := taskNext_seen st a
    change lookedUpAfter _ (.task a, (st.taskNext a).1) =
      ((st.taskNext a).2.router.enabled, (st.taskNext a).2.router.seenGameServers)
    rw [hen, hseen]
    have hnot := taskNext_not_sent st a
    generalize (st.taskNext a).1 = o at hnot ⊢
    cases o with
    | sent m => exact absurd rfl (hnot m)
    | _ => rfl
  | other op =>
    obtain ⟨rfl, rfl⟩ := Prod.mk.inj hstep
    exact seen_other h hwired
  | tick d =>
    obtain ⟨rfl, rfl⟩ := Prod.mk.inj hstep
    rfl

/-- **The seen servers are those looked up** since the router was last turned on. -/
theorem seen_sent {now : Instant} {enabled : Bool} {region : String} {relayAddr : SocketAddr}
    {es : List (LookupInput × LookupEvent)} {st : LookupState}
    (hrun : Run WiredStep (lookupLoop now enabled region relayAddr) es st) :
    st.router.seenGameServers = lookedUp enabled es := by
  have hboth : es.foldl lookedUpAfter (enabled, ∅) =
      (st.router.enabled, st.router.seenGameServers) := by
    refine Run.history (P := fun es st => es.foldl lookedUpAfter (enabled, ∅) =
      (st.router.enabled, st.router.seenGameServers)) rfl ?_ hrun
    intro es s i o s' hrun ih hstep
    rw [List.foldl_append, ih]
    exact seen_step (unpinned_run hrun) hstep
  exact (congrArg Prod.snd hboth).symm

/-! ## 3. Moving back -/

/-- **Which servers are looked up again.**  With the router on, nothing pending, the locks granted
and every other server quiet, `evaluate_game_server` sends a lookup exactly for a server that has
not been looked up since the router was last turned on. -/
theorem rerouted_iff {now : Instant} {enabled : Bool} {region : String} {relayAddr : SocketAddr}
    {es : List (LookupInput × LookupEvent)} {st : LookupState}
    (hrun : Run WiredStep (lookupLoop now enabled region relayAddr) es st) (ip : Ipv4Addr)
    (hen : st.router.enabled = true) (hpend : st.router.pendingLookups = ∅)
    (hquiet : st.router.otherGameTrafficQuiet st.now ip = true) :
    (∃ m st', m.ip = ip ∧
        LookupStep st (.other (.evaluateGameServer ⟨true, true, true⟩ ip)) (.sent m) st') ↔
      ip ∉ lookedUp enabled es := by
  have hun := unpinned_run hrun
  obtain ⟨traffic, hframe⟩ := st.router.noteGameTraffic_frame st.now ip
  rw [← seen_sent hrun]
  simp only [LookupStep, lookupNext, LookupState.otherNext, AutoRouter.apply,
    AutoRouter.evaluateGameServer_unpinned hun.pin, hen, hun.any hpend, hquiet, true_and]
  constructor
  · rintro ⟨m, st', -, h⟩ hseen
    rw [if_neg (not_not_intro hseen)] at h
    cases congrArg Prod.fst h
  · intro hseen
    rw [if_pos hseen, hframe]
    simp only [AutoRouter.enqueueLookup, hun.sender]
    exact ⟨_, _, rfl, rfl⟩

/-- The last lookup of a run that the task evaluated. -/
def lastProcessed (es : List (LookupInput × LookupEvent)) : Option LookupMessage :=
  (es.filterMap fun e => match e.2 with
    | .commitAllowed m => some m
    | _ => none).getLast?

/-- A player joins a server; the task looks it up, and stays with the relay it has. -/
def visit (ip : Ipv4Addr) : List LookupInput :=
  reportGameServer ip ::
    List.replicate 8 (.task ⟨.resolved .singapore "Singapore, SG", [], 0⟩) ++
      [.tick (Duration.fromSecs 3)]

theorem visit_wired (ip : Ipv4Addr) : ∀ i ∈ visit ip, i.Wired := by
  simp [visit, reportGameServer, LookupInput.Wired]

/-- A server is reported after another one has gone quiet. -/
theorem next_server_rerouted :
    ∃ m st', m.ip = ⟨128, 116, 2, 2⟩ ∧
      LookupStep (singaporeLoop (visit ⟨128, 116, 1, 1⟩)).2 (reportGameServer ⟨128, 116, 2, 2⟩)
        (.sent m) st' := by
  have hrun := run_trace_of lookupNext
    (lookupLoop 0 true "singapore" ⟨.v4 ⟨54, 255, 205, 216⟩, 51821⟩) (visit_wired ⟨128, 116, 1, 1⟩)
  exact (rerouted_iff hrun ⟨128, 116, 2, 2⟩ (by decide +kernel) (by decide +kernel)
    (by decide +kernel)).mpr (by decide +kernel)

/-- **A player who moves back is not rerouted**: the server has gone quiet, the last lookup was
for another one, and no lookup is sent. -/
theorem return_not_rerouted :
    ∃ (es : List (LookupInput × LookupEvent)) (st : LookupState) (ip : Ipv4Addr),
      Run WiredStep (lookupLoop 0 true "singapore" ⟨.v4 ⟨54, 255, 205, 216⟩, 51821⟩) es st ∧
        st.router.enabled = true ∧ st.router.pendingLookups = ∅ ∧
        st.router.otherGameTrafficQuiet st.now ip = true ∧
        (∃ m, lastProcessed es = some m ∧ m.ip ≠ ip) ∧
        ¬ ∃ m st', m.ip = ip ∧ LookupStep st (reportGameServer ip) (.sent m) st' := by
  have hwired : ∀ i ∈ visit ⟨128, 116, 1, 1⟩ ++ visit ⟨128, 116, 2, 2⟩, i.Wired := by
    intro i hi
    rcases List.mem_append.mp hi with hi | hi
    · exact visit_wired _ i hi
    · exact visit_wired _ i hi
  have hrun := run_trace_of lookupNext
    (lookupLoop 0 true "singapore" ⟨.v4 ⟨54, 255, 205, 216⟩, 51821⟩) hwired
  refine ⟨_, _, ⟨128, 116, 1, 1⟩, hrun, ?_, ?_, ?_, ⟨⟨⟨128, 116, 2, 2⟩, 2, 0⟩, ?_, ?_⟩, ?_⟩
  · decide +kernel
  · decide +kernel
  · decide +kernel
  · decide +kernel
  · decide
  · rintro ⟨m, st', -, h⟩
    have hquiet : (lookupNext (singaporeLoop
        (visit ⟨128, 116, 1, 1⟩ ++ visit ⟨128, 116, 2, 2⟩)).2
          (reportGameServer ⟨128, 116, 1, 1⟩)).1 = .quiet := by decide +kernel
    exact nomatch hquiet.symm.trans (congrArg Prod.fst h)

/-! ## 4. A refused lock -/

namespace AutoRouter

/-- The gates that stand before the marking are all open.  A server that has been seen passes when
the server that owns the route has gone quiet. -/
structure Marks (r : AutoRouter) (locks : TryLocks) (now : Instant) (ip : Ipv4Addr) : Prop where
  enabled : r.enabled = true
  idle : r.pendingAny = false
  quiet : r.otherGameTrafficQuiet now ip = true
  seenRead : locks.seenRead = true
  fresh : ip ∈ r.seenGameServers → ∃ active, r.activeGameServerIp = some active ∧
    (r.noteGameTraffic now ip).gameServerIsQuiet now active = true
  seenWrite : locks.seenWrite = true

/-- What the marking leaves: the server seen, its lookup sent, and registered when the last lock is
granted. -/
structure Marked (r : AutoRouter) (locks : TryLocks) (ip : Ipv4Addr)
    (result : Option LookupMessage × AutoRouter) : Prop where
  seen : ip ∈ result.2.seenGameServers
  sent : r.lookupSender = true → ∃ m, result.1 = some m ∧ m.ip = ip
  pending : result.2.pendingLookups =
    if locks.pendingWrite = true then insert ip r.pendingLookups else r.pendingLookups

/-- What a call leaves that stops at a gate. -/
structure Unmarked (r : AutoRouter) (result : Option LookupMessage × AutoRouter) : Prop where
  seen : result.2.seenGameServers ⊆ r.seenGameServers
  sent : result.1 = none

/-- The end of `evaluate_game_server` marks the server when it may write the set. -/
theorem enqueueLookup_locks {r q : AutoRouter} (hbooks : q.books = r.books)
    (hseen : q.seenGameServers ⊆ r.seenGameServers) (locks : TryLocks) (ip : Ipv4Addr) :
    (locks.seenWrite = true ∧ Marked r locks ip (q.enqueueLookup locks ip)) ∨
      (locks.seenWrite = false ∧ Unmarked r (q.enqueueLookup locks ip)) := by
  rw [enqueueLookup]
  cases hwrite : locks.seenWrite with
  | false => exact Or.inr ⟨rfl, hseen, rfl⟩
  | true =>
    have hsender : q.lookupSender = r.lookupSender := congrArg LookupBooks.sender hbooks
    have hpending : q.pendingLookups = r.pendingLookups := congrArg LookupBooks.pending hbooks
    refine Or.inl ⟨rfl, Finset.mem_insert_self ip _, fun hon =>
      ⟨⟨ip, q.latestLookupGeneration + 1, q.lookupSessionEpoch⟩, ?_, rfl⟩, ?_⟩
    · simp [hsender, hon]
    · simp [hpending]

/-- The pin expires when the server that it names is quiet. -/
theorem maybeExpireQuietPin_cases (q : AutoRouter) (now : Instant) :
    ((∃ active, q.activeGameServerIp = some active ∧ q.gameServerIsQuiet now active = true) ∧
        ∃ q', q.maybeExpireQuietPin now = (true, q') ∧ q'.books = q.books ∧
          q'.seenGameServers = ∅) ∨
      ((¬ ∃ active, q.activeGameServerIp = some active ∧ q.gameServerIsQuiet now active = true) ∧
        q.maybeExpireQuietPin now = (false, q)) := by
  rw [maybeExpireQuietPin]
  cases hactive : q.activeGameServerIp with
  | none => simp
  | some active =>
    cases hquiet : q.gameServerIsQuiet now active with
    | false => simp [hquiet]
    | true =>
      refine Or.inl ⟨⟨active, rfl, hquiet⟩,
        { q with activeGameServerIp := none, seenGameServers := ∅ }, ?_, rfl, rfl⟩
      simp [hquiet]

/-- **The gates before the set of seen servers** as one. -/
theorem evaluateGameServer_gated (r : AutoRouter) (locks : TryLocks) (now : Instant)
    (ip : Ipv4Addr) :
    r.evaluateGameServer locks now ip =
      if r.enabled = true ∧ r.pendingAny = false ∧ r.otherGameTrafficQuiet now ip = true ∧
          locks.seenRead = true then
        if ip ∈ r.seenGameServers then
          if ((r.noteGameTraffic now ip).maybeExpireQuietPin now).1 = true then
            ((r.noteGameTraffic now ip).maybeExpireQuietPin now).2.enqueueLookup locks ip
          else (none, ((r.noteGameTraffic now ip).maybeExpireQuietPin now).2)
        else (r.noteGameTraffic now ip).enqueueLookup locks ip
      else (none, r.noteGameTraffic now ip) := by
  obtain ⟨traffic, hframe⟩ := r.noteGameTraffic_frame now ip
  have hquiet := r.otherGameTrafficQuiet_note now ip
  have hseen : (r.noteGameTraffic now ip).seenGameServers = r.seenGameServers := by rw [hframe]
  have hen : (r.noteGameTraffic now ip).enabled = r.enabled := by rw [hframe]
  have hany : (r.noteGameTraffic now ip).pendingAny = r.pendingAny := by rw [hframe]
  simp only [evaluateGameServer, hen, hany, hquiet, hseen]
  by_cases hgates : r.enabled = true ∧ r.pendingAny = false ∧
      r.otherGameTrafficQuiet now ip = true ∧ locks.seenRead = true
  · rw [if_pos hgates]
    obtain ⟨h1, h2, h3, h4⟩ := hgates
    simp only [h1, h2, h3, h4, Bool.not_true, Bool.false_eq_true, if_false]
    refine if_congr Iff.rfl ?_ rfl
    rcases (r.noteGameTraffic now ip).maybeExpireQuietPin now with ⟨expired, q⟩
    cases expired with
    | false => rfl
    | true => rfl
  · -- one of them stops the call, and the traffic is all that is noted
    rw [if_neg hgates]
    split
    · rfl
    rename_i h1
    split
    · rfl
    rename_i h2
    split
    · rfl
    rename_i h3
    split
    · rfl
    rename_i h4
    exact absurd ⟨by simpa using h1, by simpa using h2, by simpa using h3, by simpa using h4⟩ hgates

/-- **What `evaluate_game_server` can do**, whichever locks are granted. -/
theorem evaluateGameServer_locks (r : AutoRouter) (locks : TryLocks) (now : Instant)
    (ip : Ipv4Addr) :
    (Marks r locks now ip ∧ Marked r locks ip (r.evaluateGameServer locks now ip)) ∨
      (¬ Marks r locks now ip ∧ Unmarked r (r.evaluateGameServer locks now ip)) := by
  obtain ⟨traffic, hframe⟩ := r.noteGameTraffic_frame now ip
  have hbooks := r.noteGameTraffic_books now ip
  have hseen : (r.noteGameTraffic now ip).seenGameServers = r.seenGameServers := by rw [hframe]
  have hactive : (r.noteGameTraffic now ip).activeGameServerIp = r.activeGameServerIp := by
    rw [hframe]
  have hnoted : Unmarked r (none, r.noteGameTraffic now ip) := ⟨hseen.subset, rfl⟩
  rw [evaluateGameServer_gated]
  split
  · rename_i hgates
    obtain ⟨h1, h2, h3, h4⟩ := hgates
    -- behind the gates everything hangs on the set of seen servers and the lock on it
    have hend : ∀ q : AutoRouter, q.books = r.books → q.seenGameServers ⊆ r.seenGameServers →
        (ip ∈ r.seenGameServers → ∃ active, r.activeGameServerIp = some active ∧
          (r.noteGameTraffic now ip).gameServerIsQuiet now active = true) →
        (Marks r locks now ip ∧ Marked r locks ip (q.enqueueLookup locks ip)) ∨
          (¬ Marks r locks now ip ∧ Unmarked r (q.enqueueLookup locks ip)) := by
      intro q hq hsub hfresh
      rcases enqueueLookup_locks hq hsub locks ip with ⟨hwrite, hmarked⟩ | ⟨hwrite, hunmarked⟩
      · exact Or.inl ⟨⟨h1, h2, h3, h4, hfresh, hwrite⟩, hmarked⟩
      · refine Or.inr ⟨fun hm => ?_, hunmarked⟩
        rw [hm.seenWrite] at hwrite
        cases hwrite
    split
    · rename_i hold
      rcases (r.noteGameTraffic now ip).maybeExpireQuietPin_cases now with
        ⟨hpin, q, hexp, hq, hempty⟩ | ⟨hpin, hexp⟩
      · rw [hexp, if_pos rfl]
        rw [hactive] at hpin
        exact hend q (hq.trans hbooks) (by simp [hempty]) fun _ => hpin
      · rw [hexp, if_neg Bool.false_ne_true]
        rw [hactive] at hpin
        exact Or.inr ⟨fun hm => hpin (hm.fresh hold), hnoted⟩
    · rename_i hnew
      exact hend _ hbooks hseen.subset fun hold => absurd hold hnew
  · rename_i hgates
    exact Or.inr ⟨fun hm => hgates ⟨hm.enabled, hm.idle, hm.quiet, hm.seenRead⟩, hnoted⟩

/-- Either the server is not newly marked and nothing is sent, or it is marked, registered and
sent once. -/
def AllOrNothing (r : AutoRouter) (ip : Ipv4Addr)
    (result : Option LookupMessage × AutoRouter) : Prop :=
  ((ip ∈ result.2.seenGameServers → ip ∈ r.seenGameServers) ∧ result.1 = none) ∨
    (ip ∈ result.2.seenGameServers ∧ ip ∈ result.2.pendingLookups ∧
      ∃ m, result.1 = some m ∧ m.ip = ip)

/-- **When `evaluate_game_server` is all or nothing**: when the lock on the pending lookups is
granted, the server is among them already, or the call stops before the marking.  The other two
locks are given up on; this one is passed over. -/
theorem evaluateGameServer_all_or_nothing_iff {r : AutoRouter} (hsender : r.lookupSender = true)
    (locks : TryLocks) (now : Instant) (ip : Ipv4Addr) :
    AllOrNothing r ip (r.evaluateGameServer locks now ip) ↔
      locks.pendingWrite = true ∨ ip ∈ r.pendingLookups ∨ ¬ Marks r locks now ip := by
  rcases evaluateGameServer_locks r locks now ip with ⟨hmarks, hmarked⟩ | ⟨hmarks, hunmarked⟩
  · obtain ⟨m, hm, hip⟩ := hmarked.sent hsender
    have hpending := hmarked.pending
    constructor
    · rintro (⟨-, hnone⟩ | ⟨-, hmem, -⟩)
      · rw [hm] at hnone
        cases hnone
      · rw [hpending] at hmem
        split at hmem
        · rename_i hwrite
          exact Or.inl hwrite
        · exact Or.inr (Or.inl hmem)
    · intro h
      refine Or.inr ⟨hmarked.seen, ?_, m, hm, hip⟩
      rw [hpending]
      split
      · exact Finset.mem_insert_self ip _
      · rename_i hwrite
        exact (h.resolve_left hwrite).resolve_right (not_not_intro hmarks)
  · exact iff_of_true (Or.inl ⟨fun h => hunmarked.seen h, hunmarked.sent⟩) (Or.inr (Or.inr hmarks))

/-- A new router with the task's channel, switched on. -/
def wiredRouter : AutoRouter := (AutoRouter.new 0 true "singapore").setLookupChannel

/-- With every lock granted the first server is marked, registered and sent. -/
theorem wiredRouter_all_or_nothing :
    AllOrNothing wiredRouter ⟨128, 116, 1, 1⟩
      (wiredRouter.evaluateGameServer ⟨true, true, true⟩ 0 ⟨128, 116, 1, 1⟩) :=
  (evaluateGameServer_all_or_nothing_iff rfl ⟨true, true, true⟩ 0 ⟨128, 116, 1, 1⟩).mpr
    (Or.inl rfl)

/-- **A server that is seen, sent and not registered**: a reader holds the lock on the pending
lookups, and the task will discard the message. -/
theorem evaluateGameServer_not_all_or_nothing :
    wiredRouter.lookupSender = true ∧
      ¬ AllOrNothing wiredRouter ⟨128, 116, 1, 1⟩
        (wiredRouter.evaluateGameServer ⟨true, true, false⟩ 0 ⟨128, 116, 1, 1⟩) ∧
      (⟨128, 116, 1, 1⟩ : Ipv4Addr) ∈
        (wiredRouter.evaluateGameServer ⟨true, true, false⟩ 0 ⟨128, 116, 1, 1⟩).2.seenGameServers ∧
      (wiredRouter.evaluateGameServer ⟨true, true, false⟩ 0 ⟨128, 116, 1, 1⟩).2.shouldProcessLookupResult
        ⟨128, 116, 1, 1⟩ = false := by
  refine ⟨rfl, ?_, by decide +kernel, by decide +kernel⟩
  rintro (⟨-, hnone⟩ | ⟨-, hmem, -⟩)
  · revert hnone
    decide +kernel
  · revert hmem
    decide +kernel

end AutoRouter

end SwiftTunnel
