/-
# The lookup task, and when a switch is still current

`connection.rs`, the task that `setup_split_tunnel` spawns.  It takes one message after another
from its channel, looks the game server up, and may move the relay.  Every call that the task
makes is one step of it, so that the calls of other threads on the router can fall between any
two; `ping_and_select_best`, where it waits longest, is one of them.

The task checks a lookup with `is_enabled` and `lookup_commit_allowed` before it selects
candidates, and not again before `commit_switch`.

The steps of the task are listed once (`TaskMove`, `taskNext_move`), and what each does to the
router, to the messages and to the check follows from the list.  The invariant of a run ties the
messages to the router's epoch (`Dated`): a message is of an epoch that has begun, and one that was
allowed is of the current epoch as long as no operation has ended the session since (`endedAfter`,
which a log alone tells).

* `dated_run`: every run keeps the messages dated.
* `switched_current_iff`: a switch is made in the session of its message exactly when no
  operation has ended that session since the check.
* `switched_after_reset`: a disconnect while the task waits for the pings does not stop the switch.

The loop ends when the channel is closed.  The router holds the sending end and the task holds the
router, so that does not happen, and the task has no end here either: after a disconnect it still
takes the messages that it finds, which is why the epochs matter.
-/
import SwiftTunnel.Lib.Run
import SwiftTunnel.Vpn.AutoRouting

namespace SwiftTunnel

/-! ## 1. The task -/

/-- `geolocation.rs`, `GameServerRegionLookup`. -/
inductive GameServerRegionLookup where
  | resolved (region : RobloxRegion) (location : String)
  | noRegion
  | failed
  deriving DecidableEq, Repr

/-- What is known of a lookup when candidates have been selected. -/
structure LookupTarget where
  region : RobloxRegion
  location : String
  oldRegion : String
  deriving DecidableEq, Repr

/-- The call that the task makes next, with the local variables it still needs. -/
inductive TaskPc where
  /-- `lookup_rx.recv().await`. -/
  | recv
  /-- `is_enabled()`, before the lookup. -/
  | checkEnabled (m : LookupMessage)
  /-- `should_process_lookup_result(ip)`. -/
  | checkPending (m : LookupMessage)
  /-- `lookup_game_server_region(ip).await`. -/
  | lookup (m : LookupMessage)
  /-- The same call again, after a failure. -/
  | retry (m : LookupMessage)
  /-- `is_enabled()`, after the lookup. -/
  | recheckEnabled (m : LookupMessage) (result : GameServerRegionLookup)
  /-- `lookup_commit_allowed(ip, session_epoch)`. -/
  | checkCommit (m : LookupMessage) (result : GameServerRegionLookup)
  /-- `current_region()` and `get_candidates_for_region(&region)`. -/
  | select (m : LookupMessage) (result : GameServerRegionLookup)
  /-- `ping_and_select_best(&candidates).await`. -/
  | ping (m : LookupMessage) (target : LookupTarget) (candidates : List (String × SocketAddr))
  /-- `switch_allowed_precheck`. -/
  | precheck (m : LookupMessage) (target : LookupTarget) (selected : String × SocketAddr)
  /-- `commit_switch`. -/
  | commit (m : LookupMessage) (target : LookupTarget) (selected : String × SocketAddr)
  /-- `switch_relay(new_addr)`. -/
  | switch (m : LookupMessage) (target : LookupTarget) (newAddr : SocketAddr) (newRegion : String)
  /-- `clear_pending_lookup(ip)`. -/
  | clear (m : LookupMessage)
  /-- `candidates[0]` on an empty list, which `get_candidates_for_region` never returns. -/
  | panicked
  deriving DecidableEq, Repr

namespace TaskPc

/-- The message being processed. -/
def message : TaskPc → Option LookupMessage
  | recv | panicked => none
  | checkEnabled m | checkPending m | lookup m | retry m | recheckEnabled m _ | checkCommit m _
  | select m _ | ping m _ _ | precheck m _ _ | commit m _ _ | switch m _ _ _ | clear m => some m

/-- The message being processed, once `lookup_commit_allowed` has allowed it and while its switch
is still to be made. -/
def allowed : TaskPc → Option LookupMessage
  | select m _ | ping m _ _ | precheck m _ _ | commit m _ _ | switch m _ _ _ => some m
  | _ => none

end TaskPc

/-- What the outside answers, if the task's next call asks it. -/
structure TaskAnswer where
  /-- The result of `lookup_game_server_region`. -/
  lookup : GameServerRegionLookup
  /-- The latency measured for each candidate in turn; the task of a candidate may fail. -/
  pings : List (Option UInt32)
  /-- `now_millis()`. -/
  millis : Nat

/-- What a step shows. -/
inductive LookupEvent where
  | quiet
  /-- `evaluate_game_server` has sent a message. -/
  | sent (m : LookupMessage)
  /-- The task goes on to the next message without having evaluated this one. -/
  | discarded (m : LookupMessage)
  /-- `lookup_commit_allowed` has answered true. -/
  | commitAllowed (m : LookupMessage)
  /-- The relay has been switched, and `relay_switched` is reported. -/
  | switched (m : LookupMessage) (target : LookupTarget) (newAddr : SocketAddr) (newRegion : String)
  deriving DecidableEq, Repr

/-- The task, its channel, the router and the relay that it works on. -/
structure LookupState where
  now : Instant
  router : AutoRouter
  queue : List LookupMessage
  task : TaskPc
  /-- Where the relay sends to. -/
  relayAddr : SocketAddr

/-- `ping_and_select_best`. -/
def pingAndSelectBest (candidates : List (String × SocketAddr)) (pings : List (Option UInt32)) :
    Option (String × SocketAddr × UInt32) :=
  (candidates.zip pings).foldl
    (fun best e => match e.2 with
      | some ms =>
        if best.all fun b => decide (ms < b.2.2) then some (e.1.1, e.1.2, ms) else best
      | none => best)
    none

/-- `compute_cached_latency_improvement`. -/
def computeCachedLatencyImprovement (router : AutoRouter) (toRegion : String) : Option UInt32 :=
  let servers := router.availableServers
  let currentLatency :=
    (servers.find? fun s => s.region == router.currentStRegion).bind (·.latency)
  let targetLatency :=
    (servers.find? fun s => s.region == toRegion ||
      Rust.startsWith s.region (toRegion ++ "-") ||
      Rust.startsWith toRegion (s.region ++ "-")).bind (·.latency)
  match currentLatency, targetLatency with
  | some cur, some tgt => if tgt < cur then some (cur - tgt) else some 0
  | none, _ => some sameRegionUpgradeThresholdMs
  | some _, none => some 0

namespace LookupState

/-- The state when the task is spawned. -/
def start (now : Instant) (router : AutoRouter) (relayAddr : SocketAddr) : LookupState :=
  ⟨now, router, [], .recv, relayAddr⟩

/-- One step of the task.  A task that waits for a message stays where it is. -/
def taskNext (st : LookupState) (a : TaskAnswer) : LookupEvent × LookupState :=
  match st.task with
  | .recv => match st.queue with
    | [] => (.quiet, st)
    | m :: rest => (.quiet, { st with queue := rest, task := .checkEnabled m })
  | .checkEnabled m =>
    if st.router.enabled then (.quiet, { st with task := .checkPending m })
    else (.discarded m, { st with task := .clear m })
  | .checkPending m =>
    if st.router.shouldProcessLookupResult m.ip then (.quiet, { st with task := .lookup m })
    else (.discarded m, { st with task := .recv })
  | .lookup m =>
    if a.lookup = .failed then (.quiet, { st with task := .retry m })
    else (.quiet, { st with task := .recheckEnabled m a.lookup })
  | .retry m => (.quiet, { st with task := .recheckEnabled m a.lookup })
  | .recheckEnabled m result =>
    if st.router.enabled then (.quiet, { st with task := .checkCommit m result })
    else (.discarded m, { st with task := .clear m })
  | .checkCommit m result =>
    if st.router.lookupCommitAllowed m.ip m.sessionEpoch then
      (.commitAllowed m, { st with task := .select m result })
    else (.discarded m, { st with task := .clear m })
  | .select m result => match result with
    | .resolved region location =>
      let oldRegion := st.router.currentStRegion
      match st.router.getCandidatesForRegion a.millis region with
      | (some candidates, r) =>
        (.quiet, { st with router := r, task := .ping m ⟨region, location, oldRegion⟩ candidates })
      | (none, r) => (.quiet, { st with router := r, task := .clear m })
    | .noRegion | .failed => (.quiet, { st with task := .clear m })
  | .ping m target candidates =>
    match pingAndSelectBest candidates a.pings, candidates with
    | some (region, addr, _), _ => (.quiet, { st with task := .precheck m target (region, addr) })
    | none, first :: _ => (.quiet, { st with task := .precheck m target first })
    | none, [] => (.quiet, { st with task := .panicked })
  | .precheck m target selected =>
    if st.router.switchAllowedPrecheck selected.1
        (computeCachedLatencyImprovement st.router selected.1) then
      (.quiet, { st with task := .commit m target selected })
    else (.quiet, { st with task := .clear m })
  | .commit m target selected =>
    match st.router.commitSwitch st.now a.millis target.region selected.1 selected.2
        (some target.location) with
    | (some (newAddr, newRegion), r) =>
      (.quiet, { st with router := r, task := .switch m target newAddr newRegion })
    | (none, r) => (.quiet, { st with router := r, task := .clear m })
  | .switch m target newAddr newRegion =>
    (.switched m target newAddr newRegion, { st with relayAddr := newAddr, task := .clear m })
  | .clear m =>
    (.quiet, { st with router := st.router.clearPendingLookup m.ip, task := .recv })
  | .panicked => (.quiet, st)

/-- A call of another thread; the message that it sends goes to the end of the channel. -/
def otherNext (st : LookupState) (op : RouterOp) : LookupEvent × LookupState :=
  match st.router.apply st.now op with
  | (some m, r) => (.sent m, { st with router := r, queue := st.queue ++ [m] })
  | (none, r) => (.quiet, { st with router := r })

end LookupState

/-- Who takes the next step. -/
inductive LookupInput where
  | task (a : TaskAnswer)
  | other (op : RouterOp)
  /-- Time passes. -/
  | tick (d : Duration)

def lookupNext (st : LookupState) : LookupInput → LookupEvent × LookupState
  | .task a => st.taskNext a
  | .other op => st.otherNext op
  | .tick d => (.quiet, { st with now := st.now + d })

/-- The lookup task interleaved with the calls of other threads. -/
def LookupStep (st : LookupState) (i : LookupInput) (o : LookupEvent) (st' : LookupState) : Prop :=
  lookupNext st i = (o, st')

/-! ## 2. What a step of the task does -/

namespace LookupState

/-- The moves of the task, one for each branch of its calls. -/
inductive TaskMove (a : TaskAnswer) : LookupState → LookupEvent × LookupState → Prop where
  | waits (st : LookupState) :
      TaskMove a { st with queue := [], task := .recv } (.quiet, { st with queue := [], task := .recv })
  | takes (st : LookupState) (m : LookupMessage) (rest : List LookupMessage) :
      TaskMove a { st with queue := m :: rest, task := .recv }
        (.quiet, { st with queue := rest, task := .checkEnabled m })
  | enabled (st : LookupState) (m : LookupMessage) (h : st.router.enabled = true) :
      TaskMove a { st with task := .checkEnabled m } (.quiet, { st with task := .checkPending m })
  | disabled (st : LookupState) (m : LookupMessage) (h : st.router.enabled = false) :
      TaskMove a { st with task := .checkEnabled m } (.discarded m, { st with task := .clear m })
  | pending (st : LookupState) (m : LookupMessage) (h : m.ip ∈ st.router.pendingLookups) :
      TaskMove a { st with task := .checkPending m } (.quiet, { st with task := .lookup m })
  | notPending (st : LookupState) (m : LookupMessage) (h : m.ip ∉ st.router.pendingLookups) :
      TaskMove a { st with task := .checkPending m } (.discarded m, { st with task := .recv })
  | failed (st : LookupState) (m : LookupMessage) (h : a.lookup = .failed) :
      TaskMove a { st with task := .lookup m } (.quiet, { st with task := .retry m })
  | answered (st : LookupState) (m : LookupMessage) (h : a.lookup ≠ .failed) :
      TaskMove a { st with task := .lookup m }
        (.quiet, { st with task := .recheckEnabled m a.lookup })
  | retried (st : LookupState) (m : LookupMessage) :
      TaskMove a { st with task := .retry m }
        (.quiet, { st with task := .recheckEnabled m a.lookup })
  | stillEnabled (st : LookupState) (m : LookupMessage) (result : GameServerRegionLookup)
      (h : st.router.enabled = true) :
      TaskMove a { st with task := .recheckEnabled m result }
        (.quiet, { st with task := .checkCommit m result })
  | nowDisabled (st : LookupState) (m : LookupMessage) (result : GameServerRegionLookup)
      (h : st.router.enabled = false) :
      TaskMove a { st with task := .recheckEnabled m result }
        (.discarded m, { st with task := .clear m })
  | allowed (st : LookupState) (m : LookupMessage) (result : GameServerRegionLookup)
      (h : st.router.lookupCommitAllowed m.ip m.sessionEpoch = true) :
      TaskMove a { st with task := .checkCommit m result }
        (.commitAllowed m, { st with task := .select m result })
  | notAllowed (st : LookupState) (m : LookupMessage) (result : GameServerRegionLookup)
      (h : st.router.lookupCommitAllowed m.ip m.sessionEpoch = false) :
      TaskMove a { st with task := .checkCommit m result }
        (.discarded m, { st with task := .clear m })
  | selects (st : LookupState) (m : LookupMessage) (region : RobloxRegion) (location : String)
      (candidates : List (String × SocketAddr)) (r : AutoRouter)
      (h : st.router.getCandidatesForRegion a.millis region = (some candidates, r)) :
      TaskMove a { st with task := .select m (.resolved region location) }
        (.quiet, { st with
          router := r, task := .ping m ⟨region, location, st.router.currentStRegion⟩ candidates })
  | noCandidates (st : LookupState) (m : LookupMessage) (region : RobloxRegion) (location : String)
      (r : AutoRouter) (h : st.router.getCandidatesForRegion a.millis region = (none, r)) :
      TaskMove a { st with task := .select m (.resolved region location) }
        (.quiet, { st with router := r, task := .clear m })
  | notResolved (st : LookupState) (m : LookupMessage) (result : GameServerRegionLookup)
      (h : result = .noRegion ∨ result = .failed) :
      TaskMove a { st with task := .select m result } (.quiet, { st with task := .clear m })
  | pinged (st : LookupState) (m : LookupMessage) (target : LookupTarget)
      (candidates : List (String × SocketAddr)) (best : String × SocketAddr × UInt32)
      (h : pingAndSelectBest candidates a.pings = some best) :
      TaskMove a { st with task := .ping m target candidates }
        (.quiet, { st with task := .precheck m target (best.1, best.2.1) })
  | notPinged (st : LookupState) (m : LookupMessage) (target : LookupTarget)
      (first : String × SocketAddr) (rest : List (String × SocketAddr))
      (h : pingAndSelectBest (first :: rest) a.pings = none) :
      TaskMove a { st with task := .ping m target (first :: rest) }
        (.quiet, { st with task := .precheck m target first })
  | panics (st : LookupState) (m : LookupMessage) (target : LookupTarget) :
      TaskMove a { st with task := .ping m target [] } (.quiet, { st with task := .panicked })
  | prechecked (st : LookupState) (m : LookupMessage) (target : LookupTarget)
      (selected : String × SocketAddr)
      (h : st.router.switchAllowedPrecheck selected.1
        (computeCachedLatencyImprovement st.router selected.1) = true) :
      TaskMove a { st with task := .precheck m target selected }
        (.quiet, { st with task := .commit m target selected })
  | notPrechecked (st : LookupState) (m : LookupMessage) (target : LookupTarget)
      (selected : String × SocketAddr)
      (h : st.router.switchAllowedPrecheck selected.1
        (computeCachedLatencyImprovement st.router selected.1) = false) :
      TaskMove a { st with task := .precheck m target selected }
        (.quiet, { st with task := .clear m })
  | commits (st : LookupState) (m : LookupMessage) (target : LookupTarget)
      (selected : String × SocketAddr) (newAddr : SocketAddr) (newRegion : String) (r : AutoRouter)
      (h : st.router.commitSwitch st.now a.millis target.region selected.1 selected.2
        (some target.location) = (some (newAddr, newRegion), r)) :
      TaskMove a { st with task := .commit m target selected }
        (.quiet, { st with router := r, task := .switch m target newAddr newRegion })
  | refused (st : LookupState) (m : LookupMessage) (target : LookupTarget)
      (selected : String × SocketAddr) (r : AutoRouter)
      (h : st.router.commitSwitch st.now a.millis target.region selected.1 selected.2
        (some target.location) = (none, r)) :
      TaskMove a { st with task := .commit m target selected }
        (.quiet, { st with router := r, task := .clear m })
  | switches (st : LookupState) (m : LookupMessage) (target : LookupTarget) (newAddr : SocketAddr)
      (newRegion : String) :
      TaskMove a { st with task := .switch m target newAddr newRegion }
        (.switched m target newAddr newRegion, { st with relayAddr := newAddr, task := .clear m })
  | clears (st : LookupState) (m : LookupMessage) :
      TaskMove a { st with task := .clear m }
        (.quiet, { st with router := st.router.clearPendingLookup m.ip, task := .recv })
  | hasPanicked (st : LookupState) :
      TaskMove a { st with task := .panicked } (.quiet, { st with task := .panicked })

/-- **Every step of the task is one of the moves.** -/
theorem taskNext_move (st : LookupState) (a : TaskAnswer) : TaskMove a st (st.taskNext a) := by
  obtain ⟨now, router, queue, task, relayAddr⟩ := st
  let st : LookupState := ⟨now, router, queue, task, relayAddr⟩
  cases task with
  | recv =>
    cases queue with
    | nil => exact TaskMove.waits st
    | cons m rest => exact TaskMove.takes st m rest
  | checkEnabled m =>
    dsimp only [taskNext]
    split
    · exact TaskMove.enabled st m ‹_›
    · exact TaskMove.disabled st m (Bool.eq_false_iff.mpr ‹_›)
  | checkPending m =>
    dsimp only [taskNext]
    split
    · rename_i hp
      exact TaskMove.pending st m (of_decide_eq_true hp)
    · rename_i hp
      exact TaskMove.notPending st m (of_decide_eq_false (Bool.eq_false_iff.mpr hp))
  | lookup m =>
    dsimp only [taskNext]
    split
    · exact TaskMove.failed st m ‹_›
    · exact TaskMove.answered st m ‹_›
  | retry m => exact TaskMove.retried st m
  | recheckEnabled m result =>
    dsimp only [taskNext]
    split
    · exact TaskMove.stillEnabled st m result ‹_›
    · exact TaskMove.nowDisabled st m result (Bool.eq_false_iff.mpr ‹_›)
  | checkCommit m result =>
    dsimp only [taskNext]
    split
    · exact TaskMove.allowed st m result ‹_›
    · exact TaskMove.notAllowed st m result (Bool.eq_false_iff.mpr ‹_›)
  | select m result =>
    cases result with
    | resolved region location =>
      dsimp only [taskNext]
      split
      · exact TaskMove.selects st m region location _ _ ‹_›
      · exact TaskMove.noCandidates st m region location _ ‹_›
    | noRegion => exact TaskMove.notResolved st m _ (Or.inl rfl)
    | failed => exact TaskMove.notResolved st m _ (Or.inr rfl)
  | ping m target candidates =>
    dsimp only [taskNext]
    split
    · exact TaskMove.pinged st m target _ _ ‹_›
    · exact TaskMove.notPinged st m target _ _ ‹_›
    · exact TaskMove.panics st m target
  | precheck m target selected =>
    dsimp only [taskNext]
    split
    · exact TaskMove.prechecked st m target selected ‹_›
    · exact TaskMove.notPrechecked st m target selected (Bool.eq_false_iff.mpr ‹_›)
  | commit m target selected =>
    dsimp only [taskNext]
    split
    · exact TaskMove.commits st m target selected _ _ _ ‹_›
    · exact TaskMove.refused st m target selected _ ‹_›
  | switch m target newAddr newRegion => exact TaskMove.switches st m target newAddr newRegion
  | clear m => exact TaskMove.clears st m
  | panicked => exact TaskMove.hasPanicked st

/-- **What a step of the task does to the router**: nothing, or one of the three calls that
change it.  With the last of them the step does nothing else. -/
theorem taskNext_router (st : LookupState) (a : TaskAnswer) :
    (st.taskNext a).2.router = st.router ∨
      (∃ region, (st.taskNext a).2.router =
        (st.router.getCandidatesForRegion a.millis region).2) ∨
      (∃ m target selected, st.task = .commit m target selected ∧ (st.taskNext a).2.router =
        (st.router.commitSwitch st.now a.millis target.region selected.1 selected.2
          (some target.location)).2) ∨
      ∃ m, st.task = .clear m ∧ (st.taskNext a).2 =
        { st with router := st.router.clearPendingLookup m.ip, task := .recv } := by
  have hmove := st.taskNext_move a
  generalize st.taskNext a = out at hmove ⊢
  cases hmove with
  | selects st m region location candidates r h =>
    exact Or.inr (Or.inl ⟨region, (congrArg Prod.snd h).symm⟩)
  | noCandidates st m region location r h =>
    exact Or.inr (Or.inl ⟨region, (congrArg Prod.snd h).symm⟩)
  | commits st m target selected newAddr newRegion r h =>
    exact Or.inr (Or.inr (Or.inl ⟨m, target, selected, rfl, (congrArg Prod.snd h).symm⟩))
  | refused st m target selected r h =>
    exact Or.inr (Or.inr (Or.inl ⟨m, target, selected, rfl, (congrArg Prod.snd h).symm⟩))
  | clears st m => exact Or.inr (Or.inr (Or.inr ⟨m, rfl, rfl⟩))
  | _ => exact Or.inl rfl

/-- What the task leaves alone of the router: a step that does not clear a pending entry changes
where it relays and what it records of a switch, and nothing else. -/
theorem taskNext_frame (st : LookupState) (a : TaskAnswer) :
    (∃ bypassed window last stRegion relay game log, (st.taskNext a).2.router =
      { st.router with
        autoRoutingBypassed := bypassed
        switchesThisMinute := window
        lastSwitchTime := last
        currentStRegion := stRegion
        currentRelayAddr := relay
        currentGameRegion := game
        eventLog := log }) ∨
      ∃ m, st.task = .clear m ∧ (st.taskNext a).2 =
        { st with router := st.router.clearPendingLookup m.ip, task := .recv } := by
  rcases st.taskNext_router a with h | ⟨region, h⟩ | ⟨m, target, selected, -, h⟩ | h
  · rw [h]
    exact Or.inl ⟨_, _, _, _, _, _, _, rfl⟩
  · obtain ⟨bypassed, game, log, hframe⟩ := st.router.getCandidatesForRegion_frame a.millis region
    rw [h, hframe]
    exact Or.inl ⟨bypassed, _, _, _, _, game, log, rfl⟩
  · obtain ⟨window, last, stRegion, relay, game, log, hframe⟩ := st.router.recordSwitch_frame st.now
      a.millis st.router.currentStRegion selected.1 target.region selected.2 (some target.location)
    rw [h, AutoRouter.commitSwitch_snd, hframe]
    exact Or.inl ⟨_, window, last, stRegion, relay, game, log, rfl⟩
  · exact Or.inr h

/-- The task never toggles the router and never changes its epoch. -/
theorem taskNext_session (st : LookupState) (a : TaskAnswer) :
    (st.taskNext a).2.router.session = st.router.session := by
  rcases st.taskNext_frame a with ⟨bypassed, window, last, stRegion, relay, game, log, h⟩ | ⟨m, -, h⟩
  · rw [h]
    rfl
  · rw [h]
    exact st.router.clearPendingLookup_session m.ip

/-- Every message the task holds or is still to read was there before. -/
theorem taskNext_messages {st : LookupState} {a : TaskAnswer} {m : LookupMessage}
    (h : m ∈ (st.taskNext a).2.queue ∨ (st.taskNext a).2.task.message = some m) :
    m ∈ st.queue ∨ st.task.message = some m := by
  have hmove := st.taskNext_move a
  generalize st.taskNext a = out at h hmove
  cases hmove with
  | takes st m' rest =>
    rcases h with h | h
    · exact Or.inl (List.mem_cons_of_mem _ h)
    · obtain rfl := Option.some.inj h
      exact Or.inl List.mem_cons_self
  | notPending | panics | clears =>
    rcases h with h | h
    · exact Or.inl h
    · cases h
  | _ => exact h

/-- The task asks for the commit only after it has found the router enabled. -/
theorem taskNext_checkCommit {st : LookupState} {a : TaskAnswer} {m : LookupMessage}
    {result : GameServerRegionLookup} (h : (st.taskNext a).2.task = .checkCommit m result) :
    st.router.enabled = true := by
  have hmove := st.taskNext_move a
  generalize st.taskNext a = out at h hmove
  cases hmove with
  | stillEnabled st m' result' hen => exact hen
  | _ => cases h

/-- A lookup that is allowed after a step was allowed before it, or has just passed the check. -/
theorem taskNext_allowed {st : LookupState} {a : TaskAnswer} {m : LookupMessage}
    (h : (st.taskNext a).2.task.allowed = some m) :
    ((st.taskNext a).1 = .commitAllowed m ∧ (∃ result, st.task = .checkCommit m result) ∧
        m.sessionEpoch = st.router.lookupSessionEpoch) ∨
      ((st.taskNext a).1 = .quiet ∧ st.task.allowed = some m) := by
  have hmove := st.taskNext_move a
  generalize st.taskNext a = out at h hmove ⊢
  cases hmove with
  | allowed st m' result hc =>
    obtain rfl := Option.some.inj h
    simp only [AutoRouter.lookupCommitAllowed, AutoRouter.isCurrentLookupSession,
      Bool.and_eq_true, beq_iff_eq] at hc
    exact Or.inl ⟨rfl, ⟨result, rfl⟩, hc.1.symm⟩
  | selects | pinged | notPinged | prechecked | commits => exact Or.inr ⟨rfl, h⟩
  | _ => cases h

/-- A relay switch is the task's step after a successful commit. -/
theorem taskNext_switched {st : LookupState} {a : TaskAnswer} {m : LookupMessage}
    {target : LookupTarget} {newAddr : SocketAddr} {newRegion : String}
    (h : (st.taskNext a).1 = .switched m target newAddr newRegion) :
    st.task = .switch m target newAddr newRegion := by
  have hmove := st.taskNext_move a
  generalize st.taskNext a = out at h hmove
  cases hmove with
  | switches st m' target' newAddr' newRegion' =>
    obtain ⟨rfl, rfl, rfl, rfl⟩ := LookupEvent.switched.inj h
    rfl
  | _ => cases h

/-- A call of another thread changes the router, and sends its message to the end of the channel. -/
theorem otherNext_eq (st : LookupState) (op : RouterOp) :
    st.otherNext op = ((st.router.apply st.now op).1.elim .quiet .sent,
      { st with
        router := (st.router.apply st.now op).2
        queue := st.queue ++ (st.router.apply st.now op).1.toList }) := by
  rw [otherNext]
  split
  · rename_i m r h
    rw [h]
    rfl
  · rename_i r h
    rw [h]
    simp

/-- Another thread's call shows at most a message. -/
theorem otherNext_event (st : LookupState) (op : RouterOp) :
    (st.otherNext op).1 = .quiet ∨ ∃ m, (st.otherNext op).1 = .sent m := by
  rw [otherNext_eq]
  cases (st.router.apply st.now op).1 with
  | none => exact Or.inl rfl
  | some m => exact Or.inr ⟨m, rfl⟩

end LookupState

/-! ## 3. Sessions -/

/-- Whether an operation has ended the session since `lookup_commit_allowed` last answered true:
`ended` is the answer before an event. -/
def endedAfter (ended : Bool) : LookupInput × LookupEvent → Bool
  | (_, .commitAllowed _) => false
  | (.other op, _) => ended || op.endsSession
  | _ => ended

/-- No operation has ended the session since `lookup_commit_allowed` last answered true. -/
def SessionKept (es : List (LookupInput × LookupEvent)) : Prop :=
  es.foldl endedAfter false = false

instance (es : List (LookupInput × LookupEvent)) : Decidable (SessionKept es) :=
  inferInstanceAs (Decidable (_ = _))

/-- What ties the messages to the router's epoch.  A message is of an epoch that has begun; one
that waits for its commit check is of the current epoch only while the router is enabled; one
that has passed it is of the current epoch exactly when the session has not been ended since. -/
structure Dated (ended : Bool) (st : LookupState) : Prop where
  begun : ∀ m, m ∈ st.queue ∨ st.task.message = some m →
    m.sessionEpoch ≤ st.router.lookupSessionEpoch
  rechecked : ∀ m result, st.task = .checkCommit m result →
    m.sessionEpoch = st.router.lookupSessionEpoch → st.router.enabled = true
  kept : ∀ m, st.task.allowed = some m → ended = false →
    m.sessionEpoch = st.router.lookupSessionEpoch ∧ st.router.enabled = true
  lost : ∀ m, st.task.allowed = some m → ended = true →
    m.sessionEpoch < st.router.lookupSessionEpoch

theorem dated_start (ended : Bool) (now : Instant) (router : AutoRouter) (relayAddr : SocketAddr) :
    Dated ended (LookupState.start now router relayAddr) where
  begun m h := by
    rcases h with h | h
    · exact nomatch h
    · exact nomatch h
  rechecked m result h := nomatch h
  kept m h := nomatch h
  lost m h := nomatch h

theorem message_of_allowed {pc : TaskPc} {m : LookupMessage} (h : pc.allowed = some m) :
    pc.message = some m := by
  cases pc with
  | select | ping | precheck | commit | switch => exact h
  | _ => exact nomatch h

/-- A step of the task. -/
theorem dated_task {ended : Bool} {st : LookupState} {a : TaskAnswer} (h : Dated ended st) :
    Dated (endedAfter ended (.task a, (st.taskNext a).1)) (st.taskNext a).2 := by
  have hses := st.taskNext_session a
  have hepoch : (st.taskNext a).2.router.lookupSessionEpoch = st.router.lookupSessionEpoch :=
    congrArg Prod.snd hses
  have hen : (st.taskNext a).2.router.enabled = st.router.enabled := congrArg Prod.fst hses
  constructor
  · intro m hm
    rw [hepoch]
    exact h.begun m (LookupState.taskNext_messages hm)
  · intro m result hm _
    rw [hen]
    exact LookupState.taskNext_checkCommit hm
  · intro m hm hended
    rw [hepoch, hen]
    rcases LookupState.taskNext_allowed hm with ⟨-, ⟨result, hpc⟩, hm⟩ | ⟨hq, hold⟩
    · exact ⟨hm, h.rechecked m result hpc hm⟩
    · rw [hq] at hended
      exact h.kept m hold hended
  · intro m hm hended
    rw [hepoch]
    rcases LookupState.taskNext_allowed hm with ⟨hev, -, -⟩ | ⟨hq, hold⟩
    · rw [hev] at hended
      exact nomatch hended
    · rw [hq] at hended
      exact h.lost m hold hended

/-- A call of another thread. -/
theorem dated_other {ended : Bool} {st : LookupState} {op : RouterOp} (h : Dated ended st) :
    Dated (endedAfter ended (.other op, (st.otherNext op).1)) (st.otherNext op).2 := by
  obtain ⟨hepoch, hen, hsent⟩ := st.router.apply_session st.now op
  have hended : endedAfter ended (.other op, (st.otherNext op).1) = (ended || op.endsSession) := by
    rcases st.otherNext_event op with ho | ⟨m, ho⟩ <;> rw [ho] <;> rfl
  rw [hended, LookupState.otherNext_eq]
  have hle : st.router.lookupSessionEpoch ≤ (st.router.apply st.now op).2.lookupSessionEpoch := by
    rw [hepoch]
    split
    · exact Nat.le_succ _
    · exact Nat.le_refl _
  constructor
  · intro m hm
    rw [List.mem_append, Option.mem_toList, or_assoc] at hm
    rcases hm with hm | hm | hm
    · exact (h.begun m (Or.inl hm)).trans hle
    · exact (hsent m hm).le.trans hle
    · exact (h.begun m (Or.inr hm)).trans hle
  · intro m result hpc hm
    have hbegun := h.begun m (Or.inr (congrArg TaskPc.message hpc))
    cases hop : op.endsSession with
    | true =>
      rw [hepoch, hop, if_pos rfl] at hm
      omega
    | false =>
      rw [hepoch, hop] at hm
      exact hen hop (h.rechecked m result hpc hm)
  · intro m hm hnone
    rw [Bool.or_eq_false_iff] at hnone
    obtain ⟨hm1, hm2⟩ := h.kept m hm hnone.1
    rw [hepoch, hnone.2]
    exact ⟨hm1, hen hnone.2 hm2⟩
  · intro m hm hsome
    rw [Bool.or_eq_true] at hsome
    have hbegun := h.begun m (Or.inr (message_of_allowed hm))
    rcases hsome with hsome | hsome
    · exact (h.lost m hm hsome).trans_le hle
    · rw [hepoch, hsome, if_pos rfl]
      omega

/-- **Every step keeps the messages dated.** -/
theorem dated_step {ended : Bool} {st st' : LookupState} {i : LookupInput} {o : LookupEvent}
    (hstep : LookupStep st i o st') (h : Dated ended st) :
    Dated (endedAfter ended (i, o)) st' := by
  cases i with
  | task a =>
    obtain ⟨rfl, rfl⟩ := Prod.mk.inj hstep
    exact dated_task h
  | other op =>
    obtain ⟨rfl, rfl⟩ := Prod.mk.inj hstep
    exact dated_other h
  | tick d =>
    obtain ⟨rfl, rfl⟩ := Prod.mk.inj hstep
    exact ⟨h.begun, h.rechecked, h.kept, h.lost⟩

theorem dated_run {st st' : LookupState} {es : List (LookupInput × LookupEvent)}
    (hrun : Run LookupStep st es st') {ended : Bool} (h : Dated ended st) :
    Dated (es.foldl endedAfter ended) st' := by
  induction hrun generalizing ended with
  | nil st => exact h
  | cons hstep _ ih => exact ih (dated_step hstep h)

/-- **A switch is made in its message's session exactly when no operation has ended that session
since the commit check**: in every interleaving, at the step that switches the relay, the router
is enabled and its epoch is the message's, or an operation has come in between. -/
theorem switched_current_iff {now : Instant} {router : AutoRouter} {relayAddr newAddr : SocketAddr}
    {es : List (LookupInput × LookupEvent)} {st st' : LookupState} {i : LookupInput}
    {m : LookupMessage} {target : LookupTarget} {newRegion : String}
    (hrun : Run LookupStep (LookupState.start now router relayAddr) es st)
    (hstep : LookupStep st i (.switched m target newAddr newRegion) st') :
    (st.router.enabled = true ∧ st.router.lookupSessionEpoch = m.sessionEpoch) ↔
      SessionKept es := by
  have hdated := dated_run hrun (dated_start false now router relayAddr)
  have hallowed : st.task.allowed = some m := by
    cases i with
    | task a => rw [LookupState.taskNext_switched (congrArg Prod.fst hstep)]; rfl
    | other op =>
      have h : (st.otherNext op).1 = .switched m target newAddr newRegion := congrArg Prod.fst hstep
      rcases st.otherNext_event op with ho | ⟨m', ho⟩ <;> rw [ho] at h <;> cases h
    | tick d => exact nomatch congrArg Prod.fst hstep
  constructor
  · rintro ⟨-, hepoch⟩
    rw [SessionKept, Bool.eq_false_iff]
    intro hended
    have hlost := hdated.lost m hallowed hended
    omega
  · intro hkept
    obtain ⟨hepoch, hen⟩ := hdated.kept m hallowed hkept
    exact ⟨hen, hepoch.symm⟩

/-! Two runs of one lookup, which finds a server of Tokyo while the relay is in Singapore: a
disconnect may come while the task waits for the pings. -/

/-- A router that relays through Singapore and may go to Tokyo. -/
def singaporeRouter : AutoRouter :=
  (((AutoRouter.new 0 true "singapore").setCurrentRelay ⟨.v4 ⟨54, 255, 205, 216⟩, 51821⟩
    "singapore").setAvailableServers
      [⟨"tokyo-02", ⟨.v4 ⟨45, 32, 253, 124⟩, 51821⟩, none⟩]).setLookupChannel

/-- A worker reports a game server, and the task takes its steps up to the pings. -/
def lookupToPing : List LookupInput :=
  .other (.evaluateGameServer ⟨true, true, true⟩ ⟨128, 116, 1, 1⟩) ::
    List.replicate 7 (.task ⟨.resolved .tokyo "Tokyo, JP", [some 40], 0⟩)

/-- The pings, the precheck and the commit. -/
def pingToCommit : List LookupInput := List.replicate 3 (.task ⟨.failed, [some 40], 0⟩)

def lookupRun (is : List LookupInput) : List (LookupInput × LookupEvent) × LookupState :=
  trace lookupNext (LookupState.start 0 singaporeRouter ⟨.v4 ⟨54, 255, 205, 216⟩, 51821⟩) is

/-- **A disconnect during the pings does not stop the switch**: the epoch has moved on, and the
relay is switched for a message of the old one. -/
theorem switched_after_reset :
    ∃ (es : List (LookupInput × LookupEvent)) (st st' : LookupState) (i : LookupInput)
      (m : LookupMessage) (target : LookupTarget) (newAddr : SocketAddr) (newRegion : String),
      Run LookupStep (LookupState.start 0 singaporeRouter ⟨.v4 ⟨54, 255, 205, 216⟩, 51821⟩) es st ∧
        LookupStep st i (.switched m target newAddr newRegion) st' ∧
        ¬ (st.router.enabled = true ∧ st.router.lookupSessionEpoch = m.sessionEpoch) := by
  let is := lookupToPing ++ .other .reset :: pingToCommit
  have hrun := run_trace lookupNext
    (LookupState.start 0 singaporeRouter ⟨.v4 ⟨54, 255, 205, 216⟩, 51821⟩) is
  have hevent : (lookupNext (lookupRun is).2 (.task ⟨.failed, [], 0⟩)).1 =
      .switched ⟨⟨128, 116, 1, 1⟩, 1, 0⟩ ⟨.tokyo, "Tokyo, JP", "singapore"⟩
        ⟨.v4 ⟨45, 32, 253, 124⟩, 51821⟩ "tokyo-02" := by
    decide +kernel
  have hepoch : (lookupRun is).2.router.lookupSessionEpoch = 1 := by decide +kernel
  refine ⟨_, _, _, _, _, _, _, _, hrun, Prod.ext hevent rfl, ?_⟩
  rintro ⟨-, h⟩
  exact absurd (hepoch.symm.trans h) (by decide)

/-- Without the disconnect the same lookup switches in its session. -/
theorem switched_in_session :
    ∃ (es : List (LookupInput × LookupEvent)) (st st' : LookupState) (i : LookupInput)
      (m : LookupMessage) (target : LookupTarget) (newAddr : SocketAddr) (newRegion : String),
      Run LookupStep (LookupState.start 0 singaporeRouter ⟨.v4 ⟨54, 255, 205, 216⟩, 51821⟩) es st ∧
        LookupStep st i (.switched m target newAddr newRegion) st' ∧
        st.router.enabled = true ∧ st.router.lookupSessionEpoch = m.sessionEpoch := by
  let is := lookupToPing ++ pingToCommit
  have hrun := run_trace lookupNext
    (LookupState.start 0 singaporeRouter ⟨.v4 ⟨54, 255, 205, 216⟩, 51821⟩) is
  have hevent : (lookupNext (lookupRun is).2 (.task ⟨.failed, [], 0⟩)).1 =
      .switched ⟨⟨128, 116, 1, 1⟩, 1, 0⟩ ⟨.tokyo, "Tokyo, JP", "singapore"⟩
        ⟨.v4 ⟨45, 32, 253, 124⟩, 51821⟩ "tokyo-02" := by
    decide +kernel
  have hkept : SessionKept (lookupRun is).1 := by decide +kernel
  have hstep : LookupStep (lookupRun is).2 (.task ⟨.failed, [], 0⟩) _ _ := Prod.ext hevent rfl
  exact ⟨_, _, _, _, _, _, _, _, hrun, hstep, (switched_current_iff hrun hstep).mpr hkept⟩

end SwiftTunnel
