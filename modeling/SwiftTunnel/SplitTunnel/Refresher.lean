/-
# The cache refresher

`interceptor.rs`, `run_cache_refresher`: the thread that keeps the process cache up to date.  Each
round reads the two owner tables of Windows, asks for the name of every process that owns a socket,
on each tenth round looks through all processes as well, and publishes a snapshot.  Between rounds
it sleeps for two seconds at most, in pieces of 50 ms, and stops sleeping when it finds
`refresh_now` up.

Other threads raise that flag (`trigger_refresh`), raise the stop flag, and publish snapshots of
their own (`register_process_immediate`); their steps fall between any two of the refresher's.  What
Windows answers is an input.

The thread is a program counter with its local variables (`RefresherAt`), and each place is some
number of sleeps and rounds away from the next round of reads.  Those numbers are the measures of the
proofs: a step makes them smaller or is none of the kind that they count (`sleeps_step`,
`triggered_step`, `stopped_step`).

* `triggers_answered`: no trigger is lost, and how soon the tables are read after one.

Time is counted in sleeps.  How long Windows takes for an answer is not bounded, and neither is the
time of a round.  Log lines are left out.
-/
import SwiftTunnel.Lib.Flow
import SwiftTunnel.SplitTunnel.TunnelApps
import SwiftTunnel.SplitTunnel.Writers

namespace SwiftTunnel

open Rust

/-! ## 1. The owner tables -/

/-- The fields of a `MIB_TCPROW_OWNER_PID` or a `MIB_UDPROW_OWNER_PID` that are read. -/
structure OwnerRow where
  localAddr : UInt32
  localPort : UInt32
  owningPid : Pid
  deriving DecidableEq, Repr

namespace OwnerRow

/-- `Ipv4Addr::from(entry.dwLocalAddr.to_ne_bytes())`; Windows is little-endian. -/
def localIp (entry : OwnerRow) : Ipv4Addr :=
  ⟨entry.localAddr.toUInt8, (entry.localAddr >>> 8).toUInt8, (entry.localAddr >>> 16).toUInt8,
    (entry.localAddr >>> 24).toUInt8⟩

/-- `u16::from_be(entry.dwLocalPort as u16)`: the low two bytes, swapped. -/
def port (entry : OwnerRow) : UInt16 :=
  (entry.localPort.toUInt16 >>> 8) ||| (entry.localPort.toUInt16 <<< 8)

def key (protocol : Protocol) (entry : OwnerRow) : ConnectionKey :=
  ⟨entry.localIp, entry.port, protocol⟩

end OwnerRow

/-- What `GetExtendedTcpTable` or `GetExtendedUdpTable` answers: the first call a size of zero, the
second one an error, or a buffer.  A buffer claims a number of entries and has room for `slots`. -/
inductive TableReply where
  | empty
  | failed
  | table (numEntries : Nat) (slots : List OwnerRow)

/-- `safe_entries` of the slots are read. -/
def TableReply.entries : TableReply → List OwnerRow
  | .empty => []
  | .failed => []
  | .table numEntries slots => slots.take (min numEntries slots.length)

/-- The loop over the entries of a table. -/
def insertEntries (protocol : Protocol) (connections : Map ConnectionKey Pid)
    (entries : List OwnerRow) : Map ConnectionKey Pid :=
  entries.foldl (fun connections entry => connections.insert (entry.key protocol) entry.owningPid)
    connections

/-- The owner of a socket by a table: the last entry of the socket counts. -/
def lastOwner (protocol : Protocol) (key : ConnectionKey) (entries : List OwnerRow) : Option Pid :=
  (entries.reverse.find? fun entry => decide (entry.key protocol = key)).map (·.owningPid)

theorem lastOwner_concat (protocol : Protocol) (key : ConnectionKey) (entries : List OwnerRow)
    (entry : OwnerRow) : lastOwner protocol key (entries ++ [entry]) =
      if entry.key protocol = key then some entry.owningPid else lastOwner protocol key entries := by
  rw [lastOwner, List.reverse_append, List.reverse_singleton, List.singleton_append,
    List.find?_cons]
  split
  · rename_i h
    rw [if_pos (of_decide_eq_true h), Option.map_some]
  · rename_i h
    rw [if_neg (of_decide_eq_false h), lastOwner]

theorem insertEntries_lookup (protocol : Protocol) (connections : Map ConnectionKey Pid)
    (entries : List OwnerRow) (key : ConnectionKey) :
    (insertEntries protocol connections entries).lookup key =
      (lastOwner protocol key entries).or (connections.lookup key) := by
  induction entries using List.reverseRecOn with
  | nil => rfl
  | append_singleton entries entry ih =>
    rw [insertEntries, List.foldl_append, lastOwner_concat, List.foldl_cons, List.foldl_nil]
    by_cases h : entry.key protocol = key
    · subst h
      rw [AList.lookup_insert, if_pos rfl, Option.some_or]
    · rw [AList.lookup_insert_ne (Ne.symm h), if_neg h]
      exact ih

/-- A table lists sockets of its own protocol only. -/
theorem lastOwner_other (protocol : Protocol) {key : ConnectionKey} (h : key.protocol ≠ protocol)
    (entries : List OwnerRow) : lastOwner protocol key entries = none := by
  rw [lastOwner, Option.map_eq_none_iff, List.find?_eq_none]
  intro entry _ hkey
  exact h (of_decide_eq_true hkey ▸ rfl)

/-! ## 2. Process names -/

/-- The test of the full scan on a name, `is_tunnel`. -/
def nameIsTunnel (tunnelApps : Finset String) (name : String) : Bool :=
  decide (name ∈ tunnelApps) || decide (∃ app ∈ tunnelApps, StemsMeet name app)

/-- It is the cache's own test. -/
theorem pidIsTunnel_eq {pid : Pid} {pidNames : Map Pid String} {tunnelApps : Finset String} :
    pidIsTunnel pid pidNames tunnelApps =
      (pidNames.lookup pid).any (nameIsTunnel tunnelApps) := by
  rw [pidIsTunnel]
  cases pidNames.lookup pid with
  | none => rfl
  | some name => rfl

/-- A process that is running: its id, and the name of its image in lower case, which is not
empty. -/
abbrev RunningProcess := Pid × String

/-- The loop of the full scan: `pid_names.entry(pid).or_insert(name)`. -/
def scanProcesses (tunnelApps : Finset String) (pidNames : Map Pid String)
    (processes : List RunningProcess) : Map Pid String :=
  processes.foldl (fun pidNames process =>
    if nameIsTunnel tunnelApps process.2 = true ∧ process.1 ∉ pidNames then
      pidNames.insert process.1 process.2
    else pidNames) pidNames

/-- The name that a scan gives to a process without one. -/
def scannedName (tunnelApps : Finset String) (pid : Pid) (processes : List RunningProcess) :
    Option String :=
  (processes.find? fun process => process.1 == pid && nameIsTunnel tunnelApps process.2).map (·.2)

theorem scanProcesses_lookup (tunnelApps : Finset String) (pid : Pid)
    (processes : List RunningProcess) (pidNames : Map Pid String) :
    (scanProcesses tunnelApps pidNames processes).lookup pid =
      (pidNames.lookup pid).or (scannedName tunnelApps pid processes) := by
  induction processes generalizing pidNames with
  | nil => exact (Option.or_none).symm
  | cons process processes ih =>
    rw [scanProcesses, List.foldl_cons]
    refine (ih _).trans ?_
    rw [scannedName, scannedName, List.find?_cons]
    by_cases hpid : process.1 = pid
    · subst hpid
      cases htunnel : nameIsTunnel tunnelApps process.2 with
      | false => simp
      | true =>
        by_cases hmem : process.1 ∈ pidNames
        · obtain ⟨name, hname⟩ := Option.isSome_iff_exists.mp (AList.lookup_isSome.mpr hmem)
          simp [hmem, hname]
        · simp [hmem, AList.lookup_eq_none.mpr hmem]
    · have hne : (process.1 == pid) = false := beq_false_of_ne hpid
      rw [hne, Bool.false_and]
      split
      · rw [AList.lookup_insert_ne (Ne.symm hpid)]
      · rfl

/-! ## 3. The thread -/

/-- `SLEEP_CHUNK_MS`. -/
def sleepChunkMs : Nat := 50

/-- `MAX_SLEEP_MS`. -/
def maxSleepMs : Nat := 2000

/-- Where the thread is, with its local variables. -/
inductive RefresherAt where
  /-- The head of the loop, before `stop_flag.load`. -/
  | top
  /-- The head of the inner loop, before `refresh_now.swap`. -/
  | polling (sleptMs : Nat)
  /-- Before the `stop_flag.load` of the inner loop. -/
  | checking (sleptMs : Nat)
  | sleeping (sleptMs : Nat)
  | readTcp
  | readUdp (connections : Map ConnectionKey Pid)
  /-- The owners in `pending` have still to be named. -/
  | naming (connections : Map ConnectionKey Pid) (pending : List Pid) (pidNames : Map Pid String)
  /-- Before `cache.update`. -/
  | updating (connections : Map ConnectionKey Pid) (pidNames : Map Pid String)
  /-- Inside it: the version is drawn. -/
  | storing
  | stopped

/-- `for &pid in connections.values()` begins. -/
def RefresherAt.nameOwners (connections : Map ConnectionKey Pid) : RefresherAt :=
  .naming connections (connections.entries.map (·.2)) ∅

/-- The thread and what it shares.  The refresher's `update` number `n` is execution `2 * n` of the
cache's writers; the odd ones are registrations. -/
structure CacheRefresher where
  pc : RefresherAt
  refreshCount : Nat
  firstRun : Bool
  refreshNow : Bool
  stopFlag : Bool
  writers : Writers

/-- `run_cache_refresher` begins. -/
def CacheRefresher.start (lower : String → String) (tunnelApps : List String) : CacheRefresher :=
  ⟨.top, 0, true, false, false, Writers.start lower tunnelApps⟩

/-- What Windows answers to the thread, where it asks. -/
inductive OsReply where
  | nothing
  /-- `thread::sleep` returns. -/
  | slept
  | tcp (reply : TableReply)
  | udp (reply : TableReply)
  /-- `get_process_name_by_pid(pid)`. -/
  | name (pid : Pid) (reply : Option String)
  /-- `enumerate_all_processes()`. -/
  | processes (processes : List RunningProcess)

/-- A step of one of the threads. -/
inductive RefresherAction where
  | triggerRefresh
  | stop
  /-- A step of a `register_process_immediate`. -/
  | register (e : Nat) (op : WriterOp)
  | step (reply : OsReply)

/-- `register_process_immediate` does not `update`. -/
def WriterOp.isRegistering : WriterOp → Bool
  | .update _ _ => false
  | _ => true

/-- One step. -/
inductive RefresherStep (lower : String → String) :
    CacheRefresher → RefresherAction → Option WriterEvent → CacheRefresher → Prop
  | triggerRefresh (st : CacheRefresher) :
      RefresherStep lower st .triggerRefresh none { st with refreshNow := true }
  | stop (st : CacheRefresher) : RefresherStep lower st .stop none { st with stopFlag := true }
  | register {st : CacheRefresher} {e : Nat} {op : WriterOp} {o : WriterEvent} {w : Writers}
      (hodd : e % 2 = 1) (hop : op.isRegistering = true)
      (h : WriterStep lower st.writers (e, op) o w) :
      RefresherStep lower st (.register e op) (some o) { st with writers := w }
  | topStopped {st : CacheRefresher} (hpc : st.pc = .top) (hstop : st.stopFlag = true) :
      RefresherStep lower st (.step .nothing) none { st with pc := .stopped }
  | topFirst {st : CacheRefresher} (hpc : st.pc = .top) (hstop : st.stopFlag = false)
      (hfirst : st.firstRun = true) :
      RefresherStep lower st (.step .nothing) none { st with pc := .readTcp, firstRun := false }
  | topWait {st : CacheRefresher} (hpc : st.pc = .top) (hstop : st.stopFlag = false)
      (hfirst : st.firstRun = false) :
      RefresherStep lower st (.step .nothing) none { st with pc := .polling 0 }
  | pollFull {st : CacheRefresher} {sleptMs : Nat} (hpc : st.pc = .polling sleptMs)
      (hfull : maxSleepMs ≤ sleptMs) :
      RefresherStep lower st (.step .nothing) none { st with pc := .readTcp }
  | pollUp {st : CacheRefresher} {sleptMs : Nat} (hpc : st.pc = .polling sleptMs)
      (hslept : sleptMs < maxSleepMs) (hnow : st.refreshNow = true) :
      RefresherStep lower st (.step .nothing) none { st with pc := .readTcp, refreshNow := false }
  | pollDown {st : CacheRefresher} {sleptMs : Nat} (hpc : st.pc = .polling sleptMs)
      (hslept : sleptMs < maxSleepMs) (hnow : st.refreshNow = false) :
      RefresherStep lower st (.step .nothing) none { st with pc := .checking sleptMs }
  | checkStopped {st : CacheRefresher} {sleptMs : Nat} (hpc : st.pc = .checking sleptMs)
      (hstop : st.stopFlag = true) :
      RefresherStep lower st (.step .nothing) none { st with pc := .stopped }
  | check {st : CacheRefresher} {sleptMs : Nat} (hpc : st.pc = .checking sleptMs)
      (hstop : st.stopFlag = false) :
      RefresherStep lower st (.step .nothing) none { st with pc := .sleeping sleptMs }
  | sleep {st : CacheRefresher} {sleptMs : Nat} (hpc : st.pc = .sleeping sleptMs) :
      RefresherStep lower st (.step .slept) none { st with pc := .polling (sleptMs + sleepChunkMs) }
  | readTcp {st : CacheRefresher} (reply : TableReply) (hpc : st.pc = .readTcp) :
      RefresherStep lower st (.step (.tcp reply)) none
        { st with pc := .readUdp (insertEntries .tcp ∅ reply.entries) }
  | readUdp {st : CacheRefresher} {connections : Map ConnectionKey Pid} (reply : TableReply)
      (hpc : st.pc = .readUdp connections) :
      RefresherStep lower st (.step (.udp reply)) none
        { st with pc := .nameOwners (insertEntries .udp connections reply.entries) }
  | named {st : CacheRefresher} {connections : Map ConnectionKey Pid} {pid : Pid}
      {pending : List Pid} {pidNames : Map Pid String}
      (hpc : st.pc = .naming connections (pid :: pending) pidNames) (hnamed : pid ∈ pidNames) :
      RefresherStep lower st (.step .nothing) none
        { st with pc := .naming connections pending pidNames }
  | lookupFailed {st : CacheRefresher} {connections : Map ConnectionKey Pid} {pid : Pid}
      {pending : List Pid} {pidNames : Map Pid String}
      (hpc : st.pc = .naming connections (pid :: pending) pidNames) (hnamed : pid ∉ pidNames) :
      RefresherStep lower st (.step (.name pid none)) none
        { st with pc := .naming connections pending pidNames }
  | lookup {st : CacheRefresher} {connections : Map ConnectionKey Pid} {pid : Pid}
      {pending : List Pid} {pidNames : Map Pid String} (name : String)
      (hpc : st.pc = .naming connections (pid :: pending) pidNames) (hnamed : pid ∉ pidNames) :
      RefresherStep lower st (.step (.name pid (some name))) none
        { st with pc := .naming connections pending (pidNames.insert pid name) }
  | scan {st : CacheRefresher} {connections : Map ConnectionKey Pid} {pidNames : Map Pid String}
      (processes : List RunningProcess) (hpc : st.pc = .naming connections [] pidNames)
      (htenth : st.refreshCount % 10 = 0) :
      RefresherStep lower st (.step (.processes processes)) none
        { st with
          pc := .updating connections
            (scanProcesses st.writers.cache.tunnelApps pidNames processes) }
  | noScan {st : CacheRefresher} {connections : Map ConnectionKey Pid} {pidNames : Map Pid String}
      (hpc : st.pc = .naming connections [] pidNames) (htenth : st.refreshCount % 10 ≠ 0) :
      RefresherStep lower st (.step .nothing) none { st with pc := .updating connections pidNames }
  | draw {st : CacheRefresher} {connections : Map ConnectionKey Pid} {pidNames : Map Pid String}
      {o : WriterEvent} {w : Writers} (hpc : st.pc = .updating connections pidNames)
      (h : WriterStep lower st.writers (2 * st.refreshCount, .update connections pidNames) o w) :
      RefresherStep lower st (.step .nothing) (some o) { st with pc := .storing, writers := w }
  | store {st : CacheRefresher} {o : WriterEvent} {w : Writers} (hpc : st.pc = .storing)
      (h : WriterStep lower st.writers (2 * st.refreshCount, .store) o w) :
      RefresherStep lower st (.step .nothing) (some o)
        { st with pc := .top, refreshCount := st.refreshCount + 1, writers := w }

abbrev RefresherEvent := RefresherAction × Option WriterEvent

/-- What happened in a run, in order. -/
abbrev RefresherLog := List RefresherEvent

/-- A round of reads begins. -/
def RefresherEvent.reads : RefresherEvent → Bool
  | (.step (.tcp _), _) => true
  | _ => false

/-- 50 ms of sleep are over. -/
def RefresherEvent.sleeps : RefresherEvent → Bool
  | (.step .slept, _) => true
  | _ => false

/-- The snapshot that the refresher publishes. -/
def RefresherEvent.published : RefresherEvent → Option ProcessSnapshot
  | (.step _, some (.stored s)) => some s
  | _ => none

def RefresherEvent.publishes (e : RefresherEvent) : Bool := e.published.isSome

/-! ## 4. How long a round is waited for -/

variable {lower : String → String} {apps : List String}

/-- A step of `update` draws a version first. -/
theorem update_drawn {w w' : Writers} {e : Nat} {connections : Map ConnectionKey Pid}
    {pidNames : Map Pid String} {o : WriterEvent}
    (h : WriterStep lower w (e, .update connections pidNames) o w') :
    o = .drawn w.cache.draw.version ∧
      w' = w.move e w.cache.draw (.updating connections pidNames w.cache.draw.version) := by
  cases h with
  | update _ _ hidle => exact ⟨rfl, rfl⟩

/-- The sleeps that a place is away from the next round, at most. -/
def RefresherAt.sleepsLeft : RefresherAt → Nat
  | .polling sleptMs => (maxSleepMs - sleptMs + 49) / sleepChunkMs
  | .checking sleptMs | .sleeping sleptMs =>
    1 + (maxSleepMs - (sleptMs + sleepChunkMs) + 49) / sleepChunkMs
  | .readTcp | .stopped => 0
  | _ => 40

theorem sleepsLeft_le (pc : RefresherAt) : pc.sleepsLeft ≤ 40 := by
  cases pc <;> simp only [RefresherAt.sleepsLeft, maxSleepMs, sleepChunkMs] <;> omega

theorem sleeps_step {st st' : CacheRefresher} {a : RefresherAction} {o : Option WriterEvent}
    (hread : RefresherEvent.reads (a, o) = false) (h : RefresherStep lower st a o st') :
    [(a, o)].countP RefresherEvent.sleeps + st'.pc.sleepsLeft ≤ st.pc.sleepsLeft := by
  cases h with
  | triggerRefresh | stop | register => exact (Nat.zero_add _).le
  | readTcp => cases hread
  | topStopped | topFirst | pollFull | pollUp | checkStopped => exact Nat.zero_le _
  | pollDown hpc hslept hnow =>
    rw [hpc]
    simp only [List.countP_singleton, RefresherEvent.sleeps, RefresherAt.sleepsLeft, maxSleepMs,
      sleepChunkMs] at hslept ⊢
    simp only [Bool.false_eq_true, if_false]
    omega
  | sleep hpc => rw [hpc]; rfl
  | check hpc | topWait hpc | readUdp _ hpc | named hpc | lookupFailed hpc | lookup _ hpc
  | scan _ hpc | noScan hpc | draw hpc | store hpc => rw [hpc]; exact (Nat.zero_add _).le

/-- Sleeps and rounds that are still to come once `refresh_now` is up. -/
def RefresherAt.urgentSleeps : RefresherAt → Nat
  | .checking _ | .sleeping _ => 1
  | _ => 0

def RefresherAt.urgentRounds : RefresherAt → Nat
  | .readUdp _ | .naming .. | .updating .. | .storing => 1
  | _ => 0

/-- A trigger is still known. -/
def CacheRefresher.Triggered (st : CacheRefresher) : Prop := st.refreshNow = true ∨ st.pc = .readTcp

/-- **A trigger is kept until the next round.** -/
theorem triggered_step {st st' : CacheRefresher} {a : RefresherAction} {o : Option WriterEvent}
    (htrig : st.Triggered) (hread : RefresherEvent.reads (a, o) = false)
    (h : RefresherStep lower st a o st') :
    st'.Triggered ∧
      [(a, o)].countP RefresherEvent.sleeps + st'.pc.urgentSleeps ≤ st.pc.urgentSleeps ∧
      [(a, o)].countP RefresherEvent.publishes + st'.pc.urgentRounds ≤ st.pc.urgentRounds := by
  -- where the thread is not about to read, the flag is up
  have hup : st.pc ≠ .readTcp → st.refreshNow = true := fun hne => htrig.resolve_right hne
  cases h with
  | triggerRefresh => exact ⟨Or.inl rfl, (Nat.zero_add _).le, (Nat.zero_add _).le⟩
  | stop | register => exact ⟨htrig, (Nat.zero_add _).le, (Nat.zero_add _).le⟩
  | readTcp => cases hread
  | topFirst | pollFull | pollUp => exact ⟨Or.inr rfl, Nat.zero_le _, Nat.zero_le _⟩
  | pollDown hpc hslept hnow =>
    have hnow' := hup (hpc ▸ RefresherAt.noConfusion)
    rw [hnow] at hnow'
    cases hnow'
  | draw hpc hdraw =>
    obtain ⟨rfl, rfl⟩ := update_drawn hdraw
    exact ⟨Or.inl (hup (hpc ▸ RefresherAt.noConfusion)), Nat.zero_le _, by rw [hpc]; rfl⟩
  | store hpc =>
    refine ⟨Or.inl (hup (hpc ▸ RefresherAt.noConfusion)), Nat.zero_le _, ?_⟩
    rw [hpc]
    exact List.countP_le_length
  | topStopped hpc | topWait hpc | checkStopped hpc | check hpc | sleep hpc | readUdp _ hpc
  | named hpc | lookupFailed hpc | lookup _ hpc | scan _ hpc | noScan hpc =>
    refine ⟨Or.inl (hup (hpc ▸ RefresherAt.noConfusion)), ?_, ?_⟩ <;>
      exact hpc ▸ Nat.le_of_ble_eq_true rfl

/-- The same once the stop flag is up. -/
def RefresherAt.lastSleeps : RefresherAt → Nat
  | .sleeping _ => 1
  | _ => 0

def RefresherAt.lastRounds : RefresherAt → Nat
  | .top | .checking _ | .stopped => 0
  | _ => 1

theorem stopped_step {st st' : CacheRefresher} {a : RefresherAction} {o : Option WriterEvent}
    (hstop : st.stopFlag = true) (h : RefresherStep lower st a o st') :
    st'.stopFlag = true ∧
      [(a, o)].countP RefresherEvent.sleeps + st'.pc.lastSleeps ≤ st.pc.lastSleeps ∧
      [(a, o)].countP RefresherEvent.publishes + st'.pc.lastRounds ≤ st.pc.lastRounds := by
  cases h with
  | stop => exact ⟨rfl, (Nat.zero_add _).le, (Nat.zero_add _).le⟩
  | triggerRefresh | register => exact ⟨hstop, (Nat.zero_add _).le, (Nat.zero_add _).le⟩
  | topFirst _ hdown | topWait _ hdown | check _ hdown =>
    rw [hstop] at hdown
    cases hdown
  | draw hpc hdraw =>
    obtain ⟨rfl, rfl⟩ := update_drawn hdraw
    exact ⟨hstop, Nat.zero_le _, by rw [hpc]; rfl⟩
  | store hpc =>
    refine ⟨hstop, Nat.zero_le _, ?_⟩
    rw [hpc]
    exact List.countP_le_length
  | topStopped hpc | checkStopped hpc | pollFull hpc | pollUp hpc | pollDown hpc | sleep hpc
  | readTcp _ hpc | readUdp _ hpc | named hpc | lookupFailed hpc | lookup _ hpc | scan _ hpc
  | noScan hpc =>
    refine ⟨hstop, ?_, ?_⟩ <;> exact hpc ▸ Nat.le_of_ble_eq_true rfl

/-- **No trigger is lost, and no round is late.**  In every run: between two rounds of reads the
refresher sleeps forty times at most.  After a trigger it sleeps once and publishes the round that
is under way, at most, and then reads the tables; until it does, the trigger is known.  After a stop
it sleeps once and publishes once, at most. -/
theorem triggers_answered {es : RefresherLog} {st : CacheRefresher}
    (hrun : Run (RefresherStep lower) (.start lower apps) es st) :
    (∀ es₁ es₂, es = es₁ ++ es₂ → (∀ e ∈ es₂, RefresherEvent.reads e = false) →
      es₂.countP RefresherEvent.sleeps ≤ 40) ∧
    (∀ es₁ o es₂, es = es₁ ++ (.triggerRefresh, o) :: es₂ →
      (∀ e ∈ es₂, RefresherEvent.reads e = false) →
      st.Triggered ∧ es₂.countP RefresherEvent.sleeps ≤ 1 ∧
        es₂.countP RefresherEvent.publishes ≤ 1) ∧
    (∀ es₁ o es₂, es = es₁ ++ (.stop, o) :: es₂ →
      es₂.countP RefresherEvent.sleeps ≤ 1 ∧ es₂.countP RefresherEvent.publishes ≤ 1) := by
  refine ⟨?_, ?_, ?_⟩
  · rintro es₁ es₂ rfl hquiet
    obtain ⟨s, -, hlater⟩ := run_append.mp hrun
    have hpaid := Run.countP_le (P := fun _ => True)
      (fun _ _ _ _ _ hread h => ⟨trivial, sleeps_step hread h⟩) hlater trivial hquiet
    have := sleepsLeft_le s.pc
    omega
  · rintro es₁ o es₂ rfl hquiet
    obtain ⟨s, -, hlater⟩ := run_append.mp hrun
    obtain ⟨s₁, htrig, hlater⟩ := run_cons_iff.mp hlater
    have hknown : s₁.Triggered := by
      cases htrig
      exact Or.inl rfl
    have hsleeps := Run.countP_le (P := CacheRefresher.Triggered)
      (fun _ _ _ _ hs hread h => (triggered_step hs hread h).imp_right And.left) hlater hknown hquiet
    have hrounds := Run.countP_le (P := CacheRefresher.Triggered)
      (fun _ _ _ _ hs hread h => (triggered_step hs hread h).imp_right And.right) hlater hknown hquiet
    have hs : s₁.pc.urgentSleeps ≤ 1 := by
      cases s₁.pc <;> exact Nat.le_of_ble_eq_true rfl
    have hr : s₁.pc.urgentRounds ≤ 1 := by
      cases s₁.pc <;> exact Nat.le_of_ble_eq_true rfl
    exact ⟨hsleeps.1, by omega, by omega⟩
  · rintro es₁ o es₂ rfl
    obtain ⟨s, -, hlater⟩ := run_append.mp hrun
    obtain ⟨s₁, hstop, hlater⟩ := run_cons_iff.mp hlater
    have hup : s₁.stopFlag = true := by
      cases hstop
      rfl
    have hsleeps := Run.countP_le (P := fun s => s.stopFlag = true) (Q := fun _ => True)
      (fun _ _ _ _ hs _ h => (stopped_step hs h).imp_right And.left) hlater hup fun _ _ => trivial
    have hrounds := Run.countP_le (P := fun s => s.stopFlag = true) (Q := fun _ => True)
      (fun _ _ _ _ hs _ h => (stopped_step hs h).imp_right And.right) hlater hup fun _ _ => trivial
    have hs : s₁.pc.lastSleeps ≤ 1 := by
      cases s₁.pc <;> exact Nat.le_of_ble_eq_true rfl
    have hr : s₁.pc.lastRounds ≤ 1 := by
      cases s₁.pc <;> exact Nat.le_of_ble_eq_true rfl
    exact ⟨by omega, by omega⟩

/-- A trigger that comes just before the refresher falls asleep. -/
theorem sleeping_refresher_triggered :
    ∃ (es : RefresherLog) (st : CacheRefresher),
      Run (RefresherStep toAsciiLowercase) (.start toAsciiLowercase [])
        (es ++ (.triggerRefresh, none) :: [(.step .nothing, none), (.step .slept, none)]) st ∧
      st.pc = .polling 50 ∧ st.Triggered := by
  have hround : Run (RefresherStep toAsciiLowercase) (.start toAsciiLowercase []) _ _ :=
    Run.cons (.topFirst rfl rfl rfl) <| Run.cons (.readTcp .empty rfl) <|
    Run.cons (.readUdp .failed rfl) <|
    Run.cons (.scan [] rfl rfl) <| Run.cons (.draw rfl (.update _ _ rfl)) <|
    Run.cons (.store rfl (.storeUpdate rfl)) <| Run.cons (.topWait rfl rfl rfl) <|
    Run.cons (.pollDown rfl (by decide) rfl) (Run.nil _)
  have hrun := run_append.mpr ⟨_, hround, Run.cons (.triggerRefresh _) <|
    Run.cons (.check rfl rfl) <| Run.cons (.sleep rfl) (Run.nil _)⟩
  exact ⟨_, _, hrun, rfl, ((triggers_answered hrun).2.1 _ _ _ rfl (by decide)).1⟩

end SwiftTunnel
