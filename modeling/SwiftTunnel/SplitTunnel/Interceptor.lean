/-
# An interceptor and its threads

`interceptor.rs` (`ParallelInterceptor`: `configure`, `start`, `stop`, and the scripts that change the
adapter) with `SplitTunnelDriver` of `mod.rs`.  An interceptor picks one network adapter, turns
checksum offload and IPv6 off on it while it is active, and runs the threads of the other modules.
`&mut self` keeps the calls apart, and the threads end when they like.

What Windows answers, and how a script or a `join_with_timeout` ends, is an argument.  The scripts
that a call runs and the threads that it gives up are part of its output (`CallOutput`), so that a
log tells all that has been done to the adapters and to the threads.

A thread is a number and a kind here; it holds the cache and ends.  That the refresher ends only at
the stop flag is a condition of the step in which a thread ends, and `refresher_goes_on` is what it
rests on.  What the threads do is the matter of `Pipeline`, `Refresher` and `Inject`.

Left out: the process watcher, the pass filters of a diskless PC (`DisklessPassthrough`), and the
flags and counters that only the workers read.  What the calls come to over a run is in `Lifecycle`
for the adapter and in `LifecycleThreads` for the threads.
-/
import SwiftTunnel.SplitTunnel.AdapterSettings
import SwiftTunnel.SplitTunnel.Adapters
import SwiftTunnel.SplitTunnel.Pipeline
import SwiftTunnel.SplitTunnel.Refresher

namespace SwiftTunnel

open Rust

/-! ## 1. The interceptor -/

/-- The threads of an interceptor. -/
inductive ThreadKind where
  | refresher
  | worker
  | reader
  | inbound
  | assetInbound
  deriving DecidableEq, Repr

/-- A thread that has not ended. -/
structure LiveThread where
  id : Nat
  kind : ThreadKind
  deriving DecidableEq, Repr

/-- `Arc::get_mut` gives the process cache only when no such thread is left. -/
def LiveThread.holdsCache (t : LiveThread) : Bool :=
  t.kind == .refresher || t.kind == .worker

/-- `RelayForwardContext`; of the relays only the number of asset relays counts here. -/
structure ForwardContext where
  assetRelays : Nat
  deriving DecidableEq, Repr

/-- `ParallelInterceptor`: what its calls read and write.  The flags and the counters that only the
workers read are left out; a handle is the number of its thread. -/
structure ParallelInterceptor where
  numWorkers : Nat
  /-- The apps of `process_cache`. -/
  tunnelApps : List String
  stopFlag : Bool
  workerHandles : List Nat
  readerHandle : Option Nat
  refresherHandle : Option Nat
  physicalAdapterIdx : Option Nat
  physicalAdapterName : Option String
  physicalAdapterFriendlyName : Option String
  tsoWasDisabled : Bool
  ipv6WasDisabled : Bool
  defaultRouteIfIndex : Option UInt32
  active : Bool
  relayCtx : Option ForwardContext
  inboundReceiverHandle : Option Nat
  assetInboundReceiverHandles : List Nat
  deriving DecidableEq, Repr

namespace ParallelInterceptor

/-- `new`. -/
def new (physicalCores : Nat) (tunnelApps : List String) : ParallelInterceptor where
  numWorkers := SwiftTunnel.numWorkers physicalCores
  tunnelApps := tunnelApps
  stopFlag := false
  workerHandles := []
  readerHandle := none
  refresherHandle := none
  physicalAdapterIdx := none
  physicalAdapterName := none
  physicalAdapterFriendlyName := none
  tsoWasDisabled := false
  ipv6WasDisabled := false
  defaultRouteIfIndex := none
  active := false
  relayCtx := none
  inboundReceiverHandle := none
  assetInboundReceiverHandles := []

/-- `find_physical_adapter`. -/
def findPhysicalAdapter (lower : String → String) (self : ParallelInterceptor) (scan : AdapterScan) :
    Except SdkError Unit × ParallelInterceptor :=
  let self := { self with defaultRouteIfIndex := scan.defaultRoute }
  match scan.find lower with
  | .error e => (.error e, self)
  | .ok (idx, adapter) =>
    (.ok (), { self with
      physicalAdapterIdx := some idx
      physicalAdapterName := some adapter.internalName
      physicalAdapterFriendlyName := some adapter.friendly })

/-- `MAX_RETRIES` of `configure`. -/
def maxConfigureRetries : Nat := 5

/-- The attempts from `attempt` on, of which `left` are left. -/
def tryAdapters (lower : String → String) (scans : Nat → AdapterScan) :
    Nat → Nat → String → ParallelInterceptor → Except SdkError Unit × ParallelInterceptor
  | 0, _, lastError, self =>
    (.error (.splitTunnel ("Failed to find physical adapter after " ++ toString maxConfigureRetries ++
      " attempts: " ++ lastError)), self)
  | left + 1, attempt, _, self =>
    match self.findPhysicalAdapter lower (scans attempt) with
    | (.ok (), self) => (.ok (), self)
    | (.error e, self) => tryAdapters lower scans left (attempt + 1) e.toText self

/-- `configure`. -/
def configure (lower : String → String) (cacheInUse : Bool) (tunnelApps : List String)
    (scans : Nat → AdapterScan) (self : ParallelInterceptor) :
    Except SdkError Unit × ParallelInterceptor :=
  if cacheInUse then (.error (.splitTunnel "Cache in use"), self)
  else tryAdapters lower scans maxConfigureRetries 1 "" { self with tunnelApps := tunnelApps }

def wasDisabled (self : ParallelInterceptor) : SettingGroup → Bool
  | .offload => self.tsoWasDisabled
  | .ipv6 => self.ipv6WasDisabled

def setWasDisabled (group : SettingGroup) (value : Bool) (self : ParallelInterceptor) :
    ParallelInterceptor :=
  match group with
  | .offload => { self with tsoWasDisabled := value }
  | .ipv6 => { self with ipv6WasDisabled := value }

/-- A script that disables a group; without an adapter there is none to run. -/
def disable (group : SettingGroup) (reply : ScriptReply) (self : ParallelInterceptor) :
    ScriptLog × ParallelInterceptor :=
  match self.physicalAdapterFriendlyName with
  | none => ([], self)
  | some name =>
    ([(⟨group, name, false⟩, reply)],
      if reply.success then self.setWasDisabled group true else self)

/-- A script that enables a group which was disabled. -/
def enable (group : SettingGroup) (reply : ScriptReply) (self : ParallelInterceptor) :
    ScriptLog × ParallelInterceptor :=
  if self.wasDisabled group then
    match self.physicalAdapterFriendlyName with
    | none => ([], self)
    | some name => ([(⟨group, name, true⟩, reply)], self.setWasDisabled group false)
  else ([], self)

def disableAdapterOffload (reply : ScriptReply) (self : ParallelInterceptor) :
    ScriptLog × ParallelInterceptor :=
  self.disable .offload reply

def disableIpv6 (reply : ScriptReply) (self : ParallelInterceptor) :
    ScriptLog × ParallelInterceptor :=
  self.disable .ipv6 reply

def enableAdapterOffload (reply : ScriptReply) (self : ParallelInterceptor) :
    ScriptLog × ParallelInterceptor :=
  self.enable .offload reply

def enableIpv6 (reply : ScriptReply) (self : ParallelInterceptor) :
    ScriptLog × ParallelInterceptor :=
  self.enable .ipv6 reply

/-- `self.disable_adapter_offload()?; self.disable_ipv6()?`; neither fails. -/
def disableBoth (reply : SettingGroup → ScriptReply) (self : ParallelInterceptor) :
    ScriptLog × ParallelInterceptor :=
  let (log, self) := self.disableAdapterOffload (reply .offload)
  let (log', self) := self.disableIpv6 (reply .ipv6)
  (log ++ log', self)

def enableBoth (reply : SettingGroup → ScriptReply) (self : ParallelInterceptor) :
    ScriptLog × ParallelInterceptor :=
  let (log, self) := self.enableAdapterOffload (reply .offload)
  let (log', self) := self.enableIpv6 (reply .ipv6)
  (log ++ log', self)

/-- The handles of a kind. -/
def handles (self : ParallelInterceptor) : ThreadKind → List Nat
  | .refresher => self.refresherHandle.toList
  | .worker => self.workerHandles
  | .reader => self.readerHandle.toList
  | .inbound => self.inboundReceiverHandle.toList
  | .assetInbound => self.assetInboundReceiverHandles

/-- All handles, in the order in which `stop` joins them. -/
def allHandles (self : ParallelInterceptor) : List Nat :=
  [.reader, .worker, .refresher, .inbound, .assetInbound].flatMap self.handles

def addHandle (kind : ThreadKind) (id : Nat) (self : ParallelInterceptor) : ParallelInterceptor :=
  match kind with
  | .refresher => { self with refresherHandle := some id }
  | .worker => { self with workerHandles := self.workerHandles ++ [id] }
  | .reader => { self with readerHandle := some id }
  | .inbound => { self with inboundReceiverHandle := some id }
  | .assetInbound =>
    { self with assetInboundReceiverHandles := self.assetInboundReceiverHandles ++ [id] }

/-- The handles taken out. -/
def takeHandles (self : ParallelInterceptor) : ParallelInterceptor :=
  { self with
    workerHandles := []
    readerHandle := none
    refresherHandle := none
    inboundReceiverHandle := none
    assetInboundReceiverHandles := [] }

end ParallelInterceptor

/-- The receivers that `start` spawns; `config` says which calls of `create_inbound_config` succeed. -/
def receiverKinds (config : Nat → Bool) : Option ForwardContext → List ThreadKind
  | none => []
  | some ctx => (if config 0 then [.inbound] else []) ++
      ((List.range ctx.assetRelays).filter fun i => config (i + 1)).map fun _ => .assetInbound

/-! ## 2. Starting and stopping -/

/-- An interceptor and the threads that it spawned. -/
structure Interception where
  self : ParallelInterceptor
  live : List LiveThread
  nextId : Nat

namespace Interception

def new (physicalCores : Nat) (tunnelApps : List String) : Interception :=
  ⟨.new physicalCores tunnelApps, [], 0⟩

/-- `thread::spawn`. -/
def spawn (st : Interception) (kind : ThreadKind) : Interception :=
  ⟨st.self.addHandle kind st.nextId, ⟨st.nextId, kind⟩ :: st.live, st.nextId + 1⟩

def spawnAll (kinds : List ThreadKind) (st : Interception) : Interception :=
  kinds.foldl spawn st

/-- The flags of a start. -/
def starting (st : Interception) : Interception :=
  { st with self := { st.self with stopFlag := false, active := true } }

/-- What `start` does after the scripts. -/
def startThreads (config : Nat → Bool) (st : Interception) :
    Except SdkError Unit × Interception :=
  let st := st.starting
  let st := st.spawnAll (.refresher :: List.replicate st.self.numWorkers .worker)
  match st.self.physicalAdapterName with
  | none => (.error (.splitTunnel "Physical adapter name not set"), st)
  | some _ => (.ok (), st.spawnAll (.reader :: receiverKinds config st.self.relayCtx))

/-- `ParallelInterceptor::start`. -/
def startInterceptor (reply : SettingGroup → ScriptReply) (config : Nat → Bool)
    (st : Interception) : (Except SdkError Unit × ScriptLog) × Interception :=
  if st.self.active then ((.ok (), []), st)
  else match st.self.physicalAdapterIdx with
    | none => ((.error (.splitTunnel "Physical adapter not configured"), []), st)
    | some _ =>
      let (log, self) := st.self.disableBoth reply
      let (result, st) := { st with self := self }.startThreads config
      ((result, log), st)

/-- `join_with_timeout` on each handle: a thread that is `slow` is detached if it has not ended. -/
def joinThreads (slow : Nat → Bool) (st : Interception) : List Nat × Interception :=
  (st.self.allHandles.filter fun id => slow id && st.live.any fun t => t.id == id,
    { st with
      self := st.self.takeHandles
      live := st.live.filter fun t => slow t.id || !st.self.allHandles.contains t.id })

/-- `ParallelInterceptor::stop`, which `drop` calls too. -/
def stop (slow : Nat → Bool) (reply : SettingGroup → ScriptReply) (st : Interception) :
    (ScriptLog × List Nat) × Interception :=
  if st.self.active then
    let st := { st with self := { st.self with stopFlag := true } }
    let (detached, st) := st.joinThreads slow
    let (log, self) := { st.self with active := false }.enableBoth reply
    ((log, detached), { st with self := self })
  else (([], []), st)

end Interception

/-! ## 3. The driver -/

/-- The calls of `SplitTunnelDriver`, with what they get. -/
inductive DriverCall where
  | configure (tunnelApps : List String) (scans : Nat → AdapterScan)
  | setRelayContext (ctx : ForwardContext)
  | start (first second : SettingGroup → ScriptReply) (config : Nat → Bool)
  | close (slow : Nat → Bool) (first second : SettingGroup → ScriptReply)
  | drop (slow : Nat → Bool) (reply : SettingGroup → ScriptReply)

/-- What a call answers and does: the scripts that it ran, and the threads that it gave up. -/
structure CallOutput where
  result : Except SdkError Unit
  scripts : ScriptLog
  detached : List Nat

namespace Interception

/-- A call. -/
def call (lower : String → String) (st : Interception) : DriverCall → CallOutput × Interception
  | .configure tunnelApps scans =>
    let (result, self) := st.self.configure lower (st.live.any (·.holdsCache)) tunnelApps scans
    (⟨result, [], []⟩, { st with self := self })
  | .setRelayContext ctx => (⟨.ok (), [], []⟩, { st with self := { st.self with relayCtx := some ctx } })
  | .start first second config =>
    -- the driver runs the scripts whether the interceptor is active or not
    let (log, self) := st.self.disableBoth first
    let ((result, log'), st) := { st with self := self }.startInterceptor second config
    (⟨result, log ++ log', []⟩, st)
  | .close slow first second =>
    let ((log, detached), st) := st.stop slow first
    let (log', self) := st.self.enableBoth second
    (⟨.ok (), log ++ log', detached⟩, { st with self := self })
  | .drop slow reply =>
    let ((log, detached), st) := st.stop slow reply
    (⟨.ok (), log, detached⟩, st)

end Interception

inductive InterceptionEvent where
  | call (c : DriverCall)
  | threadEnds (id : Nat)

/-- One step.  The refresher goes on until it finds the stop flag up; another thread may end at any
time. -/
inductive InterceptionStep (lower : String → String) :
    Interception → InterceptionEvent → CallOutput → Interception → Prop
  | call (st : Interception) (c : DriverCall) :
      InterceptionStep lower st (.call c) (st.call lower c).1 (st.call lower c).2
  | threadEnds {st : Interception} {id : Nat}
      (hstop : st.self.refresherHandle = some id → st.self.stopFlag = true) :
      InterceptionStep lower st (.threadEnds id) ⟨.ok (), [], []⟩
        { st with live := st.live.filter fun t => t.id != id }

abbrev InterceptionLog := List (InterceptionEvent × CallOutput)

/-- The scripts of a run. -/
def scriptsOf (es : InterceptionLog) : ScriptLog := es.flatMap fun e => e.2.scripts

/-- The threads that were given up in a run. -/
def detachedOf (es : InterceptionLog) : List Nat := es.flatMap fun e => e.2.detached

/-- What the condition of `threadEnds` rests on: without a stop the refresher does not return. -/
theorem refresher_goes_on {lower : String → String} {apps : List String} {es : RefresherLog}
    {st : CacheRefresher} (hrun : Run (RefresherStep lower) (.start lower apps) es st)
    (hnostop : ∀ e ∈ es, e.1 ≠ .stop) : st.pc ≠ .stopped := by
  have h := hrun.preserves_on (P := fun st => st.stopFlag = false ∧ st.pc ≠ .stopped)
    (Q := fun e => e.1 ≠ .stop) (fun s i o s' hi hstep hs => ?_) hnostop
    ⟨rfl, RefresherAt.noConfusion⟩
  · exact h.2
  · obtain ⟨hflag, hpc⟩ := hs
    cases hstep with
    | stop => exact absurd rfl hi
    | triggerRefresh | register => exact ⟨hflag, hpc⟩
    | topStopped _ hstop | checkStopped _ hstop => exact absurd (hflag.symm.trans hstop) Bool.false_ne_true
    | _ => exact ⟨hflag, RefresherAt.noConfusion⟩

end SwiftTunnel
