/-
# The pipeline: one reader, its queues, and the workers behind them

`interceptor.rs`, `run_packet_reader` and `run_packet_worker` with `send_bypass_packet`.  The
reader takes up to 64 frames from the driver, gives each outbound frame with readable ports to the
queue of a worker, and hands the others back to the driver at the end of the batch: outbound ones
to the adapter, inbound ones to the system.  A queue holds 1024 frames; for a full one, or one
whose worker is gone, the frame goes to the adapter.  A worker sends what it does not forward to
the adapter itself, by way of one of the driver's buffers of 1514 bytes.

The reader and the workers take their turns in any order here, one frame at a time.  What the other
threads have made of the state they share comes with each turn.  A frame is numbered as it is read.

The driver gives frames that fit into its buffers (`Batch`), and no step makes a frame longer, so
the copy back into a buffer never faults (`sendBypassPacket_fits`).  `Room` is the invariant behind
that: the buffers are bounded, and every frame in them fits.  The ways in which a step can go are
listed once (`PipelineMove`, `pipeline_move`); what a destination is given, and what leaves the
buffer before it, is then a matter of buffers (`Buffers` of `Run`), one for each queue.

* `room_run`: no step of a run faults, and the buffers stay within their bounds.
* `frames_accounted`: no frame is lost on the way, comes twice or overtakes another one of its
  queue, and what is sent on is what was read.
* `worker_stats_exact`: what the counters hold.

Workers have a relay here; one without forwards nothing, and it is a worker's turn (`DataPath`) in
which that shows.  Not modelled: the affinity of threads, the calls of the driver that fetch and
send a batch, whose errors are only logged, and how long a turn takes.
-/
import SwiftTunnel.Lib.Flow
import SwiftTunnel.SplitTunnel.DataPath
import SwiftTunnel.SplitTunnel.Inject
import SwiftTunnel.SplitTunnel.OwnDatagrams

namespace SwiftTunnel

open Rust

/-! ## 1. The reader and the workers -/

structure Frame where
  isOutbound : Bool
  data : Bytes
  deriving DecidableEq, Repr

/-- `BATCH_SIZE`. -/
def batchSize : Nat := 64

/-- What `crossbeam_channel::bounded` is given. -/
def queueCapacity : Nat := 1024

/-- What one `read_packets` gives: the driver fills buffers of its own size. -/
abbrev Batch := { frames : List Frame //
  frames.length ≤ batchSize ∧ ∀ f ∈ frames, f.data.length ≤ intermediateBufferLen }

/-- The number of workers on a machine. -/
def numWorkers (physicalCores : Nat) : Nat := max (min physicalCores 4) 1

inductive Destination where
  | worker (id : Nat)
  | adapter
  | mstcp
  deriving DecidableEq, Repr

structure WorkerStats where
  packetsProcessed : UInt64
  packetsTunneled : UInt64
  packetsBypassed : UInt64
  bytesTunneled : UInt64
  bytesBypassed : UInt64
  deriving DecidableEq, Repr

def WorkerStats.zero : WorkerStats := ⟨0, 0, 0, 0, 0⟩

/-- The counters after one frame. -/
def WorkerStats.count (s : WorkerStats) (disposition : Disposition) (packetLen : UInt64) :
    WorkerStats :=
  let s := { s with packetsProcessed := s.packetsProcessed + 1 }
  match disposition with
  | .forwarded =>
    { s with
      packetsTunneled := s.packetsTunneled + 1
      bytesTunneled := s.bytesTunneled + packetLen }
  | .bypassed =>
    { s with
      packetsBypassed := s.packetsBypassed + 1
      bytesBypassed := s.bytesBypassed + packetLen }
  | .dropped | .ignored => s

/-- What a worker reads of other threads during a turn, and what the sockets and the driver give. -/
structure WorkView where
  shared : SharedState
  ctx : RelayForwardContext
  published : ProcessSnapshot
  api : Bool
  udp : Bool
  router : Option RouterView
  io : SocketView
  /-- The adapter of the frame is among those the worker knows. -/
  adapterFound : Bool

def WorkView.workItem (v : WorkView) (data : Bytes) : WorkItem :=
  ⟨data, true, v.published, v.api, v.udp, v.ctx.relay.relayAddr, v.router⟩

structure Pipeline where
  arrived : Nat
  /-- What is left of the batch. -/
  batch : List (Nat × Frame)
  passthroughToAdapter : List (Nat × Bytes)
  passthroughToMstcp : List (Nat × Bytes)
  queues : Nat → List (Nat × Bytes)
  /-- The worker has not left its loop. -/
  receiving : Nat → Bool
  workers : Nat → WorkerState
  stats : Nat → WorkerStats
  /-- `bytes_tx` of the throughput. -/
  bytesTx : UInt64

/-- The threads have been started. -/
def Pipeline.start (workers : Nat → WorkerState) : Pipeline :=
  ⟨0, [], [], [], fun _ => [], fun _ => true, workers, fun _ => .zero, 0⟩

inductive PipelineInput where
  | read (batch : Batch)
  /-- The reader goes on to the next frame of the batch. -/
  | dispatch
  /-- The end of a batch. -/
  | flush
  /-- A worker receives. -/
  | work (id : Nat) (view : WorkView)
  /-- A worker leaves its loop, and drops its queue. -/
  | exit (id : Nat)

inductive PipelineOutput where
  /-- It is not the time for this: the call waits, or has nothing to do. -/
  | idle
  | read (frames : List (Nat × Frame))
  | dispatched (n : Nat) (frame : Frame) (destination : Destination)
  | flushed (toAdapter toMstcp : List (Nat × Bytes))
  | worked (id n : Nat) (data : Bytes) (outcome : WorkOutcome) (sent : Option Bytes)
      (datagrams : List (Bytes × SocketAddr))
  | exited (id : Nat) (dropped : List (Nat × Bytes))

/-- `push` on a request with room for a batch; that it fails is ignored. -/
def pushRequest (request : List (Nat × Bytes)) (frame : Nat × Bytes) : List (Nat × Bytes) :=
  if request.length < batchSize then request ++ [frame] else request

/-- `send_bypass_packet`: what the adapter is given. -/
def sendBypassPacket (adapterFound : Bool) (data : Bytes) : Checked (Option Bytes) :=
  if !adapterFound then .ok none
  else if maxEtherFrame < data.length then .ok none
  else do
    let buffer ← copyToFront (List.replicate intermediateBufferLen 0) data
    -- `buffer.length` is the length of the data
    return some (buffer.take data.length)

namespace Pipeline

/-- A passthrough. -/
def pass (st : Pipeline) (n : Nat) (f : Frame) : PipelineOutput × Pipeline :=
  if f.isOutbound then
    (.dispatched n f .adapter,
      { st with passthroughToAdapter := pushRequest st.passthroughToAdapter (n, f.data) })
  else
    (.dispatched n f .mstcp,
      { st with passthroughToMstcp := pushRequest st.passthroughToMstcp (n, f.data) })

/-- `try_send` to the queue of a worker. -/
def trySend (st : Pipeline) (id n : Nat) (f : Frame) : PipelineOutput × Pipeline :=
  if st.receiving id ∧ (st.queues id).length < queueCapacity then
    (.dispatched n f (.worker id),
      { st with
        queues := Function.update st.queues id
          (st.queues id ++ [(n, f.data.take maxPacketSize)]) })
  else st.pass n f

/-- One frame of a batch. -/
def dispatchFrame (cores : Nat) (st : Pipeline) (n : Nat) (f : Frame) :
    Checked (PipelineOutput × Pipeline) :=
  if f.isOutbound then do
    match ← parsePorts f.data with
    | some (srcPort, _) =>
      let workerId := if numWorkers cores > 0 then srcPort.toNat % numWorkers cores else 0
      -- there is a sender for each worker
      if workerId < numWorkers cores then return st.trySend workerId n f
      else .error .outOfBounds
    | none => return st.pass n f
  else .ok (st.pass n f)

/-- A turn of a worker on the first frame of its queue. -/
def workFrame (st : Pipeline) (id n : Nat) (data : Bytes) (rest : List (Nat × Bytes))
    (v : WorkView) : Checked (PipelineOutput × Pipeline) := do
  let r ← workerTurn v.ctx v.io { st.workers id with shared := v.shared } (v.workItem data)
  let packetLen := UInt64.ofNat data.length
  let sent ← if r.outcome.disposition = .bypassed then sendBypassPacket v.adapterFound data
    else .ok none
  return (.worked id n data r.outcome sent r.datagrams,
    { st with
      queues := Function.update st.queues id rest
      workers := Function.update st.workers id r.state
      stats := Function.update st.stats id ((st.stats id).count r.outcome.disposition packetLen)
      bytesTx := if r.outcome.disposition = .forwarded then st.bytesTx + packetLen
        else st.bytesTx })

def next (cores : Nat) (st : Pipeline) : PipelineInput → Checked (PipelineOutput × Pipeline)
  | .read batch =>
    if st.batch = [] ∧ st.passthroughToAdapter = [] ∧ st.passthroughToMstcp = [] then
      let frames := (batch.val.zipIdx st.arrived).map Prod.swap
      .ok (.read frames, { st with arrived := st.arrived + batch.val.length, batch := frames })
    else .ok (.idle, st)
  | .dispatch => match st.batch with
    | [] => .ok (.idle, st)
    | (n, f) :: rest => dispatchFrame cores { st with batch := rest } n f
  | .flush =>
    if st.batch = [] then
      .ok (.flushed st.passthroughToAdapter st.passthroughToMstcp,
        { st with passthroughToAdapter := [], passthroughToMstcp := [] })
    else .ok (.idle, st)
  | .work id v =>
    if st.receiving id then
      match st.queues id with
      | [] => .ok (.idle, st)
      | (n, data) :: rest => st.workFrame id n data rest v
    else .ok (.idle, st)
  | .exit id =>
    .ok (.exited id (st.queues id),
      { st with
        queues := Function.update st.queues id []
        receiving := Function.update st.receiving id false })

end Pipeline

def PipelineStep (cores : Nat) (st : Pipeline) (i : PipelineInput) (o : PipelineOutput)
    (st' : Pipeline) : Prop := st.next cores i = .ok (o, st')

/-- What the reader and the workers of a run did, in order. -/
abbrev PipelineLog := List (PipelineInput × PipelineOutput)

/-! ## 2. What a step can do -/

/-- The buffers have the size they were made with, and the frames that of the driver's. -/
structure Pipeline.Room (st : Pipeline) : Prop where
  requests : st.passthroughToAdapter.length + st.passthroughToMstcp.length + st.batch.length ≤
    batchSize
  batch : ∀ n f, (n, f) ∈ st.batch → f.data.length ≤ intermediateBufferLen
  queues : ∀ id, (st.queues id).length ≤ queueCapacity
  copies : ∀ id n data, (n, data) ∈ st.queues id → data.length ≤ intermediateBufferLen

theorem numWorkers_pos (cores : Nat) : 0 < numWorkers cores :=
  Nat.lt_of_lt_of_le Nat.one_pos (Nat.le_max_right _ _)

/-- The frames of a batch, numbered from here. -/
def numberedFrom (arrived : Nat) (batch : Batch) : List (Nat × Frame) :=
  (batch.val.zipIdx arrived).map Prod.swap

/-- The ways in which a step can go. -/
inductive PipelineMove (cores : Nat) (st : Pipeline) :
    PipelineInput → PipelineOutput → Pipeline → Prop
  | idle {i : PipelineInput} : PipelineMove cores st i .idle st
  | read {batch : Batch} : st.batch = [] → st.passthroughToAdapter = [] →
      st.passthroughToMstcp = [] →
      PipelineMove cores st (.read batch) (.read (numberedFrom st.arrived batch))
        { st with
          arrived := st.arrived + batch.val.length
          batch := numberedFrom st.arrived batch }
  | adapter {n : Nat} {f : Frame} {rest : List (Nat × Frame)} : st.batch = (n, f) :: rest →
      f.isOutbound = true →
      (∀ srcPort dstPort, parsePorts f.data = .ok (some (srcPort, dstPort)) →
        st.receiving (srcPort.toNat % numWorkers cores) = true →
          (st.queues (srcPort.toNat % numWorkers cores)).length = queueCapacity) →
      PipelineMove cores st .dispatch (.dispatched n f .adapter)
        { st with
          batch := rest
          passthroughToAdapter := st.passthroughToAdapter ++ [(n, f.data)] }
  | mstcp {n : Nat} {f : Frame} {rest : List (Nat × Frame)} : st.batch = (n, f) :: rest →
      f.isOutbound = false →
      PipelineMove cores st .dispatch (.dispatched n f .mstcp)
        { st with
          batch := rest
          passthroughToMstcp := st.passthroughToMstcp ++ [(n, f.data)] }
  | queue {n : Nat} {f : Frame} {rest : List (Nat × Frame)} {id : Nat} {srcPort dstPort : UInt16} :
      st.batch = (n, f) :: rest → f.isOutbound = true →
      parsePorts f.data = .ok (some (srcPort, dstPort)) → id = srcPort.toNat % numWorkers cores →
      st.receiving id = true → (st.queues id).length < queueCapacity →
      PipelineMove cores st .dispatch (.dispatched n f (.worker id))
        { st with
          batch := rest
          queues := Function.update st.queues id
            (st.queues id ++ [(n, f.data.take maxPacketSize)]) }
  | flush : st.batch = [] →
      PipelineMove cores st .flush (.flushed st.passthroughToAdapter st.passthroughToMstcp)
        { st with passthroughToAdapter := [], passthroughToMstcp := [] }
  | work {id n : Nat} {v : WorkView} {data : Bytes} {rest : List (Nat × Bytes)} {r : TurnResult} :
      st.receiving id = true → st.queues id = (n, data) :: rest →
      workerTurn v.ctx v.io { st.workers id with shared := v.shared } (v.workItem data) = .ok r →
      PipelineMove cores st (.work id v)
        (.worked id n data r.outcome
          (if r.outcome.disposition = .bypassed ∧ v.adapterFound then some data else none)
          r.datagrams)
        { st with
          queues := Function.update st.queues id rest
          workers := Function.update st.workers id r.state
          stats := Function.update st.stats id
            ((st.stats id).count r.outcome.disposition (UInt64.ofNat data.length))
          bytesTx := if r.outcome.disposition = .forwarded then
            st.bytesTx + UInt64.ofNat data.length else st.bytesTx }
  | exit {id : Nat} :
      PipelineMove cores st (.exit id) (.exited id (st.queues id))
        { st with
          queues := Function.update st.queues id []
          receiving := Function.update st.receiving id false }

theorem pushRequest_of_lt {request : List (Nat × Bytes)} (h : request.length < batchSize)
    (frame : Nat × Bytes) : pushRequest request frame = request ++ [frame] := if_pos h

/-- The frame at the head of the batch, when it is passed through. -/
theorem pass_move (cores : Nat) {st : Pipeline} (hroom : st.Room) {n : Nat} {f : Frame}
    {rest : List (Nat × Frame)} (hbatch : st.batch = (n, f) :: rest)
    (hfull : f.isOutbound = true → ∀ srcPort dstPort,
      parsePorts f.data = .ok (some (srcPort, dstPort)) →
        st.receiving (srcPort.toNat % numWorkers cores) = true →
          (st.queues (srcPort.toNat % numWorkers cores)).length = queueCapacity) :
    PipelineMove cores st .dispatch (Pipeline.pass { st with batch := rest } n f).1
      (Pipeline.pass { st with batch := rest } n f).2 := by
  have hlen := hroom.requests
  rw [hbatch, List.length_cons] at hlen
  rw [Pipeline.pass]
  cases hout : f.isOutbound with
  | true =>
    rw [if_pos rfl, pushRequest_of_lt (show st.passthroughToAdapter.length < batchSize by omega)]
    exact .adapter hbatch hout (hfull hout)
  | false =>
    rw [if_neg Bool.false_ne_true,
      pushRequest_of_lt (show st.passthroughToMstcp.length < batchSize by omega)]
    exact .mstcp hbatch hout

/-- A frame of the driver goes back into one of its buffers. -/
theorem sendBypassPacket_fits {data : Bytes} (h : data.length ≤ intermediateBufferLen)
    (adapterFound : Bool) :
    sendBypassPacket adapterFound data = .ok (if adapterFound then some data else none) := by
  have hbuffer : intermediateBufferLen = 1514 := rfl
  have hframe : maxEtherFrame = 1522 := rfl
  have hcopy : copyToFront (List.replicate intermediateBufferLen 0) data =
      .ok (data ++ (List.replicate intermediateBufferLen 0).drop data.length) := by
    rw [copyToFront, if_pos (by simpa using h)]
  rw [sendBypassPacket]
  cases adapterFound with
  | false => rfl
  | true =>
    rw [if_neg (by simp), if_neg (by omega), hcopy]
    simp only [ok_bind, List.take_left]
    rfl

/-- **No step faults**, and each goes in one of these ways. -/
theorem pipeline_move (cores : Nat) {st : Pipeline} (hroom : st.Room) (i : PipelineInput) :
    ∃ o st', PipelineStep cores st i o st' ∧ PipelineMove cores st i o st' := by
  cases i with
  | read batch =>
    by_cases h : st.batch = [] ∧ st.passthroughToAdapter = [] ∧ st.passthroughToMstcp = []
    · exact ⟨_, _, if_pos h, .read h.1 h.2.1 h.2.2⟩
    · exact ⟨_, _, if_neg h, .idle⟩
  | flush =>
    by_cases h : st.batch = []
    · exact ⟨_, _, if_pos h, .flush h⟩
    · exact ⟨_, _, if_neg h, .idle⟩
  | exit id => exact ⟨_, _, rfl, .exit⟩
  | work id v =>
    by_cases hrecv : st.receiving id = true
    · cases hqueue : st.queues id with
      | nil =>
        refine ⟨_, _, (if_pos hrecv).trans ?_, .idle⟩
        rw [hqueue]
      | cons x rest =>
        obtain ⟨n, data⟩ := x
        have hfits : data.length ≤ intermediateBufferLen :=
          hroom.copies id n data (hqueue ▸ List.mem_cons_self)
        have hcopy : (v.workItem data).data.length ≤ maxPacketSize := Nat.le_trans hfits (by decide)
        obtain ⟨r, hturn⟩ := workerTurn_ok v.ctx v.io { st.workers id with shared := v.shared } hcopy
        refine ⟨_, _, (if_pos hrecv).trans ?_, .work hrecv hqueue hturn⟩
        rw [hqueue]
        simp only [Pipeline.workFrame, hturn, ok_bind, sendBypassPacket_fits hfits]
        by_cases hbypassed : r.outcome.disposition = .bypassed
        · simp only [hbypassed, true_and, if_true]
          rfl
        · simp only [hbypassed, false_and, if_false]
          rfl
    · exact ⟨_, _, if_neg hrecv, .idle⟩
  | dispatch =>
    cases hbatch : st.batch with
    | nil =>
      refine ⟨.idle, st, ?_, .idle⟩
      rw [PipelineStep, Pipeline.next, hbatch]
    | cons x rest =>
      obtain ⟨n, f⟩ := x
      have hnext : st.next cores .dispatch =
          Pipeline.dispatchFrame cores { st with batch := rest } n f := by
        rw [Pipeline.next, hbatch]
      have hpass := pass_move cores hroom hbatch
      rw [Pipeline.dispatchFrame] at hnext
      cases hout : f.isOutbound with
      | false =>
        rw [if_neg (by simp [hout])] at hnext
        exact ⟨_, _, hnext, hpass fun h => absurd h (by simp [hout])⟩
      | true =>
        rw [if_pos hout] at hnext
        obtain ⟨ports, hports, -⟩ := parsePorts_spec f.data
        rw [hports, ok_bind] at hnext
        cases ports with
        | none =>
          refine ⟨_, _, hnext, hpass fun _ srcPort dstPort h => ?_⟩
          exact nomatch hports.symm.trans h
        | some ports =>
          obtain ⟨srcPort, dstPort⟩ := ports
          have hpos := numWorkers_pos cores
          have hmod : srcPort.toNat % numWorkers cores < numWorkers cores := Nat.mod_lt _ hpos
          simp only [gt_iff_lt, hpos, if_true, hmod, Pipeline.trySend] at hnext
          by_cases hfree : st.receiving (srcPort.toNat % numWorkers cores) = true ∧
              (st.queues (srcPort.toNat % numWorkers cores)).length < queueCapacity
          · rw [if_pos hfree] at hnext
            exact ⟨_, _, hnext, .queue hbatch hout hports rfl hfree.1 hfree.2⟩
          · rw [if_neg hfree] at hnext
            refine ⟨_, _, hnext, hpass fun _ srcPort' dstPort' h hrecv => ?_⟩
            obtain ⟨rfl, -⟩ := Prod.mk.inj (Option.some.inj (Except.ok.inj (hports.symm.trans h)))
            exact Nat.le_antisymm (hroom.queues _) (Nat.not_lt.mp fun hlt => hfree ⟨hrecv, hlt⟩)

theorem move_of_step {cores : Nat} {st st' : Pipeline} {i : PipelineInput} {o : PipelineOutput}
    (hroom : st.Room) (hstep : PipelineStep cores st i o st') : PipelineMove cores st i o st' := by
  obtain ⟨o₁, st₁, hstep₁, hmove⟩ := pipeline_move cores hroom i
  obtain ⟨rfl, rfl⟩ := Prod.mk.inj (Except.ok.inj (hstep₁.symm.trans hstep))
  exact hmove

theorem room_start (workers : Nat → WorkerState) : (Pipeline.start workers).Room where
  requests := Nat.zero_le _
  batch _ _ h := nomatch h
  queues _ := Nat.zero_le _
  copies _ _ _ h := nomatch h

/-- An update of one queue that fits. -/
theorem forall_update_queue {P : List (Nat × Bytes) → Prop} {queues : Nat → List (Nat × Bytes)}
    {id : Nat} {q : List (Nat × Bytes)} (h : ∀ k, P (queues k)) (hq : P q) (k : Nat) :
    P (Function.update queues id q k) := by
  by_cases hk : k = id
  · subst hk
    rwa [Function.update_self]
  · rw [Function.update_of_ne hk]
    exact h k

/-- A queue within its bounds. -/
def QueueFits (q : List (Nat × Bytes)) : Prop :=
  q.length ≤ queueCapacity ∧ ∀ n data, (n, data) ∈ q → data.length ≤ intermediateBufferLen

theorem room_iff {st : Pipeline} : st.Room ↔
    st.passthroughToAdapter.length + st.passthroughToMstcp.length + st.batch.length ≤ batchSize ∧
      (∀ n f, (n, f) ∈ st.batch → f.data.length ≤ intermediateBufferLen) ∧
      ∀ id, QueueFits (st.queues id) :=
  ⟨fun h => ⟨h.requests, h.batch, fun id => ⟨h.queues id, h.copies id⟩⟩,
    fun h => ⟨h.1, h.2.1, fun id => (h.2.2 id).1, fun id => (h.2.2 id).2⟩⟩

theorem room_move {cores : Nat} {st st' : Pipeline} {i : PipelineInput} {o : PipelineOutput}
    (hroom : st.Room) (hmove : PipelineMove cores st i o st') : st'.Room := by
  rw [room_iff] at hroom ⊢
  obtain ⟨hlen, hbatchFits, hqueues⟩ := hroom
  have hrestFits : ∀ {n f rest}, st.batch = (n, f) :: rest → ∀ m (g : Frame), (m, g) ∈ rest →
      g.data.length ≤ intermediateBufferLen :=
    fun hbatch m g hg => hbatchFits m g (hbatch ▸ List.mem_cons_of_mem _ hg)
  cases hmove with
  | idle => exact ⟨hlen, hbatchFits, hqueues⟩
  | @read batch hbatch hadapter hmstcp =>
    refine ⟨?_, fun n f hmem => ?_, hqueues⟩
    · have hcount := batch.property.1
      simp only [hadapter, hmstcp, numberedFrom, List.length_nil, List.length_map,
        List.length_zipIdx]
      omega
    · obtain ⟨p, hp, heq⟩ := List.mem_map.mp hmem
      obtain ⟨rfl, rfl⟩ := Prod.mk.inj heq
      exact batch.property.2 p.1 (List.fst_mem_of_mem_zipIdx hp)
  | adapter hbatch _ _ =>
    refine ⟨?_, hrestFits hbatch, hqueues⟩
    rw [hbatch, List.length_cons] at hlen
    simp only [List.length_append, List.length_singleton]
    omega
  | mstcp hbatch _ =>
    refine ⟨?_, hrestFits hbatch, hqueues⟩
    rw [hbatch, List.length_cons] at hlen
    simp only [List.length_append, List.length_singleton]
    omega
  | @queue n f rest id srcPort dstPort hbatch _ _ _ _ hfree =>
    have hf : f.data.length ≤ intermediateBufferLen :=
      hbatchFits n f (hbatch ▸ List.mem_cons_self)
    have hrest := hrestFits hbatch
    rw [hbatch, List.length_cons] at hlen
    refine ⟨Nat.le_of_succ_le hlen, hrest,
      forall_update_queue hqueues ⟨?_, fun m data hmem => ?_⟩⟩
    · rw [List.length_append]
      exact hfree
    · rcases List.mem_append.mp hmem with hmem | hmem
      · exact (hqueues id).2 m data hmem
      · obtain ⟨-, rfl⟩ := Prod.mk.inj (List.mem_singleton.mp hmem)
        exact (List.length_take_le' _ _).trans hf
  | flush hbatch =>
    refine ⟨?_, hbatchFits, hqueues⟩
    rw [hbatch]
    exact Nat.zero_le _
  | @work id n v data rest r _ hqueue _ =>
    refine ⟨hlen, hbatchFits, forall_update_queue hqueues ⟨?_, fun m d hmem => ?_⟩⟩
    · have hfits := (hqueues id).1
      rw [hqueue, List.length_cons] at hfits
      exact Nat.le_of_succ_le hfits
    · exact (hqueues id).2 m d (hqueue ▸ List.mem_cons_of_mem _ hmem)
  | exit =>
    exact ⟨hlen, hbatchFits, forall_update_queue hqueues ⟨Nat.zero_le _, fun _ _ h => nomatch h⟩⟩

/-! ## 3. What goes through -/

namespace PipelineOutput

/-- The frames that were read. -/
def reads : PipelineOutput → List (Nat × Frame)
  | .read frames => frames
  | _ => []

/-- The frame that the reader dealt with. -/
def dispatches : PipelineOutput → List (Nat × Frame)
  | .dispatched n f _ => [(n, f)]
  | _ => []

/-- What the reader gave to a destination: the frame, or a worker's copy of it. -/
def given (d : Destination) : PipelineOutput → List (Nat × Bytes)
  | .dispatched n f d' =>
    if d' = d then
      match d with
      | .worker _ => [(n, f.data.take maxPacketSize)]
      | .adapter | .mstcp => [(n, f.data)]
    else []
  | _ => []

/-- What left the buffer before a destination: for the driver, or with a worker's turn, or dropped
with a queue. -/
def leaves (d : Destination) : PipelineOutput → List (Nat × Bytes)
  | .flushed toAdapter toMstcp => match d with
    | .adapter => toAdapter
    | .mstcp => toMstcp
    | .worker _ => []
  | .worked id n data _ _ _ => if d = .worker id then [(n, data)] else []
  | .exited id dropped => if d = .worker id then dropped else []
  | _ => []

end PipelineOutput

/-- The buffer before a destination. -/
def Pipeline.inside (st : Pipeline) : Destination → List (Nat × Bytes)
  | .worker id => st.queues id
  | .adapter => st.passthroughToAdapter
  | .mstcp => st.passthroughToMstcp

/-- A step from a state with room. -/
abbrev RoomStep (cores : Nat) (st : Pipeline) (i : PipelineInput) (o : PipelineOutput)
    (st' : Pipeline) : Prop := st.Room ∧ PipelineStep cores st i o st'

section Runs

variable {cores : Nat} {workers : Nat → WorkerState} {es : PipelineLog} {st : Pipeline}

theorem buffers_batch : Buffers (RoomStep cores) Pipeline.batch (fun e => e.2.reads)
    (fun e => e.2.dispatches) := by
  rintro st i o st' ⟨hroom, hstep⟩
  cases move_of_step hroom hstep with
  | idle => exact List.append_nil _
  | read hbatch _ _ => rw [hbatch]; rfl
  | adapter hbatch _ _ => rw [hbatch]; exact List.append_nil _
  | mstcp hbatch _ => rw [hbatch]; exact List.append_nil _
  | queue hbatch _ _ _ _ _ => rw [hbatch]; exact List.append_nil _
  | flush hbatch => rw [hbatch]; rfl
  | work _ _ _ => exact List.append_nil _
  | exit => exact List.append_nil _

theorem buffers_inside (d : Destination) : Buffers (RoomStep cores) (fun st => st.inside d)
    (fun e => e.2.given d) (fun e => e.2.leaves d) := by
  rintro st i o st' ⟨hroom, hstep⟩
  cases move_of_step hroom hstep with
  | idle => exact List.append_nil _
  | read _ _ _ => cases d <;> exact List.append_nil _
  | adapter _ _ _ =>
    cases d with
    | adapter => rfl
    | worker id => exact List.append_nil _
    | mstcp => exact List.append_nil _
  | mstcp _ _ =>
    cases d with
    | mstcp => rfl
    | worker id => exact List.append_nil _
    | adapter => exact List.append_nil _
  | @queue n f rest id srcPort dstPort _ _ _ _ _ _ =>
    cases d with
    | adapter => exact List.append_nil _
    | mstcp => exact List.append_nil _
    | worker k =>
      by_cases hk : k = id
      · subst hk
        simp [Pipeline.inside, PipelineOutput.given, PipelineOutput.leaves]
      · simp [Pipeline.inside, PipelineOutput.given, PipelineOutput.leaves, hk, Ne.symm hk]
  | flush hbatch =>
    cases d with
    | adapter => rfl
    | mstcp => rfl
    | worker id => exact List.append_nil _
  | @work id n v data rest r _ hqueue _ =>
    cases d with
    | adapter => exact List.append_nil _
    | mstcp => exact List.append_nil _
    | worker k =>
      by_cases hk : k = id
      · subst hk
        simp [Pipeline.inside, PipelineOutput.given, PipelineOutput.leaves, hqueue]
      · simp [Pipeline.inside, PipelineOutput.given, PipelineOutput.leaves, hk]
  | @exit id =>
    cases d with
    | adapter => exact List.append_nil _
    | mstcp => exact List.append_nil _
    | worker k =>
      by_cases hk : k = id
      · subst hk
        simp [Pipeline.inside, PipelineOutput.given, PipelineOutput.leaves]
      · simp [Pipeline.inside, PipelineOutput.given, PipelineOutput.leaves, hk]

/-! ### What a log says of the frames -/

def framesRead (es : PipelineLog) : List (Nat × Frame) := es.flatMap fun e => e.2.reads

def framesDispatched (es : PipelineLog) : List (Nat × Frame) := es.flatMap fun e => e.2.dispatches

def givenTo (d : Destination) (es : PipelineLog) : List (Nat × Bytes) :=
  es.flatMap fun e => e.2.given d

def leftFor (d : Destination) (es : PipelineLog) : List (Nat × Bytes) :=
  es.flatMap fun e => e.2.leaves d

theorem room_run (hrun : Run (PipelineStep cores) (.start workers) es st) :
    Run (RoomStep cores) (.start workers) es st ∧ st.Room :=
  hrun.strengthen (fun _ _ _ _ hroom hstep => room_move hroom (move_of_step hroom hstep))
    (room_start workers)

/-- The frames are numbered in the order in which they are read. -/
theorem framesRead_numbers (hrun : Run (RoomStep cores) (.start workers) es st) :
    (framesRead es).map Prod.fst = List.range st.arrived := by
  refine hrun.history (P := fun es st => (framesRead es).map Prod.fst = List.range st.arrived)
    rfl ?_
  rintro es st i o st' - ih ⟨hroom, hstep⟩
  have hconcat : framesRead (es ++ [(i, o)]) = framesRead es ++ o.reads := by
    rw [framesRead, List.flatMap_append, List.flatMap_singleton]
    rfl
  rw [hconcat, List.map_append, ih]
  cases move_of_step hroom hstep with
  | @read batch _ _ _ =>
    have hfst : (numberedFrom st.arrived batch).map Prod.fst =
        List.range' st.arrived batch.val.length := by
      rw [numberedFrom, List.map_map, ← List.zipIdx_map_snd]
      rfl
    rw [PipelineOutput.reads, hfst, List.range_add, List.range'_eq_map_range]
  | _ => exact List.append_nil _

/-- What is given to a destination is part of what is dispatched, in the same order. -/
theorem givenTo_sublist (d : Destination) (es : PipelineLog) :
    ((givenTo d es).map Prod.fst).Sublist ((framesDispatched es).map Prod.fst) := by
  induction es with
  | nil => exact List.Sublist.refl _
  | cons e es ih =>
    rw [givenTo, framesDispatched, List.flatMap_cons, List.flatMap_cons, List.map_append,
      List.map_append]
    refine List.Sublist.append ?_ ih
    obtain ⟨i, o⟩ := e
    cases o with
    | dispatched n f d' =>
      simp only [PipelineOutput.given]
      split
      · cases d <;> exact List.Sublist.refl _
      · exact List.nil_sublist _
    | _ => exact List.nil_sublist _

/-- What leaves for a destination keeps the order of arrival. -/
theorem leftFor_increasing (hrun : Run (RoomStep cores) (.start workers) es st) (d : Destination) :
    (leftFor d es).Pairwise fun x y => x.1 < y.1 := by
  refine (buffers_inside d).pairwise hrun (by cases d <;> rfl) ?_
  have hbatch : framesRead es = framesDispatched es ++ st.batch :=
    buffers_batch.run_of_empty hrun rfl
  have hnumbers := framesRead_numbers hrun
  rw [hbatch, List.map_append] at hnumbers
  have hprefix : ((framesDispatched es).map Prod.fst).Sublist (List.range st.arrived) := by
    rw [← hnumbers]
    exact List.sublist_append_left _ _
  exact List.pairwise_map.mp
    ((List.pairwise_lt_range).sublist ((givenTo_sublist d es).trans hprefix))

/-- What a destination is given is a frame that was read, of its direction. -/
theorem givenTo_frame (hrun : Run (RoomStep cores) (.start workers) es st) {d : Destination}
    {n : Nat} {data : Bytes} (hmem : (n, data) ∈ givenTo d es) :
    ∃ f : Frame, (n, f) ∈ framesRead es ∧ (f.isOutbound = true ↔ d ≠ .mstcp) ∧
      data = match d with
        | .worker _ => f.data.take maxPacketSize
        | .adapter | .mstcp => f.data := by
  obtain ⟨⟨i, o⟩, he, hgiven⟩ := List.mem_flatMap.mp hmem
  cases o with
  | dispatched n' f d' =>
    simp only [PipelineOutput.given] at hgiven
    split at hgiven
    · rename_i hd
      subst hd
      have hread : (n', f) ∈ framesRead es := by
        rw [show framesRead es = framesDispatched es ++ st.batch from
          buffers_batch.run_of_empty hrun rfl]
        exact List.mem_append_left _ (List.mem_flatMap.mpr ⟨_, he, List.mem_singleton_self _⟩)
      obtain ⟨s, s', hroom, hstep⟩ := hrun.step_of_mem he
      cases move_of_step hroom hstep with
      | adapter _ hout _ =>
        obtain ⟨rfl, rfl⟩ := Prod.mk.inj (List.mem_singleton.mp hgiven)
        exact ⟨f, hread, by simp [hout], rfl⟩
      | mstcp _ hin =>
        obtain ⟨rfl, rfl⟩ := Prod.mk.inj (List.mem_singleton.mp hgiven)
        exact ⟨f, hread, by simp [hin], rfl⟩
      | queue _ hout _ _ _ _ =>
        obtain ⟨rfl, rfl⟩ := Prod.mk.inj (List.mem_singleton.mp hgiven)
        exact ⟨f, hread, by simp [hout], rfl⟩
    · exact nomatch hgiven
  | _ => exact nomatch hgiven

theorem mem_givenTo_of_leftFor (hrun : Run (RoomStep cores) (.start workers) es st)
    {d : Destination} {x : Nat × Bytes} (hmem : x ∈ leftFor d es) : x ∈ givenTo d es := by
  rw [show givenTo d es = leftFor d es ++ st.inside d from
    (buffers_inside d).run_of_empty hrun (by cases d <;> rfl)]
  exact List.mem_append_left _ hmem

/-- What a worker sends on is the frame that was read. -/
theorem worked_sent (hrun : Run (RoomStep cores) (.start workers) es st) {i : PipelineInput}
    {id n : Nat} {data sent : Bytes} {outcome : WorkOutcome}
    {datagrams : List (Bytes × SocketAddr)}
    (he : (i, .worked id n data outcome (some sent) datagrams) ∈ es) :
    (n, ⟨true, sent⟩) ∈ framesRead es := by
  have hleft : (n, data) ∈ leftFor (.worker id) es :=
    List.mem_flatMap.mpr ⟨_, he, by simp [PipelineOutput.leaves]⟩
  obtain ⟨⟨isOutbound, whole⟩, hread, hdir, hcopy⟩ :=
    givenTo_frame hrun (mem_givenTo_of_leftFor hrun hleft)
  obtain rfl : isOutbound = true := hdir.mpr (by simp)
  obtain ⟨s, s', hroom, hstep⟩ := hrun.step_of_mem he
  obtain ⟨rfl, hlen⟩ : sent = data ∧ data.length ≤ intermediateBufferLen := by
    generalize hout : PipelineOutput.worked id n data outcome (some sent) datagrams = o at hstep
    cases move_of_step hroom hstep with
    | work _ hqueue _ =>
      obtain ⟨rfl, rfl, rfl, rfl, hsent, rfl⟩ := PipelineOutput.worked.inj hout
      split at hsent
      · exact ⟨Option.some.inj hsent, hroom.copies _ _ _ (hqueue ▸ List.mem_cons_self)⟩
      · exact nomatch hsent
    | _ => exact nomatch hout
  -- a copy that short is the whole frame
  have hwhole : sent = whole := by
    have hmax : maxPacketSize = 1600 := rfl
    have hbuffer : intermediateBufferLen = 1514 := rfl
    have hcopy : sent = whole.take maxPacketSize := hcopy
    have hcut : sent.length = min maxPacketSize whole.length :=
      (congrArg List.length hcopy).trans List.length_take
    exact hcopy.trans (List.take_of_length_le (by omega))
  rw [hwhole]
  exact hread

/-- **Every frame is accounted for.**  In every run of the reader and the workers, in whatever
order they take their turns, no step faults; the frames that are read are dispatched in order, each
once, and the rest is the batch that the reader has in hand; what a destination was given has left
for it, in the order of arrival, and the rest is in the buffer before it, which never overflows;
inbound frames go to the system and outbound ones to a worker or the adapter; and a frame that is
sent on, by the reader or by a worker, is the frame that was read. -/
theorem frames_accounted (hrun : Run (PipelineStep cores) (.start workers) es st) :
    (∀ i, ∃ o st', PipelineStep cores st i o st') ∧
    (framesRead es).map Prod.fst = List.range st.arrived ∧
    framesRead es = framesDispatched es ++ st.batch ∧
    (∀ d, givenTo d es = leftFor d es ++ st.inside d ∧
      (leftFor d es).Pairwise (fun x y => x.1 < y.1) ∧
      (st.inside d).length ≤ match d with
        | .worker _ => queueCapacity
        | .adapter | .mstcp => batchSize) ∧
    (∀ d n data, (n, data) ∈ givenTo d es → ∃ f : Frame, (n, f) ∈ framesRead es ∧
      (f.isOutbound = true ↔ d ≠ .mstcp) ∧ (d = .adapter ∨ d = .mstcp → data = f.data)) ∧
    (∀ i id n data outcome sent datagrams,
      (i, .worked id n data outcome (some sent) datagrams) ∈ es →
        (n, ⟨true, sent⟩) ∈ framesRead es) := by
  obtain ⟨hrun, hroom⟩ := room_run hrun
  refine ⟨fun i => ?_, framesRead_numbers hrun, buffers_batch.run_of_empty hrun rfl,
    fun d => ⟨(buffers_inside d).run_of_empty hrun (by cases d <;> rfl),
      leftFor_increasing hrun d, ?_⟩, fun d n data hmem => ?_,
    fun i id n data outcome sent datagrams he => worked_sent hrun he⟩
  · obtain ⟨o, st', hstep, -⟩ := pipeline_move cores hroom i
    exact ⟨o, st', hstep⟩
  · have hrequests := hroom.requests
    cases d with
    | worker id => exact hroom.queues id
    | adapter => exact (Nat.le_add_right _ _).trans ((Nat.le_add_right _ _).trans hrequests)
    | mstcp => exact (Nat.le_add_left _ _).trans ((Nat.le_add_right _ _).trans hrequests)
  · obtain ⟨f, hread, hdir, hdata⟩ := givenTo_frame hrun hmem
    refine ⟨f, hread, hdir, ?_⟩
    rintro (rfl | rfl)
    · exact hdata
    · exact hdata

/-! ## 4. Counters -/

/-- The outcome of a worker's turn, and the length of its frame. -/
def PipelineOutput.turn (id : Nat) : PipelineOutput → Option (Disposition × Nat)
  | .worked id' _ data outcome _ _ => if id' = id then some (outcome.disposition, data.length) else none
  | _ => none

/-- The turns of a worker. -/
def turnsOf (id : Nat) (es : PipelineLog) : List (Disposition × Nat) :=
  es.filterMap fun e => e.2.turn id

/-- The turns that end in some way, and the bytes of their frames. -/
def countTurns (disposition : Disposition) (turns : List (Disposition × Nat)) : Nat :=
  turns.countP fun t => t.1 = disposition

def turnBytes (disposition : Disposition) (turns : List (Disposition × Nat)) : Nat :=
  ((turns.filter fun t => t.1 = disposition).map Prod.snd).sum

/-- The counters after some turns. -/
def WorkerStats.after (turns : List (Disposition × Nat)) : WorkerStats where
  packetsProcessed := UInt64.ofNat turns.length
  packetsTunneled := UInt64.ofNat (countTurns .forwarded turns)
  packetsBypassed := UInt64.ofNat (countTurns .bypassed turns)
  bytesTunneled := UInt64.ofNat (turnBytes .forwarded turns)
  bytesBypassed := UInt64.ofNat (turnBytes .bypassed turns)

theorem countTurns_concat (d : Disposition) (turns : List (Disposition × Nat))
    (t : Disposition × Nat) :
    countTurns d (turns ++ [t]) = countTurns d turns + if t.1 = d then 1 else 0 := by
  rw [countTurns, List.countP_append, List.countP_singleton]
  simp only [decide_eq_true_eq]
  rfl

theorem turnBytes_concat (d : Disposition) (turns : List (Disposition × Nat))
    (t : Disposition × Nat) :
    turnBytes d (turns ++ [t]) = turnBytes d turns + if t.1 = d then t.2 else 0 := by
  rw [turnBytes, List.filter_append, List.map_append, List.sum_append]
  by_cases h : t.1 = d
  · simp [turnBytes, h]
  · simp [turnBytes, h]

theorem after_concat (turns : List (Disposition × Nat)) (t : Disposition × Nat) :
    WorkerStats.after (turns ++ [t]) = (WorkerStats.after turns).count t.1 (UInt64.ofNat t.2) := by
  obtain ⟨disposition, len⟩ := t
  simp only [WorkerStats.after, countTurns_concat, turnBytes_concat, UInt64.ofNat_add,
    List.length_append, List.length_singleton]
  cases disposition <;> simp [WorkerStats.count]

theorem dispose_not_ignored {relayCtx b : Bool} {w : WorkItem} {o : WorkOutcome}
    (h : dispose relayCtx w b = .ok o) : o.disposition ≠ .ignored := by
  intro hignored
  simp only [dispose, bind, Except.bind, pure, Except.pure] at h
  repeat' split at h
  all_goals first
    | obtain rfl := Except.ok.inj h
      cases hignored
    | cases h

/-- A frame that goes out is not ignored. -/
theorem workerTurn_not_ignored {ctx : RelayForwardContext} {io : SocketView} {st : WorkerState}
    {w : WorkItem} {r : TurnResult} (hout : w.isOutbound = true)
    (h : workerTurn ctx io st w = .ok r) : r.outcome.disposition ≠ .ignored := by
  obtain ⟨o, st', hstep⟩ := workerStep_ok true st w
  have hsame : r.outcome = o := by
    rw [workerTurn, hstep, ok_bind] at h
    simp only at h
    split at h
    · cases hforward : forwardFrame ctx st'.shared io w.data with
      | error fault =>
        rw [hforward] at h
        cases h
      | ok out =>
        rw [hforward, ok_bind] at h
        obtain rfl := Except.ok.inj h
        rfl
    · obtain rfl := Except.ok.inj h
      rfl
  obtain ⟨route, -, hdispose, -⟩ := workerStep_outbound hstep hout
  rw [hsame]
  exact dispose_not_ignored hdispose

/-- The turns of all workers. -/
def PipelineOutput.anyTurn : PipelineOutput → Option (Disposition × Nat)
  | .worked _ _ data outcome _ _ => some (outcome.disposition, data.length)
  | _ => none

def allTurns (es : PipelineLog) : List (Disposition × Nat) := es.filterMap fun e => e.2.anyTurn

/-- The counters after one more event. -/
theorem stats_step {st' : Pipeline} {i : PipelineInput} {o : PipelineOutput}
    (hstep : RoomStep cores st i o st') (id : Nat) :
    (st'.stats id = match o.turn id with
      | some t => (st.stats id).count t.1 (UInt64.ofNat t.2)
      | none => st.stats id) ∧
    (st'.bytesTx = match o.anyTurn with
      | some t => if t.1 = .forwarded then st.bytesTx + UInt64.ofNat t.2 else st.bytesTx
      | none => st.bytesTx) ∧
    ∀ t, o.turn id = some t → t.1 ≠ .ignored := by
  obtain ⟨hroom, hstep⟩ := hstep
  cases move_of_step hroom hstep with
  | @work id' n v data rest r _ _ hturn =>
    refine ⟨?_, rfl, fun t ht => ?_⟩
    · by_cases hid : id' = id
      · subst hid
        simp [PipelineOutput.turn]
      · simp [PipelineOutput.turn, hid, Ne.symm hid]
    · simp only [PipelineOutput.turn] at ht
      split at ht
      · obtain rfl := Option.some.inj ht
        exact workerTurn_not_ignored rfl hturn
      · exact nomatch ht
  | _ => exact ⟨rfl, rfl, fun t ht => nomatch ht⟩

/-- **What the counters hold.**  In every run, the counters of a worker hold how many frames it
took, and how many of them, with how many bytes, it forwarded and sent on; the ones that it did
neither with were held back for a lookup or had no packet in them; and the throughput holds the
bytes of the frames that all workers forwarded. -/
theorem worker_stats_exact (hrun : Run (PipelineStep cores) (.start workers) es st) (id : Nat) :
    st.stats id = .after (turnsOf id es) ∧
    st.bytesTx = UInt64.ofNat (turnBytes .forwarded (allTurns es)) ∧
    (turnsOf id es).length = countTurns .forwarded (turnsOf id es) +
      countTurns .bypassed (turnsOf id es) + countTurns .dropped (turnsOf id es) := by
  refine (room_run hrun).1.history (P := fun es st => st.stats id = .after (turnsOf id es) ∧
    st.bytesTx = UInt64.ofNat (turnBytes .forwarded (allTurns es)) ∧
    (turnsOf id es).length = countTurns .forwarded (turnsOf id es) +
      countTurns .bypassed (turnsOf id es) + countTurns .dropped (turnsOf id es))
    ⟨rfl, rfl, rfl⟩ ?_
  rintro es st i o st' - ⟨hstats, hbytes, hsum⟩ hstep
  obtain ⟨hstats', hbytes', hignored⟩ := stats_step hstep id
  have hturns : turnsOf id (es ++ [(i, o)]) = turnsOf id es ++ (o.turn id).toList := by
    rw [turnsOf, List.filterMap_append]
    cases h : o.turn id <;> simp [turnsOf, h]
  have hall : allTurns (es ++ [(i, o)]) = allTurns es ++ o.anyTurn.toList := by
    rw [allTurns, List.filterMap_append]
    cases h : o.anyTurn <;> simp [allTurns, h]
  refine ⟨?_, ?_, ?_⟩
  · rw [hstats', hturns, hstats]
    cases o.turn id with
    | none => simp
    | some t => exact (after_concat _ t).symm
  · rw [hbytes', hall, hbytes]
    cases o.anyTurn with
    | none => simp
    | some t =>
      simp only [Option.toList_some, turnBytes_concat, UInt64.ofNat_add]
      split <;> simp
  · rw [hturns]
    cases h : o.turn id with
    | none => simpa using hsum
    | some t =>
      have hne := hignored t h
      obtain ⟨disposition, len⟩ := t
      simp only [Option.toList_some, List.length_append, List.length_singleton,
        countTurns_concat, hsum]
      cases disposition with
      | ignored => exact absurd rfl hne
      | bypassed => simp; omega
      | dropped => simp; omega
      | forwarded => simp; omega

end Runs

/-- One step, computed. -/
def Pipeline.advance (cores : Nat) (st : Pipeline) (i : PipelineInput) :
    PipelineOutput × Pipeline :=
  match st.next cores i with
  | .ok p => p
  | .error _ => (.idle, st)

/-- The inputs alone give the run. -/
theorem run_advance (cores : Nat) {st : Pipeline} (hroom : st.Room) (inputs : List PipelineInput) :
    Run (PipelineStep cores) st (trace (Pipeline.advance cores) st inputs).1
      (trace (Pipeline.advance cores) st inputs).2 := by
  induction inputs generalizing st with
  | nil => exact Run.nil st
  | cons i inputs ih =>
    obtain ⟨o, st', hstep, hmove⟩ := pipeline_move cores hroom i
    have hadvance : st.advance cores i = (o, st') := by
      rw [Pipeline.advance, show st.next cores i = .ok (o, st') from hstep]
    rw [trace, hadvance]
    exact Run.cons hstep (ih (room_move hroom hmove))

/-- A machine with two cores, whose workers have just started. -/
def twoCores : Pipeline :=
  .start fun _ => .start (.empty ∅) (SharedState.fresh [])

/-- A datagram on its way out, a frame with nothing in it, and one that comes in. -/
def outInFrames : List Frame :=
  [⟨true, frameOf ⟨.udp, ⟨192, 168, 1, 10⟩, ⟨8, 8, 8, 8⟩, 51001, 9999, false⟩ []⟩, ⟨true, []⟩,
    ⟨false, [0x45]⟩]

theorem outInFrames_fit : outInFrames.length ≤ batchSize ∧
    ∀ f ∈ outInFrames, f.data.length ≤ intermediateBufferLen := by decide

def threeFrames : Batch := ⟨outInFrames, outInFrames_fit⟩

/-- Nothing is tunnelled. -/
def plainView : WorkView :=
  ⟨SharedState.fresh [], ⟨sampleRelay, []⟩, .empty ∅, false, true, none, ⟨0, .sent 0, .sent 0⟩, true⟩

def threeFramesRun : PipelineLog × Pipeline :=
  trace (Pipeline.advance 2) twoCores
    [.read threeFrames, .dispatch, .dispatch, .dispatch, .flush, .work 1 plainView]

theorem threeFrames_run : Run (PipelineStep 2) twoCores threeFramesRun.1 threeFramesRun.2 :=
  run_advance 2 (room_start fun _ => .start (.empty ∅) (SharedState.fresh [])) _

/-- The first goes to a worker, and the others through. -/
theorem three_frames_accounted :
    (framesRead threeFramesRun.1).map Prod.fst = [0, 1, 2] ∧
      leftFor .adapter threeFramesRun.1 = [(1, [])] ∧
      givenTo .mstcp threeFramesRun.1 = leftFor .mstcp threeFramesRun.1 := by
  obtain ⟨-, hnumbers, -, hgiven, -⟩ := frames_accounted threeFrames_run
  have harrived : threeFramesRun.2.arrived = 3 := by decide +kernel
  have hempty : threeFramesRun.2.inside .mstcp = [] := by decide +kernel
  have hmstcp := (hgiven .mstcp).1
  rw [hempty, List.append_nil] at hmstcp
  rw [harrived] at hnumbers
  exact ⟨hnumbers, by decide +kernel, hmstcp⟩

/-- The worker sends it on. -/
theorem three_frames_counted :
    turnsOf 1 threeFramesRun.1 = [(.bypassed, 42)] ∧
      threeFramesRun.2.stats 1 = .after (turnsOf 1 threeFramesRun.1) :=
  ⟨by decide +kernel, (worker_stats_exact threeFrames_run 1).1⟩

end SwiftTunnel
