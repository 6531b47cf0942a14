/-
# One reader, many workers

`interceptor.rs`, `run_packet_reader` with its workers.  The reader gives each outbound frame
whose ports it can read to the worker of its source port, and sends the others on directly; each
worker classifies its frames in order, with a flow cache of its own.  Here the workers take their
turns in any order, and the snapshot, the flags and the address sets stay as they are.

A cache entry is a source socket, and all frames of one source socket go to one worker.  So each
worker's cache is the part of the single worker's cache that belongs to its ports
(`SameShard`), and every decision comes out the same.

The proof has three parts.  A decision depends on the cache through the frame's own entry, as long
as there is room (§3).  So the single worker's run, looked at through the frames of one shard, is a
run of a worker that sees no others (`shard_run`, §4).  And in every order of turns what a worker has
done, with what is left in its queue, is that worker's frames in the order of arrival (`ShardsInv`).

* `sharded_decisions`: over every run, as long as the sources fit in one cache.
* `frame_accounted`: no frame is lost on the way.

With more sources than one cache holds the decisions may differ: each worker's cache has that size.
Queues are unbounded here; a full one is a matter of `Pipeline`.
-/
import SwiftTunnel.SplitTunnel.Ports

namespace SwiftTunnel

open Rust

/-! ## 1. The reader and its workers -/

/-- What does not change while the frames are classified. -/
structure ShardConfig where
  shared : SharedState
  snapshot : ProcessSnapshot
  apiTunneling : Bool
  udpTunneling : Bool
  numWorkers : Nat

/-- The queues hold what the reader has copied; a frame is numbered as it arrives. -/
structure Shards where
  arrived : Nat
  queues : Nat → List (Nat × Bytes)
  caches : Nat → InlineCache

def Shards.start : Shards := ⟨0, fun _ => [], fun _ => ∅⟩

inductive ShardInput where
  /-- The reader takes an outbound frame. -/
  | frame (data : Bytes)
  /-- A worker takes the first frame of its queue. -/
  | work (worker : Nat)

inductive ShardOutput where
  | queued (worker : Nat)
  /-- The frame is sent on directly. -/
  | passed (n : Nat)
  | decided (n : Nat) (tunnel : Bool)

namespace ShardConfig

variable (cfg : ShardConfig)

/-- `worker_id`. -/
def workerId (srcPort : UInt16) : Nat :=
  if cfg.numWorkers > 0 then srcPort.toNat % cfg.numWorkers else 0

/-- `classify_packet` under the fixed state. -/
def ClassifyStep (cache : InlineCache) (data : Bytes) (tunnel : Bool) (cache' : InlineCache) :
    Prop :=
  classifyPacket cfg.shared data cfg.snapshot cache cfg.apiTunneling cfg.udpTunneling =
    .ok (tunnel, cache')

/-- The same on a numbered frame. -/
abbrev NumberedStep (cache : InlineCache) (frame : Nat × Bytes) (tunnel : Bool)
    (cache' : InlineCache) : Prop := cfg.ClassifyStep cache frame.2 tunnel cache'

/-- A turn of the reader, or of one worker. -/
inductive ShardStep : Shards → ShardInput → ShardOutput → Shards → Prop
  | queue {st : Shards} {data : Bytes} {srcPort dstPort : UInt16}
      (h : parsePorts data = .ok (some (srcPort, dstPort))) :
      ShardStep st (.frame data) (.queued (cfg.workerId srcPort))
        { st with
          arrived := st.arrived + 1
          queues := Function.update st.queues (cfg.workerId srcPort)
            (st.queues (cfg.workerId srcPort) ++ [(st.arrived, data.take maxPacketSize)]) }
  | pass {st : Shards} {data : Bytes} (h : parsePorts data = .ok none) :
      ShardStep st (.frame data) (.passed st.arrived) { st with arrived := st.arrived + 1 }
  | work {st : Shards} (worker : Nat) {n : Nat} {data : Bytes} {rest : List (Nat × Bytes)}
      {tunnel : Bool} {cache : InlineCache} (hqueue : st.queues worker = (n, data) :: rest)
      (h : cfg.ClassifyStep (st.caches worker) data tunnel cache) :
      ShardStep st (.work worker) (.decided n tunnel)
        { st with
          queues := Function.update st.queues worker rest
          caches := Function.update st.caches worker cache }

/-! ## 2. Frames and their shards -/

/-- The worker to which the reader gives a frame. -/
def shardOf (data : Bytes) : Option Nat :=
  match parsePorts data with
  | .ok (some (srcPort, _)) => some (cfg.workerId srcPort)
  | _ => none

theorem shardOf_reads {data : Bytes} {h : PacketHeader} (hr : ReadsAs data h) :
    cfg.shardOf data = some (cfg.workerId h.srcPort) := by
  rw [shardOf, parsePorts_some_iff.mpr ⟨h, hr, rfl⟩]

/-- The caches agree on the sources that belong to a worker. -/
def SameShard (worker : Nat) (cache cache' : InlineCache) : Prop :=
  ∀ key : SourceKey, cfg.workerId key.2.1 = worker → (key ∈ cache ↔ key ∈ cache')

end ShardConfig

/-- The source of a frame. -/
def sourceKey (data : Bytes) : Option SourceKey :=
  match readHeader data true with
  | .ok (some h) => some h.key
  | _ => none

theorem sourceKey_reads {data : Bytes} {h : PacketHeader} (hr : ReadsAs data h) :
    sourceKey data = some h.key := by
  obtain ⟨r, hread, hspec⟩ := readHeader_spec data true
  rw [sourceKey, hread, (hspec h).mpr ⟨hr, fun _ => rfl⟩]

/-- The distinct sources of some frames. -/
def sourceKeys (frames : List Bytes) : Finset SourceKey := (frames.filterMap sourceKey).toFinset

theorem mem_sourceKeys {frames : List Bytes} {data : Bytes} {h : PacketHeader} (hr : ReadsAs data h)
    (hmem : data ∈ frames) : h.key ∈ sourceKeys frames := by
  rw [sourceKeys, List.mem_toFinset, List.mem_filterMap]
  exact ⟨data, hmem, sourceKey_reads hr⟩

/-! ## 3. A decision depends on the frame's own entry -/

section Header

variable {g : SharedState} {s : ProcessSnapshot} {api : Bool} {h : PacketHeader}
  {cache cache' : InlineCache}

/-- Two caches with room, one of which lists the source if the other does. -/
theorem classifyHeader_local (hroom : cache.card < 10000) (hroom' : cache'.card < 10000)
    (hkey : h.key ∈ cache ↔ h.key ∈ cache') :
    (classifyHeader g s cache api h).1 = (classifyHeader g s cache' api h).1 ∧
      (h.key ∈ (classifyHeader g s cache api h).2 ↔
        h.key ∈ (classifyHeader g s cache' api h).2) := by
  have hrem : h.key ∈ remember cache h.key ↔ h.key ∈ remember cache' h.key :=
    ⟨fun _ => mem_remember hroom', fun _ => mem_remember hroom⟩
  unfold classifyHeader
  split
  · exact ⟨rfl, hkey⟩
  split
  · exact ⟨rfl, hkey⟩
  split
  · exact ⟨rfl, hrem⟩
  by_cases hc : h.key ∈ cache
  · rw [if_pos hc, if_pos (hkey.mp hc)]
    exact ⟨rfl, hkey⟩
  rw [if_neg hc, if_neg (fun hc' => hc (hkey.mpr hc'))]
  split
  · exact ⟨rfl, hrem⟩
  split
  · exact ⟨rfl, hrem⟩
  split
  · exact ⟨rfl, hrem⟩
  · exact ⟨rfl, hkey⟩

/-- Entries of other sources stay as they are. -/
theorem classifyHeader_other {key : SourceKey} (hne : key ≠ h.key) :
    key ∈ (classifyHeader g s cache api h).2 ↔ key ∈ cache := by
  rcases classifyHeader_cache g s cache api h with e | ⟨e, -⟩
  · rw [e]
  · rw [e, Finset.mem_insert]
    exact or_iff_right hne

end Header

/-! ## 4. The single worker's cache, seen from one shard -/

namespace ShardConfig

variable {cfg : ShardConfig} {worker : Nat}

/-- The caches have no entries but some known ones, which fit. -/
structure Within (known : Finset SourceKey) (cache cache' : InlineCache) : Prop where
  left : cache ⊆ known
  right : cache' ⊆ known
  room : known.card < 10000

theorem Within.leftRoom {known : Finset SourceKey} {cache cache' : InlineCache}
    (h : Within known cache cache') : cache.card < 10000 :=
  (Finset.card_le_card h.left).trans_lt h.room

theorem Within.rightRoom {known : Finset SourceKey} {cache cache' : InlineCache}
    (h : Within known cache cache') : cache'.card < 10000 :=
  (Finset.card_le_card h.right).trans_lt h.room

theorem classifyStep_unique {cache cache₁ cache₂ : InlineCache} {data : Bytes} {b₁ b₂ : Bool}
    (h₁ : cfg.ClassifyStep cache data b₁ cache₁) (h₂ : cfg.ClassifyStep cache data b₂ cache₂) :
    b₁ = b₂ ∧ cache₁ = cache₂ :=
  Prod.mk.inj (Except.ok.inj (h₁.symm.trans h₂))

/-- A frame that is read is decided on its header; the others are bypassed. -/
theorem classifyStep_cases {cache cache' : InlineCache} {data : Bytes} {b : Bool}
    (hstep : cfg.ClassifyStep cache data b cache') :
    (∃ h, ReadsAs data h ∧ (h.protocol = .udp → cfg.udpTunneling = true) ∧
      b = (classifyHeader cfg.shared cfg.snapshot cache cfg.apiTunneling h).1 ∧
      cache' = (classifyHeader cfg.shared cfg.snapshot cache cfg.apiTunneling h).2) ∨
    ((∀ h, ReadsAs data h → ¬ (h.protocol = .udp → cfg.udpTunneling = true)) ∧
      b = false ∧ cache' = cache) := by
  rw [ClassifyStep] at hstep
  rcases classifyPacket_cases cfg.shared data cfg.snapshot cache cfg.apiTunneling cfg.udpTunneling
    with ⟨h, hr, hudp, e⟩ | ⟨hno, e⟩
  · have hpair := Except.ok.inj (hstep.symm.trans e)
    exact Or.inl ⟨h, hr, hudp, congrArg Prod.fst hpair, congrArg Prod.snd hpair⟩
  · have hpair := Except.ok.inj (hstep.symm.trans e)
    exact Or.inr ⟨hno, congrArg Prod.fst hpair, congrArg Prod.snd hpair⟩

theorem exists_classifyStep (cfg : ShardConfig) (cache : InlineCache) (data : Bytes) :
    ∃ b cache', cfg.ClassifyStep cache data b cache' := by
  obtain ⟨b, cache', h, -⟩ := classifyPacket_ok cfg.shared data cfg.snapshot cache
    cfg.apiTunneling cfg.udpTunneling
  exact ⟨b, cache', h⟩

/-- A decision adds the source of the frame, or nothing. -/
theorem classifyStep_subset {known : Finset SourceKey} {cache cache' : InlineCache} {data : Bytes}
    {b : Bool} (hstep : cfg.ClassifyStep cache data b cache') (hcache : cache ⊆ known)
    (hknown : ∀ h, ReadsAs data h → h.key ∈ known) : cache' ⊆ known := by
  rcases classifyStep_cases hstep with ⟨h, hr, -, -, hc⟩ | ⟨-, -, hc⟩
  · rcases classifyHeader_cache cfg.shared cfg.snapshot cache cfg.apiTunneling h with e | ⟨e, -⟩
    · rw [hc, e]
      exact hcache
    · rw [hc, e]
      exact Finset.insert_subset (hknown h hr) hcache
  · rw [hc]
    exact hcache

/-- A frame of another shard does not show in this one. -/
theorem sameShard_elsewhere {cache cache₁ cache' : InlineCache} {data : Bytes} {b : Bool}
    (hsame : cfg.SameShard worker cache cache') (hstep : cfg.ClassifyStep cache data b cache₁)
    (hshard : cfg.shardOf data ≠ some worker) : cfg.SameShard worker cache₁ cache' := by
  rcases classifyStep_cases hstep with ⟨h, hr, -, -, hc⟩ | ⟨-, -, hc⟩
  · intro key hkey
    have hne : key ≠ h.key := by
      rintro rfl
      exact hshard ((cfg.shardOf_reads hr).trans (congrArg some hkey))
    rw [hc, classifyHeader_other hne]
    exact hsame key hkey
  · rw [hc]
    exact hsame

/-- **A frame of this shard is decided alike**, from the single cache and from the worker's own
one, and leaves them alike. -/
theorem sameShard_here {known : Finset SourceKey} {cache cache₁ cache' : InlineCache}
    {data : Bytes} {b : Bool} (hsame : cfg.SameShard worker cache cache')
    (hwithin : Within known cache cache') (hstep : cfg.ClassifyStep cache data b cache₁)
    (hshard : cfg.shardOf data = some worker) :
    ∃ cache₁', cfg.ClassifyStep cache' data b cache₁' ∧ cfg.SameShard worker cache₁ cache₁' := by
  obtain ⟨b', cache₁', hstep'⟩ := exists_classifyStep cfg cache' data
  rcases classifyStep_cases hstep with ⟨h, hr, hudp, hb, hc⟩ | ⟨hno, hb, hc⟩
  · have hworker : cfg.workerId h.key.2.1 = worker :=
      Option.some.inj ((cfg.shardOf_reads hr).symm.trans hshard)
    obtain ⟨hdecision, hentry⟩ := classifyHeader_local (g := cfg.shared) (s := cfg.snapshot)
      hwithin.leftRoom hwithin.rightRoom (hsame h.key hworker)
    rcases classifyStep_cases hstep' with ⟨h', hr', -, hb', hc'⟩ | ⟨hno, -, -⟩
    · obtain rfl := hr.unique hr'
      refine ⟨cache₁', ?_, ?_⟩
      · rwa [hb, hdecision, ← hb']
      · intro key hkey
        rw [hc, hc']
        by_cases hne : key = h.key
        · rw [hne]
          exact hentry
        · rw [classifyHeader_other hne, classifyHeader_other hne]
          exact hsame key hkey
    · exact absurd hudp (hno h hr)
  · rcases classifyStep_cases hstep' with ⟨h', hr', hudp', -, -⟩ | ⟨-, hb', hc'⟩
    · exact absurd hudp' (hno h' hr')
    · refine ⟨cache₁', ?_, ?_⟩
      · rwa [hb, ← hb']
      · rw [hc, hc']
        exact hsame

/-- A frame, or the worker's copy of it. -/
theorem classifyStep_take {cache cache' : InlineCache} {data : Bytes} {b : Bool} :
    cfg.ClassifyStep cache (data.take maxPacketSize) b cache' ↔
      cfg.ClassifyStep cache data b cache' := by
  rw [ClassifyStep, ClassifyStep, classifyPacket_take]

/-- The frames of one worker, as it gets them; they keep their numbers. -/
def shardLog (cfg : ShardConfig) (worker : Nat) (log : List ((Nat × Bytes) × Bool)) :
    List ((Nat × Bytes) × Bool) :=
  (log.filter fun x => cfg.shardOf x.1.2 = some worker).map
    (Prod.map (Prod.map id (List.take maxPacketSize)) id)

/-- **A worker alone with its shard**: the single worker's decisions on these frames are those of a
worker that sees no others. -/
theorem shard_run (worker : Nat) {known : Finset SourceKey} {log : List ((Nat × Bytes) × Bool)}
    {cache cache₁ cache' : InlineCache}
    (hrun : Run cfg.NumberedStep cache log cache₁)
    (hsame : cfg.SameShard worker cache cache') (hwithin : Within known cache cache')
    (hknown : ∀ x ∈ log, ∀ h, ReadsAs x.1.2 h → h.key ∈ known) :
    ∃ cache₁', Run cfg.NumberedStep cache' (cfg.shardLog worker log)
      cache₁' := by
  induction hrun generalizing cache' with
  | nil c => exact ⟨cache', Run.nil cache'⟩
  | @cons c c₁ c₂ x b log hstep _ ih =>
    obtain ⟨hx, hlog⟩ := List.forall_mem_cons.mp hknown
    have hleft := classifyStep_subset hstep hwithin.left hx
    by_cases hshard : cfg.shardOf x.2 = some worker
    · obtain ⟨c₁', hstep', hsame'⟩ := sameShard_here hsame hwithin hstep hshard
      have hright := classifyStep_subset hstep' hwithin.right hx
      obtain ⟨cache₁', hrun'⟩ := ih hsame' ⟨hleft, hright, hwithin.room⟩ hlog
      refine ⟨cache₁', ?_⟩
      rw [shardLog, List.filter_cons_of_pos (by simpa using hshard)]
      exact Run.cons (classifyStep_take.mpr hstep') hrun'
    · obtain ⟨cache₁', hrun'⟩ :=
        ih (sameShard_elsewhere hsame hstep hshard) ⟨hleft, hwithin.right, hwithin.room⟩ hlog
      refine ⟨cache₁', ?_⟩
      rw [shardLog, List.filter_cons_of_neg (by simpa using hshard)]
      exact hrun'

/-! ## 5. Numbered frames -/

/-- The frames that a log of the reader and its workers takes in, in order. -/
def framesOf (es : List (ShardInput × ShardOutput)) : List Bytes :=
  es.filterMap fun e => match e.1 with
    | .frame data => some data
    | .work _ => none

/-- What a worker has decided, in order. -/
def decidedBy (worker : Nat) (es : List (ShardInput × ShardOutput)) : List (Nat × Bool) :=
  es.filterMap fun e => match e with
    | (.work k, .decided n tunnel) => if k = worker then some (n, tunnel) else none
    | _ => none

def numbered (frames : List Bytes) : List (Nat × Bytes) := frames.zipIdx.map Prod.swap

def numberedLog (log : List (Bytes × Bool)) : List ((Nat × Bytes) × Bool) :=
  log.zipIdx.map fun x => ((x.2, x.1.1), x.1.2)

/-- The frames of one worker, as it gets them. -/
def shardFrames (cfg : ShardConfig) (worker : Nat) (frames : List Bytes) : List (Nat × Bytes) :=
  ((numbered frames).filter fun x => cfg.shardOf x.2 = some worker).map
    (Prod.map id (List.take maxPacketSize))

theorem numberedLog_fst (log : List (Bytes × Bool)) :
    (numberedLog log).map Prod.fst = numbered (log.map Prod.fst) := by
  simp [numberedLog, numbered, List.zipIdx_map, Function.comp_def]

theorem numberedLog_log (log : List (Bytes × Bool)) :
    (numberedLog log).map (Prod.map Prod.snd id) = log := by
  simp [numberedLog, Function.comp_def]

theorem mem_numberedLog {log : List (Bytes × Bool)} {n : Nat} {data : Bytes} {b : Bool} :
    ((n, data), b) ∈ numberedLog log ↔ log[n]? = some (data, b) := by
  simp only [numberedLog, List.mem_map, Prod.mk.injEq, Prod.exists, List.mem_zipIdx_iff_getElem?]
  constructor
  · rintro ⟨data', b', n', h, ⟨rfl, rfl⟩, rfl⟩
    exact h
  · intro h
    exact ⟨data, b, n, h, ⟨rfl, rfl⟩, rfl⟩

theorem mem_numbered {frames : List Bytes} {n : Nat} {data : Bytes} :
    (n, data) ∈ numbered frames ↔ frames[n]? = some data := by
  simp only [numbered, List.mem_map, Prod.exists, Prod.swap_prod_mk, Prod.mk.injEq,
    List.mem_zipIdx_iff_getElem?]
  constructor
  · rintro ⟨data', n', h, rfl, rfl⟩
    exact h
  · intro h
    exact ⟨data, n, h, rfl, rfl⟩

theorem numbered_concat (frames : List Bytes) (data : Bytes) :
    numbered (frames ++ [data]) = numbered frames ++ [(frames.length, data)] := by
  simp [numbered, List.zipIdx_append]

theorem shardFrames_concat (cfg : ShardConfig) (worker : Nat) (frames : List Bytes) (data : Bytes) :
    cfg.shardFrames worker (frames ++ [data]) = cfg.shardFrames worker frames ++
      if cfg.shardOf data = some worker then [(frames.length, data.take maxPacketSize)] else [] := by
  rw [shardFrames, numbered_concat, List.filter_append, List.map_append, ← shardFrames]
  split
  · rename_i h
    simp [h]
  · rename_i h
    simp [h]

theorem shardLog_fst (cfg : ShardConfig) (worker : Nat) (log : List (Bytes × Bool)) :
    (cfg.shardLog worker (numberedLog log)).map Prod.fst =
      cfg.shardFrames worker (log.map Prod.fst) := by
  rw [shardFrames, ← numberedLog_fst, shardLog, List.filter_map, List.map_map, List.map_map]
  rfl

/-! ## 6. Every order of turns -/

/-- What a worker has done is a run of its own, and it and the queue are the worker's frames. -/
structure ShardsInv (cfg : ShardConfig) (es : List (ShardInput × ShardOutput)) (st : Shards) :
    Prop where
  arrived : st.arrived = (framesOf es).length
  passed : ∀ n, (∃ i, (i, .passed n) ∈ es) ↔
    ∃ data, (framesOf es)[n]? = some data ∧ parsePorts data = .ok none
  worker : ∀ k, ∃ log, Run cfg.NumberedStep ∅ log (st.caches k) ∧
    decidedBy k es = log.map (fun x => (x.1.1, x.2)) ∧
      log.map Prod.fst ++ st.queues k = cfg.shardFrames k (framesOf es)

theorem shardsInv_start (cfg : ShardConfig) : cfg.ShardsInv [] Shards.start where
  arrived := rfl
  passed n := by simp [framesOf]
  worker _ := ⟨[], Run.nil _, rfl, rfl⟩

theorem framesOf_frame (es : List (ShardInput × ShardOutput)) (data : Bytes) (o : ShardOutput) :
    framesOf (es ++ [(.frame data, o)]) = framesOf es ++ [data] := by
  simp [framesOf]

theorem framesOf_work (es : List (ShardInput × ShardOutput)) (k : Nat) (o : ShardOutput) :
    framesOf (es ++ [(.work k, o)]) = framesOf es := by
  simp [framesOf]

theorem decidedBy_frame (es : List (ShardInput × ShardOutput)) (k : Nat) (data : Bytes)
    (o : ShardOutput) : decidedBy k (es ++ [(.frame data, o)]) = decidedBy k es := by
  simp [decidedBy]

theorem decidedBy_work (es : List (ShardInput × ShardOutput)) (k k' n : Nat) (b : Bool) :
    decidedBy k (es ++ [(.work k', .decided n b)]) =
      decidedBy k es ++ if k' = k then [(n, b)] else [] := by
  by_cases h : k' = k <;> simp [decidedBy, h]

/-- A frame more: the earlier ones keep their numbers. -/
theorem concat_getElem?_iff {frames : List Bytes} {data : Bytes} {n : Nat} {P : Bytes → Prop} :
    (∃ f, (frames ++ [data])[n]? = some f ∧ P f) ↔
      (∃ f, frames[n]? = some f ∧ P f) ∨ (n = frames.length ∧ P data) := by
  rcases lt_trichotomy n frames.length with hn | hn | hn
  · rw [List.getElem?_append_left hn]
    simp [hn.ne]
  · subst hn
    simp
  · have hout : (frames ++ [data])[n]? = none := by
      rw [List.getElem?_eq_none]
      simp only [List.length_append, List.length_singleton]
      omega
    simp [hout, List.getElem?_eq_none hn.le, hn.ne']

theorem shardsInv_queue {es : List (ShardInput × ShardOutput)} {st : Shards} {data : Bytes}
    {srcPort dstPort : UInt16} (h : cfg.ShardsInv es st)
    (hports : parsePorts data = .ok (some (srcPort, dstPort))) :
    cfg.ShardsInv (es ++ [(.frame data, .queued (cfg.workerId srcPort))])
      { st with
        arrived := st.arrived + 1
        queues := Function.update st.queues (cfg.workerId srcPort)
          (st.queues (cfg.workerId srcPort) ++ [(st.arrived, data.take maxPacketSize)]) } := by
  have hshard : cfg.shardOf data = some (cfg.workerId srcPort) := by
    simp [shardOf, hports]
  constructor
  · rw [framesOf_frame, List.length_append, ← h.arrived]
    rfl
  · intro n
    rw [framesOf_frame, concat_getElem?_iff, ← h.passed]
    simp [hports]
  · intro k
    obtain ⟨log, hrun, hdecided, hqueue⟩ := h.worker k
    refine ⟨log, hrun, ?_, ?_⟩
    · rw [decidedBy_frame]
      exact hdecided
    · rw [framesOf_frame, shardFrames_concat, ← hqueue, hshard]
      by_cases hk : cfg.workerId srcPort = k
      · subst hk
        simp [h.arrived]
      · simp [hk, Function.update_of_ne (Ne.symm hk)]

theorem shardsInv_pass {es : List (ShardInput × ShardOutput)} {st : Shards} {data : Bytes}
    (h : cfg.ShardsInv es st) (hports : parsePorts data = .ok none) :
    cfg.ShardsInv (es ++ [(.frame data, .passed st.arrived)])
      { st with arrived := st.arrived + 1 } := by
  have hshard : cfg.shardOf data = none := by
    simp [shardOf, hports]
  constructor
  · rw [framesOf_frame, List.length_append, ← h.arrived]
    rfl
  · intro n
    rw [framesOf_frame, concat_getElem?_iff, ← h.passed, ← h.arrived]
    simp only [List.mem_append, List.mem_singleton, Prod.mk.injEq, ShardOutput.passed.injEq]
    constructor
    · rintro ⟨i, hi | ⟨-, hn⟩⟩
      · exact Or.inl ⟨i, hi⟩
      · exact Or.inr ⟨hn, hports⟩
    · rintro (⟨i, hi⟩ | ⟨hn, -⟩)
      · exact ⟨i, Or.inl hi⟩
      · exact ⟨_, Or.inr ⟨rfl, hn⟩⟩
  · intro k
    obtain ⟨log, hrun, hdecided, hqueue⟩ := h.worker k
    refine ⟨log, hrun, ?_, ?_⟩
    · rw [decidedBy_frame]
      exact hdecided
    · rw [framesOf_frame, shardFrames_concat, ← hqueue, hshard]
      simp

theorem shardsInv_work {es : List (ShardInput × ShardOutput)} {st : Shards} {k n : Nat}
    {data : Bytes} {rest : List (Nat × Bytes)} {b : Bool} {cache : InlineCache}
    (h : cfg.ShardsInv es st) (hqueue : st.queues k = (n, data) :: rest)
    (hstep : cfg.ClassifyStep (st.caches k) data b cache) :
    cfg.ShardsInv (es ++ [(.work k, .decided n b)])
      { st with
        queues := Function.update st.queues k rest
        caches := Function.update st.caches k cache } := by
  constructor
  · rw [framesOf_work]
    exact h.arrived
  · intro n'
    rw [framesOf_work, ← h.passed]
    simp
  · intro k'
    obtain ⟨log, hrun, hdecided, hframes⟩ := h.worker k'
    by_cases hk : k = k'
    · subst hk
      refine ⟨log ++ [((n, data), b)], ?_, ?_, ?_⟩
      · dsimp only
        rw [run_concat_iff, Function.update_self]
        exact ⟨st.caches k, hrun, hstep⟩
      · rw [decidedBy_work, hdecided]
        simp
      · rw [framesOf_work, ← hframes, hqueue]
        simp
    · refine ⟨log, ?_, ?_, ?_⟩
      · dsimp only
        rw [Function.update_of_ne (Ne.symm hk)]
        exact hrun
      · rw [decidedBy_work, hdecided]
        simp [hk]
      · dsimp only
        rw [framesOf_work, ← hframes, Function.update_of_ne (Ne.symm hk)]

theorem shardsInv_run {es : List (ShardInput × ShardOutput)} {st : Shards}
    (hrun : Run cfg.ShardStep Shards.start es st) : cfg.ShardsInv es st := by
  refine Run.history (P := cfg.ShardsInv) (shardsInv_start cfg) ?_ hrun
  intro es s i o s' _ ih hstep
  cases hstep with
  | queue hports => exact shardsInv_queue ih hports
  | pass hports => exact shardsInv_pass ih hports
  | work k hqueue hclassify => exact shardsInv_work ih hqueue hclassify

theorem mem_decidedBy {es : List (ShardInput × ShardOutput)} {k n : Nat} {b : Bool} :
    (n, b) ∈ decidedBy k es ↔ (.work k, .decided n b) ∈ es := by
  simp only [decidedBy, List.mem_filterMap]
  constructor
  · rintro ⟨⟨i, o⟩, hmem, h⟩
    split at h
    · rename_i k' n' b' heq
      obtain ⟨rfl, rfl⟩ := Prod.mk.inj heq
      split at h
      · rename_i hk
        subst hk
        obtain ⟨rfl, rfl⟩ := Prod.mk.inj (Option.some.inj h)
        exact hmem
      · exact nomatch h
    · exact nomatch h
  · intro hmem
    exact ⟨_, hmem, by simp⟩

section Decisions

variable {es : List (ShardInput × ShardOutput)} {st : Shards} {log : List (Bytes × Bool)}
  {cache : InlineCache}

/-- **A worker's decisions are the single worker's**, on its own frames. -/
theorem decided_of_log (hinv : cfg.ShardsInv es st) (hlog : Run cfg.ClassifyStep ∅ log cache)
    (hsame : log.map Prod.fst = framesOf es) (hkeys : (sourceKeys (framesOf es)).card < 10000)
    {k n : Nat} {b : Bool} (hmem : (n, b) ∈ decidedBy k es) :
    ∃ data, log[n]? = some (data, b) := by
  obtain ⟨own, hrun, hdecided, hframes⟩ := hinv.worker k
  have hnumbered : Run cfg.NumberedStep ∅ (numberedLog log) cache := by
    rw [← run_map_iff Prod.snd, numberedLog_log]
    exact hlog
  have hknown : ∀ x ∈ numberedLog log, ∀ h, ReadsAs x.1.2 h →
      h.key ∈ sourceKeys (framesOf es) := by
    rintro ⟨⟨n, data⟩, b⟩ hx h hr
    refine mem_sourceKeys hr ?_
    rw [← hsame]
    exact List.mem_map_of_mem (List.mem_of_getElem? (mem_numberedLog.mp hx))
  obtain ⟨cache', hshard⟩ := shard_run k hnumbered (fun _ _ => Iff.rfl)
    ⟨Finset.empty_subset _, Finset.empty_subset _, hkeys⟩ hknown
  -- the worker's own run is the first part of that one
  have hfst : (cfg.shardLog k (numberedLog log)).map Prod.fst = own.map Prod.fst ++ st.queues k := by
    rw [shardLog_fst, hsame, hframes]
  rw [← List.take_append_drop own.length (cfg.shardLog k (numberedLog log))] at hshard
  obtain ⟨cache₁, hfirst, -⟩ := run_append.mp hshard
  have htake : own.map Prod.fst =
      ((cfg.shardLog k (numberedLog log)).take own.length).map Prod.fst := by
    rw [List.map_take, hfst, List.take_left' (List.length_map _)]
  have hdet : ∀ c x b b' c' c'', cfg.NumberedStep c x b c' → cfg.NumberedStep c x b' c'' →
      b = b' ∧ c' = c'' := fun _ _ _ _ _ _ h₁ h₂ => classifyStep_unique h₁ h₂
  obtain ⟨hown, -⟩ := Run.unique hdet hrun hfirst htake
  rw [hdecided, hown] at hmem
  obtain ⟨x, hx, heq⟩ := List.mem_map.mp hmem
  obtain ⟨rfl, rfl⟩ := Prod.mk.inj heq
  obtain ⟨⟨⟨n, data⟩, b⟩, hy, rfl⟩ := List.mem_map.mp (List.mem_of_mem_take hx)
  exact ⟨data, mem_numberedLog.mp (List.mem_filter.mp hy).1⟩

/-- The single worker bypasses a frame whose ports cannot be read. -/
theorem bypassed_of_log (hlog : Run cfg.ClassifyStep ∅ log cache) {n : Nat} {data : Bytes}
    (hdata : (log.map Prod.fst)[n]? = some data) (hports : parsePorts data = .ok none) :
    log[n]? = some (data, false) := by
  rw [List.getElem?_map, Option.map_eq_some_iff] at hdata
  obtain ⟨⟨data', b⟩, hget, rfl⟩ := hdata
  obtain ⟨c, c', hstep⟩ := hlog.step_of_mem (List.mem_of_getElem? hget)
  rcases classifyStep_cases hstep with ⟨h, hr, -⟩ | ⟨-, rfl, -⟩
  · exact absurd hr (parsePorts_none_iff.mp hports h)
  · exact hget

/-- No frame is lost. -/
theorem frame_accounted (hinv : cfg.ShardsInv es st) {n : Nat} (hn : n < (framesOf es).length) :
    (∃ i, (i, .passed n) ∈ es) ∨ (∃ k b, (.work k, .decided n b) ∈ es) ∨
      ∃ k data, (n, data) ∈ st.queues k := by
  obtain ⟨data, hdata⟩ : ∃ data, (framesOf es)[n]? = some data :=
    ⟨_, List.getElem?_eq_getElem hn⟩
  obtain ⟨r, hr, -⟩ := parsePorts_spec data
  cases r with
  | none => exact Or.inl ((hinv.passed n).mpr ⟨data, hdata, hr⟩)
  | some ports =>
    refine Or.inr ?_
    have hshard : cfg.shardOf data = some (cfg.workerId ports.1) := by simp [shardOf, hr]
    obtain ⟨own, -, hdecided, hframes⟩ := hinv.worker (cfg.workerId ports.1)
    have hmem : (n, data.take maxPacketSize) ∈
        cfg.shardFrames (cfg.workerId ports.1) (framesOf es) := by
      refine List.mem_map.mpr ⟨(n, data), List.mem_filter.mpr ⟨mem_numbered.mpr hdata, ?_⟩, rfl⟩
      simp [hshard]
    rw [← hframes] at hmem
    rcases List.mem_append.mp hmem with hmem | hmem
    · obtain ⟨⟨x, b⟩, hx, rfl⟩ := List.mem_map.mp hmem
      refine Or.inl ⟨cfg.workerId ports.1, b, mem_decidedBy.mp ?_⟩
      rw [hdecided]
      exact List.mem_map.mpr ⟨_, hx, rfl⟩
    · exact Or.inr ⟨_, _, hmem⟩

/-- **Sharding does not change decisions.**  Whatever the order in which the reader and the workers
take their turns, a worker decides each frame as one worker with a single cache decides it, and
that one bypasses the frames that the reader sends on; and every frame is sent on, decided, or
still in a queue. -/
theorem sharded_decisions (hrun : Run cfg.ShardStep Shards.start es st)
    (hlog : Run cfg.ClassifyStep ∅ log cache) (hsame : log.map Prod.fst = framesOf es)
    (hkeys : (sourceKeys (framesOf es)).card < 10000) :
    (∀ k n b, (.work k, .decided n b) ∈ es → ∃ data, log[n]? = some (data, b)) ∧
      (∀ i n, (i, .passed n) ∈ es → ∃ data, log[n]? = some (data, false)) ∧
      ∀ n < log.length, (∃ i, (i, .passed n) ∈ es) ∨ (∃ k b, (.work k, .decided n b) ∈ es) ∨
        ∃ k data, (n, data) ∈ st.queues k := by
  have hinv := shardsInv_run hrun
  refine ⟨?_, ?_, ?_⟩
  · intro k n b hmem
    exact decided_of_log hinv hlog hsame hkeys (mem_decidedBy.mpr hmem)
  · intro i n hmem
    obtain ⟨data, hdata, hports⟩ := (hinv.passed n).mp ⟨i, hmem⟩
    exact ⟨data, bypassed_of_log hlog (hsame ▸ hdata) hports⟩
  · intro n hn
    refine frame_accounted hinv ?_
    rwa [← hsame, List.length_map]

end Decisions

end ShardConfig

/-- Two workers, UDP tunnelling alone, and nothing in the snapshot or the address sets. -/
def twoWorkers : ShardConfig := ⟨SharedState.fresh [], ProcessSnapshot.empty ∅, false, true, 2⟩

/-- A datagram from one socket. -/
def datagramTo (dstIp : Ipv4Addr) (dstPort : UInt16) : PacketHeader :=
  ⟨.udp, ⟨192, 168, 1, 10⟩, dstIp, 51001, dstPort, false⟩

/-- A game server is reached, and then another host from the same socket: the second datagram is
tunnelled because of the first, and so it is by the worker that has both. -/
theorem second_datagram_tunneled :
    ∃ es st, Run twoWorkers.ShardStep Shards.start es st ∧
      (.work 1, .decided 1 true) ∈ es ∧
        ∃ log cache, Run twoWorkers.ClassifyStep ∅ log cache ∧
          log.map Prod.fst = ShardConfig.framesOf es ∧ ∃ data, log[1]? = some (data, true) := by
  have hgame : twoWorkers.ClassifyStep ∅ (frameOf (datagramTo ⟨128, 116, 1, 1⟩ 50000) []) true
      {(⟨192, 168, 1, 10⟩, 51001, .udp)} := rfl
  have hother : twoWorkers.ClassifyStep {(⟨192, 168, 1, 10⟩, 51001, .udp)}
      (frameOf (datagramTo ⟨8, 8, 8, 8⟩ 9999) []) true {(⟨192, 168, 1, 10⟩, 51001, .udp)} := rfl
  have hports : ∀ dstIp dstPort,
      parsePorts (frameOf (datagramTo dstIp dstPort) []) = .ok (some (51001, dstPort)) :=
    fun _ _ => parsePorts_some_iff.mpr ⟨_, frameOf_reads (by simp [datagramTo]) [], rfl⟩
  obtain ⟨es, st, hrun, hmem, hframes⟩ : ∃ es st, Run twoWorkers.ShardStep Shards.start es st ∧
      (.work 1, .decided 1 true) ∈ es ∧
        ShardConfig.framesOf es = [frameOf (datagramTo ⟨128, 116, 1, 1⟩ 50000) [],
          frameOf (datagramTo ⟨8, 8, 8, 8⟩ 9999) []] := by
    refine ⟨_, _,
      Run.cons (ShardConfig.ShardStep.queue (hports ⟨128, 116, 1, 1⟩ 50000))
        (Run.cons (ShardConfig.ShardStep.queue (hports ⟨8, 8, 8, 8⟩ 9999))
          (Run.cons (ShardConfig.ShardStep.work 1 rfl
            (ShardConfig.classifyStep_take.mpr hgame))
              (Run.cons (ShardConfig.ShardStep.work 1 rfl
                (ShardConfig.classifyStep_take.mpr hother)) (Run.nil _)))), ?_, rfl⟩
    simp [Shards.start]
  have hlog := Run.cons hgame (Run.cons hother (Run.nil _))
  have hkeys : (sourceKeys (ShardConfig.framesOf es)).card < 10000 := by
    rw [hframes]
    decide +kernel
  refine ⟨es, st, hrun, hmem, _, _, hlog, hframes.symm, ?_⟩
  exact (ShardConfig.sharded_decisions hrun hlog hframes.symm hkeys).1 1 1 true hmem

end SwiftTunnel
