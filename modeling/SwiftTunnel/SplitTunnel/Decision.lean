/-
# Which frames are tunnelled

`classify_packet` decides in seven ordered phases, and some of them hide others.  This module
gives the decision without the order: `Admissible` holds the rules that every tunnelled frame
meets, and `Reason` the rules of which one is enough.

The phases are gone through once, in `classifyHeader_iff`.  Phase 4 tests what phase 1 has tested
before it, and the cache of phase 2 was filled by earlier frames, so it is a reason of its own that
later modules trace back to the frame that brought it in (`of_mem_cache`).

* `classifyPacket_exact`: the two together are the decision, on every frame, with every cache.
* `classifyPacket_reads`: the same for a frame that reads as a given header.
* `mem_cache_of_foreign`: how the key of a socket that is not a tunnel app's gets into a cache, by
  induction over the calls since the cache was empty.
* `foreign_socket_bypassed_iff`: when such a socket is left alone.

The snapshot of processes is a parameter.  How it comes about is in `ProcessCache`, and when a
worker looks for a new one is in `Worker`.
-/
import SwiftTunnel.Lib.Run
import SwiftTunnel.SplitTunnel.Classify

namespace SwiftTunnel

open Rust

/-! ## 1. The rules -/

/-- The rules that no positive rule overrides. -/
structure Admissible (g : SharedState) (api udp : Bool) (h : PacketHeader) : Prop where
  enabled : h.protocol = .udp → udp = true
  notExcluded : h.dstIp ∉ g.excludedIps
  notDirect : ¬ (h.protocol = .tcp ∧ h.dstIp ∈ g.directOnlyBootstrapIps)
  notDns : h.dstPort ≠ 53
  carried : h.protocol = .udp ∨ api = true

/-- The snapshot gives the source socket to a tunnel app. -/
def Owned (s : ProcessSnapshot) (h : PacketHeader) : Prop :=
  ∃ pid, s.ownerPid h.srcIp h.srcPort h.protocol = some pid ∧ s.isTunnelPid pid = true

/-- A UDP frame from a port on which a tunnel app listens, on whatever address. -/
def OnTunnelPort (s : ProcessSnapshot) (h : PacketHeader) : Prop :=
  h.protocol = .udp ∧ h.srcPort ∈ s.tunnelUdpPorts

/-- The destination is in `ROBLOX_RANGES`, and on a game port when it is UDP. -/
def ToGameServer (h : PacketHeader) : Prop :=
  isRobloxGameServerIp h.dstIp = true ∧ (h.protocol = .udp → 49152 ≤ h.dstPort)

/-- The first segment of a web connection to a repaired bootstrap address, with a tunnel app
configured. -/
structure BootstrapSyn (g : SharedState) (s : ProcessSnapshot) (h : PacketHeader) : Prop where
  tcp : h.protocol = .tcp
  syn : h.isTcpInitialSyn = true
  port : h.dstPort = 80 ∨ h.dstPort = 443
  active : h.dstIp ∈ g.activeBootstrapIps
  app : s.tunnelApps ≠ ∅

/-- The rules of which one is enough. -/
inductive Reason (g : SharedState) (s : ProcessSnapshot) (cache : InlineCache) (h : PacketHeader) :
    Prop
  | owned (ho : Owned s h)
  | cached (hc : h.key ∈ cache)
  | tunnelPort (hp : OnTunnelPort s h)
  | gameServer (hg : ToGameServer h)
  | bootstrapSyn (hb : BootstrapSyn g s h)

theorem isExcludedIp_iff {g : SharedState} {ip : Ipv4Addr} :
    g.isExcludedIp ip = true ↔ ip ∈ g.excludedIps := decide_eq_true_iff

theorem isActiveBootstrapIp_iff {g : SharedState} {ip : Ipv4Addr} :
    g.isActiveBootstrapIp ip = true ↔ ip ∈ g.activeBootstrapIps := decide_eq_true_iff

theorem isDirectOnlyBootstrapIp_iff {g : SharedState} {ip : Ipv4Addr} :
    g.isDirectOnlyBootstrapIp ip = true ↔ ip ∈ g.directOnlyBootstrapIps := decide_eq_true_iff

theorem shouldTunnelByPortFallback_iff {s : ProcessSnapshot} {h : PacketHeader} :
    s.shouldTunnelByPortFallback h.srcPort h.protocol = true ↔ OnTunnelPort s h := by
  simp [ProcessSnapshot.shouldTunnelByPortFallback, OnTunnelPort]

/-- A frame that the port and protocol rules let through goes to a game server by the code's
test when it does by ours. -/
theorem isGameServer_header {h : PacketHeader} {api : Bool} :
    isGameServer h.dstIp h.dstPort h.protocol api = true ↔
      (h.dstPort ≠ 53 ∧ (h.protocol = .udp ∨ api = true)) ∧ ToGameServer h := by
  rw [isGameServer_iff, and_assoc]
  rfl

/-- Phase 1: ownership, or else the destination. -/
theorem shouldTunnelV3_header {s : ProcessSnapshot} {h : PacketHeader} {api : Bool} :
    s.shouldTunnelV3 h.srcIp h.srcPort h.protocol h.dstIp h.dstPort api = true ↔
      (h.dstPort ≠ 53 ∧ (h.protocol = .udp ∨ api = true)) ∧ (Owned s h ∨ ToGameServer h) := by
  have ho := s.isTunnelConnection_iff h.srcIp h.srcPort h.protocol
  unfold ProcessSnapshot.shouldTunnelV3
  split
  · rename_i hc
    rw [isLikelyGameTraffic_iff]
    constructor
    · intro hl
      exact ⟨hl, Or.inl (ho.mp hc)⟩
    · rintro ⟨hl, -⟩
      exact hl
  · rename_i hc
    rw [isGameServer_header]
    constructor
    · rintro ⟨hl, hg⟩
      exact ⟨hl, Or.inr hg⟩
    · rintro ⟨hl, hown | hg⟩
      · exact absurd (ho.mpr hown) hc
      · exact ⟨hl, hg⟩

/-! ## 2. The decision on a header -/

section Header

variable {g : SharedState} {s : ProcessSnapshot} {cache : InlineCache} {api udp : Bool}
  {h : PacketHeader}

theorem isLikelyGameTraffic_header :
    isLikelyGameTraffic h.dstPort h.protocol api = true ↔
      h.dstPort ≠ 53 ∧ (h.protocol = .udp ∨ api = true) := isLikelyGameTraffic_iff

/-- A frame that passes phases 0 and 0b is admissible when the port and protocol rules let it
through. -/
theorem admissible_iff (hudp : h.protocol = .udp → udp = true) (h0 : ¬ g.isExcludedIp h.dstIp = true)
    (h0b : ¬ (h.protocol = .tcp ∧ g.isDirectOnlyBootstrapIp h.dstIp = true)) :
    Admissible g api udp h ↔ h.dstPort ≠ 53 ∧ (h.protocol = .udp ∨ api = true) := by
  rw [isExcludedIp_iff] at h0
  rw [isDirectOnlyBootstrapIp_iff] at h0b
  constructor
  · intro ha
    exact ⟨ha.notDns, ha.carried⟩
  · rintro ⟨hd, hc⟩
    exact ⟨hudp, h0, h0b, hd, hc⟩

/-- **The decision is the rules**, whatever the order of the phases. -/
theorem classifyHeader_iff (hudp : h.protocol = .udp → udp = true) :
    (classifyHeader g s cache api h).1 = true ↔
      Admissible g api udp h ∧ Reason g s cache h := by
  unfold classifyHeader
  split
  · rename_i h0
    constructor
    · intro e
      exact nomatch e
    · rintro ⟨ha, -⟩
      exact absurd (isExcludedIp_iff.mp h0) ha.notExcluded
  · rename_i h0
    split
    · rename_i h0b
      constructor
      · intro e
        exact nomatch e
      · rintro ⟨ha, -⟩
        exact absurd ⟨h0b.1, isDirectOnlyBootstrapIp_iff.mp h0b.2⟩ ha.notDirect
    · rename_i h0b
      rw [admissible_iff hudp h0 h0b]
      split
      · rename_i h1
        obtain ⟨hl, ho | hg⟩ := shouldTunnelV3_header.mp h1
        · exact ⟨fun _ => ⟨hl, Reason.owned ho⟩, fun _ => rfl⟩
        · exact ⟨fun _ => ⟨hl, Reason.gameServer hg⟩, fun _ => rfl⟩
      · rename_i h1
        rw [shouldTunnelV3_header] at h1
        split
        · rename_i h2
          rw [isLikelyGameTraffic_header]
          exact ⟨fun hl => ⟨hl, Reason.cached h2⟩, fun hl => hl.1⟩
        · rename_i h2
          split
          · rename_i h3
            rw [isLikelyGameTraffic_header]
            exact ⟨fun hl => ⟨hl, Reason.tunnelPort (shouldTunnelByPortFallback_iff.mp h3)⟩,
              fun hl => hl.1⟩
          · rename_i h3
            rw [shouldTunnelByPortFallback_iff] at h3
            split
            · rename_i h4
              obtain ⟨hl, hg⟩ := isGameServer_header.mp h4
              exact ⟨fun _ => ⟨hl, Reason.gameServer hg⟩, fun _ => rfl⟩
            · rename_i h4
              split
              · rename_i h5
                obtain ⟨hapi, htcp, hsyn, hport, happ, hact, -⟩ := h5
                refine ⟨fun _ => ⟨⟨?_, Or.inr hapi⟩, Reason.bootstrapSyn
                  ⟨htcp, hsyn, hport, isActiveBootstrapIp_iff.mp hact, happ⟩⟩, fun _ => rfl⟩
                rcases hport with hport | hport <;> rw [hport] <;> decide
              · rename_i h5
                constructor
                · intro e
                  exact nomatch e
                · rintro ⟨hl, hr⟩
                  -- the phases that were passed leave no rule
                  cases hr with
                  | owned ho => exact absurd ⟨hl, Or.inl ho⟩ h1
                  | cached hc => exact absurd hc h2
                  | tunnelPort hp => exact absurd hp h3
                  | gameServer hg => exact absurd ⟨hl, Or.inr hg⟩ h1
                  | bootstrapSyn hb =>
                    refine absurd ⟨?_, hb.tcp, hb.syn, hb.port, hb.app,
                      isActiveBootstrapIp_iff.mpr hb.active, ?_⟩ h5
                    · rcases hl.2 with hu | hapi
                      · rw [hb.tcp] at hu
                        exact nomatch hu
                      · exact hapi
                    · by_contra hd
                      exact h0b ⟨hb.tcp, by simpa using hd⟩

/-! ## 3. The cache -/

theorem remember_eq (cache : InlineCache) (k : SourceKey) :
    remember cache k = cache ∨ (remember cache k = insert k cache ∧ cache.card < 10000) := by
  unfold remember
  split
  · rename_i hc
    exact Or.inr ⟨rfl, hc⟩
  · exact Or.inl rfl

theorem mem_remember {cache : InlineCache} {k : SourceKey} (hroom : cache.card < 10000) :
    k ∈ remember cache k := by
  rw [remember, if_pos hroom]
  exact Finset.mem_insert_self k cache

/-- A decision leaves the cache alone, or adds the source of the frame where there is room. -/
theorem classifyHeader_cache (g : SharedState) (s : ProcessSnapshot) (cache : InlineCache)
    (api : Bool) (h : PacketHeader) :
    (classifyHeader g s cache api h).2 = cache ∨
      ((classifyHeader g s cache api h).2 = insert h.key cache ∧ cache.card < 10000) := by
  have hrem := remember_eq cache h.key
  unfold classifyHeader
  repeat' split
  all_goals first | exact Or.inl rfl | exact hrem

/-- What has been cached stays. -/
theorem classifyHeader_cache_subset (g : SharedState) (s : ProcessSnapshot) (cache : InlineCache)
    (api : Bool) (h : PacketHeader) : cache ⊆ (classifyHeader g s cache api h).2 := by
  rcases classifyHeader_cache g s cache api h with e | ⟨e, -⟩
  · rw [e]
  · rw [e]
    exact Finset.subset_insert _ _

/-- A tunnelled frame leaves its source in the cache, if there is room. -/
theorem mem_cache_of_tunneled (ht : (classifyHeader g s cache api h).1 = true)
    (hroom : cache.card < 10000) : h.key ∈ (classifyHeader g s cache api h).2 := by
  have hmem := mem_remember (k := h.key) hroom
  revert ht
  unfold classifyHeader
  split
  · exact fun ht => nomatch ht
  · split
    · exact fun ht => nomatch ht
    · split
      · exact fun _ => hmem
      · split
        · rename_i h2
          exact fun _ => h2
        · split
          · exact fun _ => hmem
          · split
            · exact fun _ => hmem
            · split
              · exact fun _ => hmem
              · exact fun ht => nomatch ht

/-- A new key is that of the frame, and the frame was let through by the port rule or by one of
the positive rules. -/
theorem of_mem_cache {k : SourceKey} (hudp : h.protocol = .udp → udp = true)
    (hk : k ∈ (classifyHeader g s cache api h).2) (hnew : k ∉ cache) :
    k = h.key ∧ (OnTunnelPort s h ∨
      (Admissible g api udp h ∧ (Owned s h ∨ ToGameServer h ∨ BootstrapSyn g s h))) := by
  have hkey : k = h.key := by
    rcases classifyHeader_cache g s cache api h
      with e | ⟨e, -⟩
    · rw [e] at hk
      exact absurd hk hnew
    · rw [e, Finset.mem_insert] at hk
      exact hk.resolve_right hnew
  subst hkey
  refine ⟨rfl, ?_⟩
  by_cases hp : OnTunnelPort s h
  · exact Or.inl hp
  · refine Or.inr ?_
    have ht : (classifyHeader g s cache api h).1 = true := by
      rw [← shouldTunnelByPortFallback_iff] at hp
      revert hk
      unfold classifyHeader
      split
      · exact fun hk => absurd hk hnew
      · split
        · exact fun hk => absurd hk hnew
        · split
          · exact fun _ => rfl
          · split
            · exact fun _ => rfl
            · split
              · exact fun _ => rfl
              · exact fun hk => absurd hk hnew
    obtain ⟨ha, hr⟩ := (classifyHeader_iff hudp).mp ht
    refine ⟨ha, ?_⟩
    cases hr with
    | owned ho => exact Or.inl ho
    | cached hc => exact absurd hc hnew
    | tunnelPort hp' => exact absurd hp' hp
    | gameServer hg => exact Or.inr (Or.inl hg)
    | bootstrapSyn hb => exact Or.inr (Or.inr hb)

end Header

/-! ## 4. The decision on a frame -/

/-- `classify_packet` returns on every frame: unread frames are bypassed, the others are decided
on their header. -/
theorem classifyPacket_cases (g : SharedState) (data : Bytes) (s : ProcessSnapshot)
    (cache : InlineCache) (api udp : Bool) :
    (∃ h, ReadsAs data h ∧ (h.protocol = .udp → udp = true) ∧
      classifyPacket g data s cache api udp = .ok (classifyHeader g s cache api h)) ∨
    ((∀ h, ReadsAs data h → ¬ (h.protocol = .udp → udp = true)) ∧
      classifyPacket g data s cache api udp = .ok (false, cache)) := by
  obtain ⟨r, hr, hspec⟩ := readHeader_spec data udp
  unfold classifyPacket
  rw [hr]
  cases r with
  | none =>
    refine Or.inr ⟨fun h hh hu => ?_, rfl⟩
    exact nomatch (hspec h).mpr ⟨hh, hu⟩
  | some h =>
    obtain ⟨hh, hu⟩ := (hspec h).mp rfl
    exact Or.inl ⟨h, hh, hu, rfl⟩

/-- What has been cached stays. -/
theorem classifyPacket_ok (g : SharedState) (data : Bytes) (s : ProcessSnapshot)
    (cache : InlineCache) (api udp : Bool) :
    ∃ b cache', classifyPacket g data s cache api udp = .ok (b, cache') ∧ cache ⊆ cache' := by
  rcases classifyPacket_cases g data s cache api udp with ⟨h, -, -, e⟩ | ⟨-, e⟩
  · exact ⟨_, _, e, classifyHeader_cache_subset g s cache api h⟩
  · exact ⟨_, _, e, Finset.Subset.refl cache⟩

/-- On a frame that reads as `h`, the decision is the rules of `h`. -/
theorem classifyPacket_reads (g : SharedState) {data : Bytes} (s : ProcessSnapshot)
    (cache : InlineCache) (api udp : Bool) {h : PacketHeader} (hr : ReadsAs data h) :
    ∃ b c', classifyPacket g data s cache api udp = .ok (b, c') ∧
      (b = true ↔ Admissible g api udp h ∧ Reason g s cache h) := by
  rcases classifyPacket_cases g data s cache api udp with ⟨h', hr', hu, e⟩ | ⟨hno, e⟩
  · obtain rfl := hr.unique hr'
    exact ⟨(classifyHeader g s cache api h).1, (classifyHeader g s cache api h).2, e,
      classifyHeader_iff hu⟩
  · refine ⟨false, cache, e, ?_⟩
    constructor
    · intro hf
      exact nomatch hf
    · rintro ⟨ha, -⟩
      exact absurd ha.enabled (hno h hr)

/-- **The exact tunnel decision.**  On every byte string `classify_packet` returns; it answers
yes exactly on the frames that are admissible and have a reason, and it adds at most the source
of the frame to a cache that never outgrows 10000 entries. -/
theorem classifyPacket_exact (g : SharedState) (data : Bytes) (s : ProcessSnapshot)
    (cache : InlineCache) (api udp : Bool) :
    ∃ b cache', classifyPacket g data s cache api udp = .ok (b, cache') ∧
      (b = true ↔ ∃ h, ReadsAs data h ∧ Admissible g api udp h ∧ Reason g s cache h) ∧
      (cache' = cache ∨ ∃ h, ReadsAs data h ∧ cache' = insert h.key cache) ∧
      cache'.card ≤ max cache.card 10000 := by
  rcases classifyPacket_cases g data s cache api udp with ⟨h, hr, hu, e⟩ | ⟨hno, e⟩
  · refine ⟨(classifyHeader g s cache api h).1, (classifyHeader g s cache api h).2, e, ?_, ?_, ?_⟩
    · rw [classifyHeader_iff hu]
      constructor
      · rintro ⟨ha, hre⟩
        exact ⟨h, hr, ha, hre⟩
      · rintro ⟨h', hr', ha, hre⟩
        obtain rfl := hr.unique hr'
        exact ⟨ha, hre⟩
    · rcases classifyHeader_cache g s cache api h
        with e' | ⟨e', -⟩
      · exact Or.inl e'
      · exact Or.inr ⟨h, hr, e'⟩
    · rcases classifyHeader_cache g s cache api h
        with e' | ⟨e', hroom⟩
      · rw [e']
        exact le_max_left _ _
      · rw [e']
        have := Finset.card_insert_le h.key cache
        omega
  · refine ⟨false, cache, e, ?_, Or.inl rfl, le_max_left _ _⟩
    constructor
    · intro hf
      exact nomatch hf
    · rintro ⟨h, hr, ha, -⟩
      exact absurd ha.enabled (hno h hr)

/-! ## 5. Sockets of other processes -/

/-- One call of `classify_packet`: what it is given beside the snapshot and the cache. -/
structure ClassifyCall where
  shared : SharedState
  data : Bytes
  api : Bool
  udp : Bool

/-- A call under the snapshot `s`, from one cache to the next. -/
def ClassifyStep (s : ProcessSnapshot) (cache : InlineCache) (k : ClassifyCall) (b : Bool)
    (cache' : InlineCache) : Prop :=
  classifyPacket k.shared k.data s cache k.api k.udp = .ok (b, cache')

/-- The snapshot gives the source socket to a process that it can name and that is no tunnel
app. -/
def Foreign (s : ProcessSnapshot) (h : PacketHeader) : Prop :=
  ∃ pid name, s.ownerPid h.srcIp h.srcPort h.protocol = some pid ∧
    s.pidNames.lookup pid = some name ∧ s.isTunnelPid pid = false

theorem Foreign.not_owned {s : ProcessSnapshot} {h : PacketHeader} (hf : Foreign s h) :
    ¬ Owned s h := by
  obtain ⟨pid, name, ho, -, hn⟩ := hf
  rintro ⟨pid', ho', ht⟩
  rw [ho] at ho'
  obtain rfl := Option.some.inj ho'
  rw [hn] at ht
  exact nomatch ht

/-- Ownership and the port rule look at the source of a frame only. -/
theorem owned_congr {s : ProcessSnapshot} {h h' : PacketHeader} (hk : h.key = h'.key) :
    Owned s h ↔ Owned s h' := by
  simp only [PacketHeader.key, Prod.mk.injEq] at hk
  simp only [Owned, hk.1, hk.2.1, hk.2.2]

theorem onTunnelPort_congr {s : ProcessSnapshot} {h h' : PacketHeader} (hk : h.key = h'.key) :
    OnTunnelPort s h ↔ OnTunnelPort s h' := by
  simp only [PacketHeader.key, Prod.mk.injEq] at hk
  simp only [OnTunnelPort, hk.2.1, hk.2.2]

/-- **How the key of another process gets into the cache.**  Only a frame from the same socket
that was tunnelled for its destination can have put it there. -/
theorem mem_cache_of_foreign {s : ProcessSnapshot} {h : PacketHeader} (ho : ¬ Owned s h)
    (hp : ¬ OnTunnelPort s h) {es : List (ClassifyCall × Bool)} {c c' : InlineCache}
    (hrun : Run (ClassifyStep s) c es c') (hc : h.key ∈ c') :
    h.key ∈ c ∨ ∃ e ∈ es, ∃ h', ReadsAs e.1.data h' ∧ h'.key = h.key ∧
      Admissible e.1.shared e.1.api e.1.udp h' ∧ (ToGameServer h' ∨ BootstrapSyn e.1.shared s h') := by
  induction hrun with
  | nil c => exact Or.inl hc
  | @cons c c1 c2 k b es hstep hrest ih =>
    rcases ih hc with hin | ⟨e, he, hx⟩
    · by_cases hold : h.key ∈ c
      · exact Or.inl hold
      · refine Or.inr ⟨(k, b), List.mem_cons_self, ?_⟩
        rcases classifyPacket_cases k.shared k.data s c k.api k.udp with ⟨h', hr', hu, e⟩ | ⟨-, e⟩
        · rw [ClassifyStep, e, Except.ok.injEq] at hstep
          have hin' : h.key ∈ (classifyHeader k.shared s c k.api h').2 := by
            rw [hstep]
            exact hin
          obtain ⟨hkey, hwhy⟩ := of_mem_cache hu hin' hold
          refine ⟨h', hr', hkey.symm, ?_⟩
          rcases hwhy with hport | ⟨ha, hown | hdst⟩
          · exact absurd ((onTunnelPort_congr hkey).mpr hport) hp
          · exact absurd ((owned_congr hkey).mpr hown) ho
          · exact ⟨ha, hdst⟩
        · rw [ClassifyStep, e, Except.ok.injEq, Prod.mk.injEq] at hstep
          exact absurd (hstep.2 ▸ hin) hold
    · exact Or.inr ⟨e, List.mem_cons_of_mem _ he, hx⟩

/-- **When a socket of another process is left alone.**  A frame from it is bypassed unless it
is admissible and its destination is a game server, or it opens a connection to a bootstrap
address, or its source is cached, which only an earlier frame of that kind brings about. -/
theorem foreign_socket_bypassed_iff (s : ProcessSnapshot) (es : List (ClassifyCall × Bool))
    (cache : InlineCache) (hrun : Run (ClassifyStep s) ∅ es cache) (g : SharedState) (data : Bytes)
    (api udp : Bool) (h : PacketHeader) (hr : ReadsAs data h) (hf : Foreign s h)
    (hp : h.srcPort ∉ s.tunnelUdpPorts) :
    ((∃ cache', classifyPacket g data s cache api udp = .ok (false, cache')) ↔
      ¬ (Admissible g api udp h ∧ (ToGameServer h ∨ BootstrapSyn g s h ∨ h.key ∈ cache))) ∧
    (h.key ∈ cache → ∃ e ∈ es, ∃ h', ReadsAs e.1.data h' ∧ h'.key = h.key ∧
      Admissible e.1.shared e.1.api e.1.udp h' ∧
        (ToGameServer h' ∨ BootstrapSyn e.1.shared s h')) := by
  have hnp : ¬ OnTunnelPort s h := fun hport => hp hport.2
  constructor
  · obtain ⟨b, c', e, hb⟩ := classifyPacket_reads g s cache api udp hr
    have hreason : Reason g s cache h ↔ (ToGameServer h ∨ BootstrapSyn g s h ∨ h.key ∈ cache) := by
      constructor
      · intro hre
        cases hre with
        | owned ho => exact absurd ho hf.not_owned
        | cached hc => exact Or.inr (Or.inr hc)
        | tunnelPort hport => exact absurd hport hnp
        | gameServer hg => exact Or.inl hg
        | bootstrapSyn hbs => exact Or.inr (Or.inl hbs)
      · rintro (hg | hbs | hc)
        · exact Reason.gameServer hg
        · exact Reason.bootstrapSyn hbs
        · exact Reason.cached hc
    rw [← hreason, ← hb, Bool.not_eq_true, e]
    constructor
    · rintro ⟨c2, e2⟩
      exact (Prod.mk.inj (Except.ok.inj e2)).1
    · rintro rfl
      exact ⟨c', rfl⟩
  · intro hc
    rcases mem_cache_of_foreign hf.not_owned hnp hrun hc with hempty | hx
    · exact absurd hempty (Finset.notMem_empty _)
    · exact hx

/-- The snapshot after one update, with the game as the only tunnel app, in which the given
process owns the UDP socket `192.168.1.5:50000`. -/
def udpSocketSnapshot (name : String) : ProcessSnapshot :=
  ((LockFreeProcessCache.new toAsciiLowercase ["RobloxPlayerBeta.exe"]).update toAsciiLowercase
    ((∅ : Map ConnectionKey Pid).insert ⟨⟨192, 168, 1, 5⟩, 50000, .udp⟩ 7)
    ((∅ : Map Pid String).insert 7 name)).current

/-- A UDP datagram from that socket to a port of an address in `ROBLOX_RANGES`. -/
def udpToGameServer (dstPort : UInt16) : PacketHeader :=
  ⟨.udp, ⟨192, 168, 1, 5⟩, ⟨128, 116, 1, 1⟩, 50000, dstPort, false⟩

/-- A browser's datagram to a game server is tunnelled, although the snapshot knows its owner. -/
theorem browser_datagram_tunneled :
    Foreign (udpSocketSnapshot "Chrome.exe") (udpToGameServer 50001) ∧
      (50000 : UInt16) ∉ (udpSocketSnapshot "Chrome.exe").tunnelUdpPorts ∧
      ReadsAs (frameOf (udpToGameServer 50001) []) (udpToGameServer 50001) ∧
      (classifyPacket (SharedState.fresh []) (frameOf (udpToGameServer 50001) [])
        (udpSocketSnapshot "Chrome.exe") ∅ false true).map Prod.fst = .ok true := by
  refine ⟨⟨7, "chrome.exe", by decide, by decide, by decide⟩, by decide, ?_, by decide⟩
  exact frameOf_reads (by decide) []

/-- The same socket, and a datagram to a port outside the game range: it is left alone. -/
theorem browser_other_port_bypassed :
    ((∃ cache', classifyPacket (SharedState.fresh []) (frameOf (udpToGameServer 443) [])
        (udpSocketSnapshot "Chrome.exe") ∅ false true = .ok (false, cache')) ↔
      ¬ (Admissible (SharedState.fresh []) false true (udpToGameServer 443) ∧
        (ToGameServer (udpToGameServer 443) ∨
          BootstrapSyn (SharedState.fresh []) (udpSocketSnapshot "Chrome.exe") (udpToGameServer 443) ∨
          (udpToGameServer 443).key ∈ (∅ : InlineCache)))) ∧
    ((udpToGameServer 443).key ∈ (∅ : InlineCache) →
      ∃ e ∈ ([] : List (ClassifyCall × Bool)), ∃ h', ReadsAs e.1.data h' ∧
        h'.key = (udpToGameServer 443).key ∧ Admissible e.1.shared e.1.api e.1.udp h' ∧
          (ToGameServer h' ∨ BootstrapSyn e.1.shared (udpSocketSnapshot "Chrome.exe") h')) :=
  foreign_socket_bypassed_iff (udpSocketSnapshot "Chrome.exe") [] ∅ (Run.nil ∅)
    (SharedState.fresh []) (frameOf (udpToGameServer 443) []) false true (udpToGameServer 443)
    (frameOf_reads (by decide) []) ⟨7, "chrome.exe", by decide, by decide, by decide⟩ (by decide)

end SwiftTunnel
