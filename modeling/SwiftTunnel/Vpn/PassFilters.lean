/-
# Pass filters for the system disk

`diskless_passthrough.rs`.  On a machine that runs from a network disk, the driver is told to hand
the disk's packets straight through.  The owner tables give the flows of the `System` process; for
each remote end of a TCP session and each UDP port two filters are made, one for each direction.

A filter looks at a part of a packet only, so that a filter for one flow may match a packet of
another.  The comment at the top of the file says that it never does, as ports are exclusive.  They
are exclusive on the local side, and a UDP filter has the local port; a TCP filter has the remote
end, which two processes can share.

The driver's rule for a filter is documented with its API and given here as `StaticFilter.covers`.
What the filters of one flow match is read off it once (`tcpEndpointPassFilters_covers`,
`udpPortPassFilters_covers`), and which flows filters are made for, with the caps on their number, is
`mem_dedupAndCap` and `FilteredEndpoint`.

* `game_traffic_unmatched_iff`: when no packet of another process matches a filter.
* `shared_server_matched`: a game that talks to the server of the disk.

The owner tables are read before the filters are installed; a flow that comes later has no filter,
and one that ends keeps its filter.  Neither is followed here.
-/
import Mathlib.Data.Finset.Card
import Mathlib.Data.Finset.Dedup
import SwiftTunnel.Net

namespace SwiftTunnel

open Rust

/-! ## 1. Static filters -/

/-- `IpAddressV4` of ndisapi. -/
inductive IpAddressV4 where
  /-- `IpAddressV4::default()`. -/
  | unset
  | subnet (ip mask : Ipv4Addr)
  deriving DecidableEq, Repr

/-- `IpV4FilterFlags`: the fields of a filter that are looked at. -/
structure IpV4FilterFlags where
  srcAddress : Bool
  destAddress : Bool
  protocol : Bool
  deriving DecidableEq, Repr

structure IpV4Filter where
  validFields : IpV4FilterFlags
  srcAddress : IpAddressV4
  destAddress : IpAddressV4
  protocol : UInt8
  deriving DecidableEq, Repr

structure PortRange where
  startRange : UInt16
  endRange : UInt16
  deriving DecidableEq, Repr

/-- `PortRange::default()`. -/
def PortRange.unset : PortRange := ⟨0, 0⟩

/-- `TcpUdpFilterFlags`; the flag for the TCP flags is never set. -/
structure TcpUdpFilterFlags where
  srcPort : Bool
  destPort : Bool
  deriving DecidableEq, Repr

structure TcpUdpFilter where
  validFields : TcpUdpFilterFlags
  sourcePort : PortRange
  destPort : PortRange
  tcpFlags : UInt8
  deriving DecidableEq, Repr

inductive FilterAction where
  /-- `FILTER_PACKET_PASS`. -/
  | pass
  | drop
  | redirect
  deriving DecidableEq, Repr

structure FilterLayerFlags where
  dataLink : Bool
  network : Bool
  transport : Bool
  deriving DecidableEq, Repr

/-- `StaticFilter`, whose data link part is always the default. -/
structure StaticFilter where
  adapterHandle : UInt64
  directionFlags : DirectionFlags
  filterAction : FilterAction
  validFields : FilterLayerFlags
  networkFilter : IpV4Filter
  transportFilter : TcpUdpFilter
  deriving DecidableEq, Repr

def systemPid : Pid := 4

def maxTcpEndpoints : Nat := 32

def maxUdpPorts : Nat := 24

def ipprotoTcp : UInt8 := 6

def ipprotoUdp : UInt8 := 17

/-- An exact-host match. -/
def hostAddress (ip : Ipv4Addr) : IpAddressV4 := .subnet ip ⟨255, 255, 255, 255⟩

def singlePort (port : UInt16) : PortRange := ⟨port, port⟩

/-- A filter that lets packets of this shape pass. -/
def passFilter (adapterHandle : UInt64) (direction : DirectionFlags) (network : IpV4Filter)
    (transport : TcpUdpFilter) : StaticFilter where
  adapterHandle := adapterHandle
  directionFlags := direction
  filterAction := .pass
  validFields := ⟨false, true, true⟩
  networkFilter := network
  transportFilter := transport

def tcpEndpointPassFilters (adapterHandle : UInt64) (ip : Ipv4Addr) (port : UInt16) :
    List StaticFilter :=
  [passFilter adapterHandle .onSend
      ⟨⟨false, true, true⟩, .unset, hostAddress ip, ipprotoTcp⟩
      ⟨⟨false, true⟩, .unset, singlePort port, 0⟩,
    passFilter adapterHandle .onReceive
      ⟨⟨true, false, true⟩, hostAddress ip, .unset, ipprotoTcp⟩
      ⟨⟨true, false⟩, singlePort port, .unset, 0⟩]

def udpPortPassFilters (adapterHandle : UInt64) (localPort : UInt16) : List StaticFilter :=
  [passFilter adapterHandle .onSend
      ⟨⟨false, false, true⟩, .unset, .unset, ipprotoUdp⟩
      ⟨⟨true, false⟩, singlePort localPort, .unset, 0⟩,
    passFilter adapterHandle .onReceive
      ⟨⟨false, false, true⟩, .unset, .unset, ipprotoUdp⟩
      ⟨⟨false, true⟩, .unset, singlePort localPort, 0⟩]

/-- `build_pass_filters`. -/
def buildPassFilters (adapterHandle : UInt64) (tcpEndpoints : List (Ipv4Addr × UInt16))
    (udpPorts : List UInt16) : List StaticFilter :=
  tcpEndpoints.flatMap (fun e => tcpEndpointPassFilters adapterHandle e.1 e.2) ++
    udpPorts.flatMap (udpPortPassFilters adapterHandle)

/-! ## 2. The flows of the machine -/

/-- `MIB_TCPROW_OWNER_PID`. -/
structure TcpRow where
  state : UInt32
  localAddr : Ipv4Addr
  localPort : UInt16
  remoteAddr : Ipv4Addr
  remotePort : UInt16
  owningPid : Pid
  deriving DecidableEq, Repr

/-- `MIB_UDPROW_OWNER_PID`. -/
structure UdpRow where
  localAddr : Ipv4Addr
  localPort : UInt16
  owningPid : Pid
  deriving DecidableEq, Repr

/-- `TCP_STATE_ESTABLISHED`. -/
def tcpStateEstablished : UInt32 := 5

/-- The loop of `dedup_and_cap`. -/
def dedupInto {α : Type} [DecidableEq α] (cap : Nat) : List α → List α → List α
  | out, [] => out
  | out, item :: items =>
    if item ∈ out then dedupInto cap out items
    else if cap ≤ (out ++ [item]).length then out ++ [item]
    else dedupInto cap (out ++ [item]) items

def dedupAndCap {α : Type} [DecidableEq α] (items : List α) (cap : Nat) : List α :=
  dedupInto cap [] items

def isProtectableRemote (ip : Ipv4Addr) : Bool :=
  !(ip.isLoopback || ip == Ipv4Addr.unspecified || ip.isMulticast || ip.isBroadcast)

/-- The remote ends of the established TCP sessions of `System`. -/
def systemTcpEndpoints (tcp : List TcpRow) : List (Ipv4Addr × UInt16) :=
  (tcp.filter fun entry => entry.owningPid == systemPid && entry.state == tcpStateEstablished &&
    isProtectableRemote entry.remoteAddr && entry.remotePort != 0).map fun entry =>
      (entry.remoteAddr, entry.remotePort)

/-- The UDP ports of `System`. -/
def systemUdpPorts (udp : List UdpRow) : List UInt16 :=
  (udp.filter fun entry => entry.owningPid == systemPid && entry.localPort != 0).map (·.localPort)

/-- `collect_system_flows`, on the rows of the owner tables; a table that cannot be read has none. -/
def collectSystemFlows (tcp : List TcpRow) (udp : List UdpRow) :
    List (Ipv4Addr × UInt16) × List UInt16 :=
  (dedupAndCap (systemTcpEndpoints tcp) maxTcpEndpoints,
    dedupAndCap (systemUdpPorts udp) maxUdpPorts)

/-! ## 3. Which packets a filter matches -/

/-- What a filter sees of an IPv4 packet with ports. -/
structure WirePacket where
  direction : DirectionFlags
  protocol : UInt8
  srcIp : Ipv4Addr
  srcPort : UInt16
  dstIp : Ipv4Addr
  dstPort : UInt16
  deriving DecidableEq, Repr

/-- The bits of an address under a mask. -/
def Ipv4Addr.masked (ip mask : Ipv4Addr) : Ipv4Addr :=
  ⟨ip.a &&& mask.a, ip.b &&& mask.b, ip.c &&& mask.c, ip.d &&& mask.d⟩

def IpAddressV4.covers (address : IpAddressV4) (ip : Ipv4Addr) : Bool :=
  match address with
  | .unset => false
  | .subnet net mask => ip.masked mask == net.masked mask

def PortRange.covers (range : PortRange) (port : UInt16) : Bool :=
  decide (range.startRange ≤ port ∧ port ≤ range.endRange)

def IpV4Filter.covers (f : IpV4Filter) (p : WirePacket) : Bool :=
  (!f.validFields.srcAddress || f.srcAddress.covers p.srcIp) &&
    (!f.validFields.destAddress || f.destAddress.covers p.dstIp) &&
    (!f.validFields.protocol || f.protocol == p.protocol)

def TcpUdpFilter.covers (f : TcpUdpFilter) (p : WirePacket) : Bool :=
  (!f.validFields.srcPort || f.sourcePort.covers p.srcPort) &&
    (!f.validFields.destPort || f.destPort.covers p.dstPort)

/-- The driver's rule: the direction and every field flagged valid match. -/
def StaticFilter.covers (f : StaticFilter) (p : WirePacket) : Bool :=
  f.directionFlags == p.direction &&
    (!f.validFields.network || f.networkFilter.covers p) &&
    (!f.validFields.transport || f.transportFilter.covers p)

/-- A packet of a TCP flow. -/
structure TcpRow.Carries (row : TcpRow) (p : WirePacket) : Prop where
  protocol : p.protocol = ipprotoTcp
  ends : (p.direction = .onSend ∧ (p.srcIp, p.srcPort) = (row.localAddr, row.localPort) ∧
      (p.dstIp, p.dstPort) = (row.remoteAddr, row.remotePort)) ∨
    (p.direction = .onReceive ∧ (p.srcIp, p.srcPort) = (row.remoteAddr, row.remotePort) ∧
      (p.dstIp, p.dstPort) = (row.localAddr, row.localPort))

/-- A packet of a UDP socket, from or to anyone. -/
structure UdpRow.Carries (row : UdpRow) (p : WirePacket) : Prop where
  protocol : p.protocol = ipprotoUdp
  port : (p.direction = .onSend ∧ p.srcPort = row.localPort) ∨
    (p.direction = .onReceive ∧ p.dstPort = row.localPort)

/-- A packet of a flow that is not `System`'s. -/
def OtherPacket (tcp : List TcpRow) (udp : List UdpRow) (p : WirePacket) : Prop :=
  (∃ row ∈ tcp, row.owningPid ≠ systemPid ∧ row.Carries p) ∨
    ∃ row ∈ udp, row.owningPid ≠ systemPid ∧ row.Carries p

/-- Flows of one protocol on one local port have one owner. -/
structure PortsExclusive (tcp : List TcpRow) (udp : List UdpRow) : Prop where
  tcp : ∀ row ∈ tcp, ∀ row' ∈ tcp, row.localPort = row'.localPort → row.owningPid = row'.owningPid
  udp : ∀ row ∈ udp, ∀ row' ∈ udp, row.localPort = row'.localPort → row.owningPid = row'.owningPid

/-- The filters that are made from the owner tables. -/
def systemFilters (adapterHandle : UInt64) (tcp : List TcpRow) (udp : List UdpRow) :
    List StaticFilter :=
  let (tcpEndpoints, udpPorts) := collectSystemFlows tcp udp
  buildPassFilters adapterHandle tcpEndpoints udpPorts

/-! ## 4. What the filters of one flow match -/

theorem hostAddress_covers {ip ip' : Ipv4Addr} :
    (hostAddress ip).covers ip' = true ↔ ip' = ip := by
  have hmask : ∀ ip : Ipv4Addr, ip.masked ⟨255, 255, 255, 255⟩ = ip := by
    rintro ⟨a, b, c, d⟩
    have hoctet : ∀ x : UInt8, x &&& 255 = x := fun x => UInt8.and_neg_one
    rw [Ipv4Addr.masked, hoctet, hoctet, hoctet, hoctet]
  rw [hostAddress, IpAddressV4.covers, hmask, hmask, beq_iff_eq]

theorem singlePort_covers {port port' : UInt16} :
    (singlePort port).covers port' = true ↔ port' = port := by
  rw [PortRange.covers, decide_eq_true_eq, singlePort]
  constructor
  · rintro ⟨hlo, hhi⟩
    exact UInt16.le_antisymm hhi hlo
  · rintro rfl
    exact ⟨UInt16.le_refl _, UInt16.le_refl _⟩

/-- The filters of a TCP session see its remote end. -/
theorem tcpEndpointPassFilters_covers (adapterHandle : UInt64) (ip : Ipv4Addr) (port : UInt16)
    (p : WirePacket) :
    (∃ f ∈ tcpEndpointPassFilters adapterHandle ip port, f.covers p = true) ↔
      p.protocol = ipprotoTcp ∧
        ((p.direction = .onSend ∧ (p.dstIp, p.dstPort) = (ip, port)) ∨
          (p.direction = .onReceive ∧ (p.srcIp, p.srcPort) = (ip, port))) := by
  simp only [tcpEndpointPassFilters, passFilter, List.mem_cons, List.not_mem_nil, or_false,
    exists_eq_or_imp, exists_eq_left, StaticFilter.covers, IpV4Filter.covers, TcpUdpFilter.covers,
    Bool.not_true, Bool.not_false, Bool.false_or, Bool.true_or, Bool.true_and, Bool.and_true,
    Bool.and_eq_true, beq_iff_eq, hostAddress_covers, singlePort_covers, Prod.mk.injEq]
  constructor
  · rintro (⟨⟨hdir, hip, hproto⟩, hport⟩ | ⟨⟨hdir, hip, hproto⟩, hport⟩)
    · exact ⟨hproto.symm, Or.inl ⟨hdir.symm, hip, hport⟩⟩
    · exact ⟨hproto.symm, Or.inr ⟨hdir.symm, hip, hport⟩⟩
  · rintro ⟨hproto, ⟨hdir, hip, hport⟩ | ⟨hdir, hip, hport⟩⟩
    · exact Or.inl ⟨⟨hdir.symm, hip, hproto.symm⟩, hport⟩
    · exact Or.inr ⟨⟨hdir.symm, hip, hproto.symm⟩, hport⟩

/-- The filters of a UDP port see the local port. -/
theorem udpPortPassFilters_covers (adapterHandle : UInt64) (port : UInt16) (p : WirePacket) :
    (∃ f ∈ udpPortPassFilters adapterHandle port, f.covers p = true) ↔
      p.protocol = ipprotoUdp ∧
        ((p.direction = .onSend ∧ p.srcPort = port) ∨
          (p.direction = .onReceive ∧ p.dstPort = port)) := by
  simp only [udpPortPassFilters, passFilter, List.mem_cons, List.not_mem_nil, or_false,
    exists_eq_or_imp, exists_eq_left, StaticFilter.covers, IpV4Filter.covers, TcpUdpFilter.covers,
    Bool.not_true, Bool.not_false, Bool.false_or, Bool.true_or, Bool.true_and, Bool.and_true,
    Bool.and_eq_true, beq_iff_eq, singlePort_covers]
  constructor
  · rintro (⟨⟨hdir, hproto⟩, hport⟩ | ⟨⟨hdir, hproto⟩, hport⟩)
    · exact ⟨hproto.symm, Or.inl ⟨hdir.symm, hport⟩⟩
    · exact ⟨hproto.symm, Or.inr ⟨hdir.symm, hport⟩⟩
  · rintro ⟨hproto, ⟨hdir, hport⟩ | ⟨hdir, hport⟩⟩
    · exact Or.inl ⟨⟨hdir.symm, hproto.symm⟩, hport⟩
    · exact Or.inr ⟨⟨hdir.symm, hproto.symm⟩, hport⟩

theorem buildPassFilters_covers {adapterHandle : UInt64} {tcpEndpoints : List (Ipv4Addr × UInt16)}
    {udpPorts : List UInt16} {p : WirePacket} :
    (∃ f ∈ buildPassFilters adapterHandle tcpEndpoints udpPorts, f.covers p = true) ↔
      (∃ e ∈ tcpEndpoints, ∃ f ∈ tcpEndpointPassFilters adapterHandle e.1 e.2, f.covers p = true) ∨
        ∃ port ∈ udpPorts, ∃ f ∈ udpPortPassFilters adapterHandle port, f.covers p = true := by
  simp only [buildPassFilters, List.mem_append, List.mem_flatMap]
  constructor
  · rintro ⟨f, ⟨e, he, hf⟩ | ⟨port, hport, hf⟩, hp⟩
    · exact Or.inl ⟨e, he, f, hf, hp⟩
    · exact Or.inr ⟨port, hport, f, hf, hp⟩
  · rintro (⟨e, he, f, hf, hp⟩ | ⟨port, hport, f, hf, hp⟩)
    · exact ⟨f, Or.inl ⟨e, he, hf⟩, hp⟩
    · exact ⟨f, Or.inr ⟨port, hport, hf⟩, hp⟩

/-! ## 5. Which flows filters are made for -/

theorem toFinset_append_cons_of_mem {α : Type} [DecidableEq α] {item : α} {out : List α}
    (h : item ∈ out) (items : List α) :
    (out ++ item :: items).toFinset = (out ++ items).toFinset := by
  have hmem : item ∈ (out ++ items).toFinset :=
    List.mem_toFinset.mpr (List.mem_append_left items h)
  rw [List.toFinset_append, List.toFinset_cons, Finset.union_insert, ← List.toFinset_append,
    Finset.insert_eq_of_mem hmem]

/-- The first item is taken while there is room; the others stand behind it. -/
theorem exists_taken_cons {α : Type} [DecidableEq α] {cap : Nat} {x item : α} {items out : List α}
    (hroom : out.toFinset.card < cap) :
    (∃ i : Nat, (item :: items)[i]? = some x ∧
        (out ++ (item :: items).take i).toFinset.card < cap) ↔
      x = item ∨ ∃ i : Nat, items[i]? = some x ∧
        (out ++ item :: items.take i).toFinset.card < cap := by
  constructor
  · rintro ⟨i, hi, hlt⟩
    cases i with
    | zero => exact Or.inl (Option.some.inj hi).symm
    | succ i => exact Or.inr ⟨i, hi, hlt⟩
  · rintro (rfl | ⟨i, hi, hlt⟩)
    · refine ⟨0, rfl, ?_⟩
      rw [List.take_zero, List.append_nil]
      exact hroom
    · exact ⟨i + 1, hi, hlt⟩

/-- What is collected: the items, each once, until the cap is reached. -/
theorem mem_dedupInto {α : Type} [DecidableEq α] {cap : Nat} {x : α} {items out : List α}
    (hnodup : out.Nodup) (hroom : out.length < cap) :
    x ∈ dedupInto cap out items ↔
      x ∈ out ∨ ∃ i : Nat, items[i]? = some x ∧ (out ++ items.take i).toFinset.card < cap := by
  induction items generalizing out with
  | nil => simp [dedupInto]
  | cons item items ih =>
    rw [exists_taken_cons ((List.toFinset_card_of_nodup hnodup).trans_lt hroom), dedupInto]
    split
    · rename_i hin
      simp only [toFinset_append_cons_of_mem hin]
      refine (ih hnodup hroom).trans ?_
      constructor
      · exact Or.imp_right Or.inr
      · rintro (hx | rfl | hx)
        · exact Or.inl hx
        · exact Or.inl hin
        · exact Or.inr hx
    · rename_i hnew
      have hnodup' : (out ++ [item]).Nodup := by
        rw [List.nodup_append_comm]
        exact List.nodup_cons.mpr ⟨hnew, hnodup⟩
      have hmove : ∀ i : Nat, out ++ item :: items.take i = (out ++ [item]) ++ items.take i :=
        fun i => (List.append_assoc out [item] (items.take i)).symm
      simp only [hmove]
      split
      · rename_i hfull
        rw [List.mem_append, List.mem_singleton]
        refine or_congr_right ⟨Or.inl, ?_⟩
        rintro (hx | ⟨i, -, hlt⟩)
        · exact hx
        · -- the cap is reached
          have hcard := List.toFinset_card_of_nodup hnodup'
          have hsubset : (out ++ [item]).toFinset ⊆ ((out ++ [item]) ++ items.take i).toFinset := by
            intro y hy
            rw [List.mem_toFinset] at hy ⊢
            exact List.mem_append_left _ hy
          have hle := Finset.card_le_card hsubset
          omega
      · rename_i hmore
        refine (ih hnodup' (Nat.lt_of_not_le hmore)).trans ?_
        rw [List.mem_append, List.mem_singleton, or_assoc]

theorem mem_dedupAndCap {α : Type} [DecidableEq α] {cap : Nat} (hcap : 0 < cap) {x : α}
    {items : List α} :
    x ∈ dedupAndCap items cap ↔
      ∃ i : Nat, items[i]? = some x ∧ (items.take i).toFinset.card < cap := by
  rw [dedupAndCap, mem_dedupInto List.nodup_nil hcap]
  simp

/-- Filters are made for this remote end: it is among the first 32 distinct ones of `System`. -/
def FilteredEndpoint (tcp : List TcpRow) (e : Ipv4Addr × UInt16) : Prop :=
  ∃ i : Nat, (systemTcpEndpoints tcp)[i]? = some e ∧
    ((systemTcpEndpoints tcp).take i).toFinset.card < maxTcpEndpoints

/-- A UDP port that filters are made for is one of `System`. -/
theorem systemPid_of_mem_udpPorts {udp : List UdpRow} {port : UInt16}
    (h : port ∈ dedupAndCap (systemUdpPorts udp) maxUdpPorts) :
    ∃ row ∈ udp, row.owningPid = systemPid ∧ row.localPort = port := by
  obtain ⟨i, hi, -⟩ := (mem_dedupAndCap (by decide)).mp h
  obtain ⟨row, hrow, hport⟩ := List.mem_map.mp (List.mem_of_getElem? hi)
  obtain ⟨hmem, howner⟩ := List.mem_filter.mp hrow
  rw [Bool.and_eq_true, beq_iff_eq] at howner
  exact ⟨row, hmem, howner.1, hport⟩

/-! ## 6. Packets of other processes -/

/-- A remote end seen in a packet of a TCP flow is that of the flow. -/
theorem TcpRow.Carries.remote_eq {row : TcpRow} {p : WirePacket} {e : Ipv4Addr × UInt16}
    (h : row.Carries p)
    (hends : (p.direction = .onSend ∧ (p.dstIp, p.dstPort) = e) ∨
      (p.direction = .onReceive ∧ (p.srcIp, p.srcPort) = e)) :
    (row.remoteAddr, row.remotePort) = e := by
  rcases hends with ⟨hdir, hend⟩ | ⟨hdir, hend⟩ <;>
    rcases h.ends with ⟨hdir', hlocal, hremote⟩ | ⟨hdir', hremote, hlocal⟩
  · exact hremote.symm.trans hend
  · rw [hdir] at hdir'
    cases hdir'
  · rw [hdir] at hdir'
    cases hdir'
  · exact hremote.symm.trans hend

theorem UdpRow.Carries.localPort_eq {row : UdpRow} {p : WirePacket} {port : UInt16}
    (h : row.Carries p)
    (hends : (p.direction = .onSend ∧ p.srcPort = port) ∨
      (p.direction = .onReceive ∧ p.dstPort = port)) :
    row.localPort = port := by
  rcases hends with ⟨hdir, hend⟩ | ⟨hdir, hend⟩ <;>
    rcases h.port with ⟨hdir', hport⟩ | ⟨hdir', hport⟩
  · exact hport.symm.trans hend
  · rw [hdir] at hdir'
    cases hdir'
  · rw [hdir] at hdir'
    cases hdir'
  · exact hport.symm.trans hend

/-- **When game traffic matches no filter.**  With exclusive local ports, no packet of another
process matches a filter exactly when no other process has a TCP flow to a remote end that filters
are made for. -/
theorem game_traffic_unmatched_iff {tcp : List TcpRow} {udp : List UdpRow}
    (hports : PortsExclusive tcp udp) (adapterHandle : UInt64) :
    (∀ p, OtherPacket tcp udp p → ∀ f ∈ systemFilters adapterHandle tcp udp, f.covers p = false) ↔
      ∀ row ∈ tcp, row.owningPid ≠ systemPid →
        ¬ FilteredEndpoint tcp (row.remoteAddr, row.remotePort) := by
  have hendpoint : ∀ e, e ∈ dedupAndCap (systemTcpEndpoints tcp) maxTcpEndpoints ↔
      FilteredEndpoint tcp e := fun e => mem_dedupAndCap (by decide)
  constructor
  · intro hsafe row hrow hother hfiltered
    -- a packet of that flow, as it leaves
    let p : WirePacket :=
      ⟨.onSend, ipprotoTcp, row.localAddr, row.localPort, row.remoteAddr, row.remotePort⟩
    have hcarries : row.Carries p := ⟨rfl, Or.inl ⟨rfl, rfl, rfl⟩⟩
    obtain ⟨f, hf, hp⟩ := buildPassFilters_covers.mpr (Or.inl ⟨_, (hendpoint _).mpr hfiltered,
      (tcpEndpointPassFilters_covers adapterHandle _ _ p).mpr ⟨rfl, Or.inl ⟨rfl, rfl⟩⟩⟩)
    have hno := hsafe p (Or.inl ⟨row, hrow, hother, hcarries⟩) f hf
    rw [hp] at hno
    cases hno
  · intro hnone p hp f hf
    rw [← Bool.not_eq_true]
    intro hmatch
    rcases buildPassFilters_covers.mp ⟨f, hf, hmatch⟩ with ⟨e, he, htcp⟩ | ⟨port, hport, hudp⟩
    · obtain ⟨hproto, hends⟩ := (tcpEndpointPassFilters_covers _ _ _ _).mp htcp
      rcases hp with ⟨row, hrow, hother, hcarries⟩ | ⟨row, -, -, hcarries⟩
      · -- the packet's flow has the remote end of the filter
        refine hnone row hrow hother ?_
        rw [hcarries.remote_eq hends]
        exact (hendpoint e).mp he
      · have hudp := hcarries.protocol
        rw [hproto] at hudp
        exact absurd hudp (by decide)
    · obtain ⟨hproto, hends⟩ := (udpPortPassFilters_covers _ _ _).mp hudp
      obtain ⟨sys, hsys, howner, rfl⟩ := systemPid_of_mem_udpPorts hport
      rcases hp with ⟨row, -, -, hcarries⟩ | ⟨row, hrow, hother, hcarries⟩
      · have htcp := hcarries.protocol
        rw [hproto] at htcp
        exact absurd htcp (by decide)
      · -- the packet's socket has the local port of the filter
        have hsame := hcarries.localPort_eq hends
        exact hother ((hports.udp row hrow sys hsys hsame).trans howner)

/-- `System` and a game each have a session with the server of the disk. -/
def sharedServerRows : List TcpRow :=
  [⟨5, ⟨192, 168, 1, 10⟩, 50001, ⟨192, 168, 1, 2⟩, 3260, 4⟩,
    ⟨5, ⟨192, 168, 1, 10⟩, 50002, ⟨192, 168, 1, 2⟩, 3260, 7⟩]

/-- **A packet of the game that a filter matches.** -/
theorem shared_server_matched :
    PortsExclusive sharedServerRows [] ∧
      OtherPacket sharedServerRows []
        ⟨.onSend, 6, ⟨192, 168, 1, 10⟩, 50002, ⟨192, 168, 1, 2⟩, 3260⟩ ∧
      ∃ f ∈ systemFilters 1 sharedServerRows [],
        f.covers ⟨.onSend, 6, ⟨192, 168, 1, 10⟩, 50002, ⟨192, 168, 1, 2⟩, 3260⟩ = true := by
  refine ⟨⟨by decide, by decide⟩, Or.inl ?_, by decide⟩
  exact ⟨⟨5, ⟨192, 168, 1, 10⟩, 50002, ⟨192, 168, 1, 2⟩, 3260, 7⟩, by decide, by decide, rfl,
    Or.inl ⟨rfl, rfl, rfl⟩⟩

/-- The game's own server, and a disk protocol over UDP. -/
def ownServerRows : List TcpRow :=
  [⟨5, ⟨192, 168, 1, 10⟩, 50001, ⟨192, 168, 1, 2⟩, 3260, 4⟩,
    ⟨5, ⟨192, 168, 1, 10⟩, 50002, ⟨128, 116, 1, 1⟩, 443, 7⟩]

def diskAndGameSockets : List UdpRow :=
  [⟨⟨0, 0, 0, 0⟩, 4011, 4⟩, ⟨⟨0, 0, 0, 0⟩, 50003, 7⟩]

theorem own_server_unmatched :
    PortsExclusive ownServerRows diskAndGameSockets ∧
      ∀ p, OtherPacket ownServerRows diskAndGameSockets p →
        ∀ f ∈ systemFilters 1 ownServerRows diskAndGameSockets, f.covers p = false := by
  have hports : PortsExclusive ownServerRows diskAndGameSockets := ⟨by decide, by decide⟩
  refine ⟨hports, (game_traffic_unmatched_iff hports 1).mpr fun row hrow hother => ?_⟩
  rintro ⟨i, hi, -⟩
  have hmem := List.mem_of_getElem? hi
  have hends : ∀ row ∈ ownServerRows, row.owningPid ≠ systemPid →
      (row.remoteAddr, row.remotePort) ∉ systemTcpEndpoints ownServerRows := by decide
  exact hends row hrow hother hmem

end SwiftTunnel
