/-
# Addresses and protocols

The network types that every component reads: IPv4 addresses as four octets, the two transport
protocols, the key under which the owner table lists a local socket (`ConnectionKey`), the two
directions of the packet driver, and the address test that DNS repair applies to an answer
(`isUsablePublicIpv4`).

A `HashMap` of the source is a list of entries with distinct keys, in the order in which it happens
to be iterated; where that order could matter, results are for every order.
-/
import Mathlib.Data.List.AList
import SwiftTunnel.Lib.Slice

namespace SwiftTunnel

open Rust

/-! ## 1. Addresses -/

/-- `std::net::Ipv4Addr`, by its octets. -/
structure Ipv4Addr where
  a : UInt8
  b : UInt8
  c : UInt8
  d : UInt8
  deriving DecidableEq, Repr

namespace Ipv4Addr

/-- `Ipv4Addr::UNSPECIFIED`. -/
def unspecified : Ipv4Addr := ⟨0, 0, 0, 0⟩

/-- `u32::from(ip)`. -/
def toBits (ip : Ipv4Addr) : BitVec 32 :=
  ip.a.toBitVec ++ ip.b.toBitVec ++ ip.c.toBitVec ++ ip.d.toBitVec

/-- The address as text, `a.b.c.d`. -/
def toText (ip : Ipv4Addr) : String :=
  toString ip.a.toNat ++ "." ++ toString ip.b.toNat ++ "." ++ toString ip.c.toNat ++ "." ++
    toString ip.d.toNat

def isLoopback (ip : Ipv4Addr) : Bool := ip.a == 127

def isPrivate (ip : Ipv4Addr) : Bool :=
  ip.a == 10 || (ip.a == 172 && 16 ≤ ip.b && ip.b ≤ 31) || (ip.a == 192 && ip.b == 168)

def isLinkLocal (ip : Ipv4Addr) : Bool := ip.a == 169 && ip.b == 254

def isMulticast (ip : Ipv4Addr) : Bool := 224 ≤ ip.a && ip.a ≤ 239

def isBroadcast (ip : Ipv4Addr) : Bool := ip == ⟨255, 255, 255, 255⟩

/-- The address whose first octet stands at `i`. -/
def ofBytesAt (bs : Bytes) (i : Nat) : Ipv4Addr :=
  ⟨byteAt bs i, byteAt bs (i + 1), byteAt bs (i + 2), byteAt bs (i + 3)⟩

/-- `Ipv4Addr::new(bs[i], bs[i + 1], bs[i + 2], bs[i + 3])`. -/
def index (bs : Bytes) (i : Nat) : Checked Ipv4Addr := do
  let a ← Rust.index bs i
  let b ← Rust.index bs (i + 1)
  let c ← Rust.index bs (i + 2)
  let d ← Rust.index bs (i + 3)
  return ⟨a, b, c, d⟩

@[simp] theorem index_of_lt {bs : Bytes} {i : Nat} (h : i + 3 < bs.length) :
    index bs i = .ok (ofBytesAt bs i) := by
  have h0 : i < bs.length := by omega
  have h1 : i + 1 < bs.length := by omega
  have h2 : i + 2 < bs.length := by omega
  simp only [index, Rust.index_of_lt h0, Rust.index_of_lt h1, Rust.index_of_lt h2,
    Rust.index_of_lt h]
  rfl

end Ipv4Addr

/-- `hosts.rs`, `is_usable_public_ipv4`. -/
def isUsablePublicIpv4 (ip : Ipv4Addr) : Bool :=
  !(ip == Ipv4Addr.unspecified || ip.isLoopback || ip.isPrivate || ip.isLinkLocal ||
    ip.isMulticast || ip.isBroadcast || ip.a == 0 || 240 ≤ ip.a ||
    (ip.a == 100 && 64 ≤ ip.b && ip.b ≤ 127) ||
    (ip.a == 192 && ip.b == 0 && ip.c == 2) ||
    (ip.a == 198 && ip.b == 51 && ip.c == 100) ||
    (ip.a == 203 && ip.b == 0 && ip.c == 113) ||
    (ip.a == 198 && 18 ≤ ip.b && ip.b ≤ 19))

/-- `std::net::IpAddr`; an IPv6 address is its 128 bits. -/
inductive IpAddr where
  | v4 (ip : Ipv4Addr)
  | v6 (bits : BitVec 128)
  deriving DecidableEq, Repr

/-- `IpAddr::is_unspecified`. -/
def IpAddr.isUnspecified : IpAddr → Bool
  | .v4 ip => ip == Ipv4Addr.unspecified
  | .v6 bits => bits == 0

/-- `std::net::SocketAddr`. -/
structure SocketAddr where
  ip : IpAddr
  port : UInt16
  deriving DecidableEq, Repr

/-! ## 2. Sockets -/

/-- `process_tracker.rs`, `Protocol`. -/
inductive Protocol where
  | tcp
  | udp
  deriving DecidableEq, Repr

/-- `process_tracker.rs`, `ConnectionKey`. -/
structure ConnectionKey where
  localIp : Ipv4Addr
  localPort : UInt16
  protocol : Protocol
  deriving DecidableEq, Repr

abbrev Pid := UInt32

/-- `ndisapi::DirectionFlags`: which way a packet passes the adapter. -/
inductive DirectionFlags where
  | onSend
  | onReceive
  deriving DecidableEq, Repr

/-! ## 3. Hash maps

A `HashMap` is a list of entries with distinct keys; the order of the list is the order in
which the map happens to be iterated. -/

abbrev Map (K V : Type) := AList (fun _ : K => V)

end SwiftTunnel
