/-
# The state that outlives a connection

What `hosts.rs`, `exclusions.rs` and `asset_route.rs` keep in process-wide statics, together
with the hosts file itself.  Every one of these is read by the packet workers and written by
the connection manager, so they are one record that the components pass along.

The hosts file is here because the operations on it and on the sets go together, and because it
outlives even the process: a new one may find a block of an old one there (`SharedState.fresh` takes
any text).

The locks around the statics are left out: a lock is held for one read or one write and is
poisoned only by a panic, which ends the process.
-/
import Mathlib.Data.Finset.Card
import SwiftTunnel.Net
import SwiftTunnel.Lib.Text

namespace SwiftTunnel

open Rust

/-- `hosts.rs`, `HostOverride`. -/
structure HostOverride where
  ip : Ipv4Addr
  domain : String
  deriving DecidableEq, Repr

/-- The hosts file and the process-wide statics. -/
structure SharedState where
  /-- The contents of the Windows hosts file. -/
  hostsFile : Text
  /-- `ACTIVE_BOOTSTRAP_IPS`: relayed addresses and the domain each was resolved for. -/
  activeBootstrapIps : Map Ipv4Addr String
  /-- `DIRECT_ONLY_BOOTSTRAP_IPS`. -/
  directOnlyBootstrapIps : Finset Ipv4Addr
  /-- `LAST_APPLIED_OVERRIDES`. -/
  lastAppliedOverrides : List HostOverride
  /-- `COUNTRY_BAN_BYPASS_ROUTING`. -/
  countryBanBypassRouting : Bool
  /-- `EXCLUDED_IPS`: user exclusions and the entry each was resolved from. -/
  excludedIps : Map Ipv4Addr String
  /-- `ASSET_IPS`. -/
  assetIps : Map Ipv4Addr String

namespace SharedState

/-- A new process beside a hosts file with the given contents. -/
def fresh (hostsFile : Text) : SharedState :=
  ⟨hostsFile, ∅, ∅, [], false, ∅, ∅⟩

/-- `exclusions::is_excluded_ip`. -/
def isExcludedIp (g : SharedState) (ip : Ipv4Addr) : Bool := decide (ip ∈ g.excludedIps)

/-- `asset_route::is_asset_ip`. -/
def isAssetIp (g : SharedState) (ip : Ipv4Addr) : Bool := decide (ip ∈ g.assetIps)

/-- `hosts::is_active_bootstrap_ip`. -/
def isActiveBootstrapIp (g : SharedState) (ip : Ipv4Addr) : Bool :=
  decide (ip ∈ g.activeBootstrapIps)

/-- `hosts::is_direct_only_bootstrap_ip`. -/
def isDirectOnlyBootstrapIp (g : SharedState) (ip : Ipv4Addr) : Bool :=
  decide (ip ∈ g.directOnlyBootstrapIps)

end SharedState

end SwiftTunnel
