/-
# What counts as a tunnel app

`process_cache.rs`, `process_watcher.rs` and the Studio exclusion of `connection.rs`.  The list of
tunnel apps reaches two matchers.  The process cache takes a process for a tunnel app when one of
the two stems holds the other, and keeps with each snapshot the UDP ports that this gives.  The
ETW watcher reports a process when the stems are equal.  `connect_ex` takes Studio's names out of
the list, before either sees it.

`Agrees` is what each operation of a cache leaves, whatever was published before, so it holds after
any of them; the version counts them.  The two matchers are brought to conditions on stems
(`pidIsTunnel_iff`, `shouldNotify_iff`), in which a stem is what is left of a name without `.exe`.

* `snapshot_agrees`: after any operations of the cache, the index of ports, the names and the list
  of a snapshot agree.
* `reported_is_tunnel`: what the watcher reports is a tunnel app, and when the two differ.
* `studio_direct_iff`: when a Studio process stays direct.

The operations come one after another here.  What overlapping ones may lose is in `Writers`.
-/
import SwiftTunnel.ProcessNames
import SwiftTunnel.SplitTunnel.ProcessCache
import SwiftTunnel.Vpn.Connection

namespace SwiftTunnel

open Rust

/-! ## 1. The snapshots of the cache -/

/-- An operation on a cache. -/
inductive CacheOp where
  | update (connections : Map ConnectionKey Pid) (pidNames : Map Pid String)
  | setTunnelApps (apps : List String)
  | registerProcessImmediate (pid : Pid) (name : String)

theorem mem_computeTunnelUdpPorts {connections : Map ConnectionKey Pid} {pidNames : Map Pid String}
    {tunnelApps : Finset String} {port : UInt16} :
    port ∈ computeTunnelUdpPorts connections pidNames tunnelApps ↔
      ∃ key pid, connections.lookup key = some pid ∧ key.protocol = .udp ∧ key.localPort = port ∧
        pidIsTunnel pid pidNames tunnelApps = true := by
  simp only [computeTunnelUdpPorts, List.mem_toFinset, List.mem_map, List.mem_filter,
    decide_eq_true_eq]
  constructor
  · rintro ⟨⟨key, pid⟩, ⟨hmem, hudp, htunnel⟩, rfl⟩
    exact ⟨key, pid, AList.mem_lookup_iff.mpr hmem, hudp, rfl, htunnel⟩
  · rintro ⟨key, pid, hlookup, hudp, rfl, htunnel⟩
    exact ⟨⟨key, pid⟩, ⟨AList.mem_lookup_iff.mp hlookup, hudp, htunnel⟩, rfl⟩

namespace LockFreeProcessCache

/-- The published snapshot has the ports that its maps and apps imply, and the cache's apps and
version. -/
structure Agrees (c : LockFreeProcessCache) : Prop where
  ports : c.current.tunnelUdpPorts =
    computeTunnelUdpPorts c.current.connections c.current.pidNames c.current.tunnelApps
  apps : c.current.tunnelApps = c.tunnelApps
  version : c.current.version = c.version

theorem publish_agrees (c : LockFreeProcessCache) (connections : Map ConnectionKey Pid)
    (pidNames : Map Pid String) : (c.publish connections pidNames).Agrees := ⟨rfl, rfl, rfl⟩

variable (lower : String → String)

def perform (c : LockFreeProcessCache) : CacheOp → LockFreeProcessCache
  | .update connections pidNames => c.update lower connections pidNames
  | .setTunnelApps apps => c.setTunnelApps lower apps
  | .registerProcessImmediate pid name => c.registerProcessImmediate lower pid name

/-- A new cache, after some operations. -/
def performAll (tunnelApps : List String) (ops : List CacheOp) : LockFreeProcessCache :=
  ops.foldl (perform lower) (new lower tunnelApps)

/-- The list of tunnel apps that was given last. -/
def lastApps (tunnelApps : List String) (ops : List CacheOp) : List String :=
  ops.foldl (fun apps op => match op with
    | .setTunnelApps apps => apps
    | _ => apps) tunnelApps

theorem performAll_concat (tunnelApps : List String) (ops : List CacheOp) (op : CacheOp) :
    performAll lower tunnelApps (ops ++ [op]) =
      (performAll lower tunnelApps ops).perform lower op := by
  simp [performAll]

/-- **Every operation publishes a snapshot that agrees with itself**, whatever was published
before. -/
theorem perform_agrees (c : LockFreeProcessCache) (op : CacheOp) :
    (c.perform lower op).Agrees := by
  cases op with
  | update connections pidNames => exact publish_agrees _ _ _
  | setTunnelApps apps => exact publish_agrees _ _ _
  | registerProcessImmediate pid name => exact publish_agrees _ _ _

theorem perform_version (c : LockFreeProcessCache) (op : CacheOp) :
    (c.perform lower op).version = c.version + 1 := by
  cases op <;> rfl

theorem new_agrees (tunnelApps : List String) : (new lower tunnelApps).Agrees where
  ports := rfl
  apps := rfl
  version := rfl

theorem performAll_agrees (tunnelApps : List String) (ops : List CacheOp) :
    (performAll lower tunnelApps ops).Agrees := by
  rcases List.eq_nil_or_concat ops with rfl | ⟨ops, op, rfl⟩
  · exact new_agrees lower tunnelApps
  · rw [List.concat_eq_append, performAll_concat]
    exact perform_agrees lower _ op

/-- The version counts the operations, as a `u64`. -/
theorem performAll_version (tunnelApps : List String) (ops : List CacheOp) :
    (performAll lower tunnelApps ops).version = UInt64.ofNat ops.length := by
  induction ops using List.reverseRecOn with
  | nil => rfl
  | append_singleton ops op ih =>
    rw [performAll_concat, perform_version, ih, List.length_append, List.length_singleton,
      UInt64.ofNat_add]
    rfl

theorem performAll_tunnelApps (tunnelApps : List String) (ops : List CacheOp) :
    (performAll lower tunnelApps ops).tunnelApps = appSet lower (lastApps tunnelApps ops) := by
  induction ops using List.reverseRecOn with
  | nil => rfl
  | append_singleton ops op ih =>
    rw [performAll_concat, lastApps, List.foldl_append, ← lastApps]
    cases op with
    | update connections pidNames => exact ih
    | setTunnelApps apps => rfl
    | registerProcessImmediate pid name => exact ih

/-- **A snapshot agrees with itself and with the cache.**  After any operations, one after
another, its UDP ports are those of the connections of tunnel processes under its own names and
apps, its apps are the cache's, and its version is the number of operations; and a registration
changes nothing but the name of its process. -/
theorem snapshot_agrees (tunnelApps : List String) (ops : List CacheOp) :
    let c := performAll lower tunnelApps ops
    (∀ port, port ∈ c.current.tunnelUdpPorts ↔
      ∃ key pid, c.current.connections.lookup key = some pid ∧ key.protocol = .udp ∧
        key.localPort = port ∧ c.current.isTunnelPid pid = true) ∧
      c.current.tunnelApps = c.tunnelApps ∧
      c.current.version = UInt64.ofNat ops.length ∧
      ∀ pid name, let s := (c.registerProcessImmediate lower pid name).current
        s.connections = c.current.connections ∧ s.pidNames.lookup pid = some (lower name) ∧
          ∀ other, other ≠ pid → s.pidNames.lookup other = c.current.pidNames.lookup other := by
  have hagrees := performAll_agrees lower tunnelApps ops
  refine ⟨fun port => ?_, hagrees.apps, ?_, fun pid name => ⟨rfl, ?_, fun other hne => ?_⟩⟩
  · rw [hagrees.ports]
    exact mem_computeTunnelUdpPorts
  · rw [hagrees.version, performAll_version]
  · exact AList.lookup_insert _
  · exact AList.lookup_insert_ne hne

end LockFreeProcessCache

/-! ## 2. The ETW watcher -/

/-- One of the two stems holds the other. -/
def StemsMeet (name app : String) : Prop :=
  contains (exeStem name) (exeStem app) = true ∨ contains (exeStem app) (exeStem name) = true

instance (name app : String) : Decidable (StemsMeet name app) := inferInstanceAs (Decidable (_ ∨ _))

theorem contains_self (s : String) : contains s s = true := by simp [contains]

theorem stemsMeet_of_eq {name app : String} (h : exeStem app = exeStem name) :
    StemsMeet name app := by
  rw [StemsMeet, h]
  exact Or.inl (contains_self _)

/-- **The cache's test on names.**  A name that is listed meets itself. -/
theorem pidIsTunnel_iff {pid : Pid} {pidNames : Map Pid String} {tunnelApps : Finset String}
    {name : String} (h : pidNames.lookup pid = some name) :
    pidIsTunnel pid pidNames tunnelApps = true ↔ ∃ app ∈ tunnelApps, StemsMeet name app := by
  rw [pidIsTunnel]
  simp only [h, Bool.or_eq_true, decide_eq_true_eq]
  constructor
  · rintro (hmem | hmeet)
    · exact ⟨name, hmem, stemsMeet_of_eq rfl⟩
    · exact hmeet
  · exact Or.inr

/-- The watch list of `SplitTunnelDriver::start`. -/
def watchSet (lower : String → String) (tunnelApps : List String) : Finset String :=
  (tunnelApps.map lower).toFinset

/-- `should_notify` of `event_record_callback`, for an event with an image name. -/
def shouldNotify (lower : String → String) (watchList : Finset String) (name : String) : Bool :=
  decide (∃ app ∈ watchList, exeStem app = exeStem (lower name))

section Matchers

variable (lower : String → String)

theorem shouldNotify_iff {apps : List String} {name : String} :
    shouldNotify lower (watchSet lower apps) name = true ↔
      ∃ app ∈ apps, exeStem (lower app) = exeStem (lower name) := by
  simp [shouldNotify, watchSet]

/-- **Which names are tunneled**, in every snapshot. -/
theorem isTunnelPid_iff {tunnelApps : List String} {ops : List CacheOp} {pid : Pid} {name : String}
    (h : (LockFreeProcessCache.performAll lower tunnelApps ops).current.pidNames.lookup pid =
      some (lower name)) :
    (LockFreeProcessCache.performAll lower tunnelApps ops).current.isTunnelPid pid = true ↔
      ∃ app ∈ LockFreeProcessCache.lastApps tunnelApps ops, StemsMeet (lower name) (lower app) := by
  rw [ProcessSnapshot.isTunnelPid, pidIsTunnel_iff h,
    (LockFreeProcessCache.performAll_agrees lower tunnelApps ops).apps,
    LockFreeProcessCache.performAll_tunnelApps]
  simp [LockFreeProcessCache.appSet]

/-- The cache that `register_process_immediate` leaves. -/
theorem registered_iff (tunnelApps : List String) (ops : List CacheOp) (pid : Pid) (name : String) :
    ((LockFreeProcessCache.performAll lower tunnelApps ops).registerProcessImmediate lower pid
        name).current.isTunnelPid pid = true ↔
      ∃ app ∈ LockFreeProcessCache.lastApps tunnelApps ops, StemsMeet (lower name) (lower app) := by
  have hrun : (LockFreeProcessCache.performAll lower tunnelApps ops).registerProcessImmediate lower
      pid name = LockFreeProcessCache.performAll lower tunnelApps
        (ops ++ [.registerProcessImmediate pid name]) :=
    (LockFreeProcessCache.performAll_concat lower tunnelApps ops (.registerProcessImmediate pid name)).symm
  have hlast : LockFreeProcessCache.lastApps tunnelApps
      (ops ++ [.registerProcessImmediate pid name]) =
        LockFreeProcessCache.lastApps tunnelApps ops := by
    simp [LockFreeProcessCache.lastApps]
  rw [hrun, isTunnelPid_iff, hlast]
  rw [← hrun]
  exact AList.lookup_insert _

/-- **What the watcher reports is a tunnel app.**  The watcher wants equal stems and the cache
wants one stem to hold the other, so every name that the watcher reports is tunneled, and the two
differ on the names that only meet a longer or a shorter stem of the list. -/
theorem reported_is_tunnel (tunnelApps : List String) (ops : List CacheOp) (pid : Pid)
    (name : String) :
    let apps := LockFreeProcessCache.lastApps tunnelApps ops
    let s := ((LockFreeProcessCache.performAll lower tunnelApps ops).registerProcessImmediate lower
      pid name).current
    let reported := shouldNotify lower (watchSet lower apps) name
    (reported = true → s.isTunnelPid pid = true) ∧
      (reported = true ↔ ∃ app ∈ apps, exeStem (lower app) = exeStem (lower name)) ∧
      (s.isTunnelPid pid = true ↔ ∃ app ∈ apps, StemsMeet (lower name) (lower app)) := by
  refine ⟨fun hreported => ?_, shouldNotify_iff lower, registered_iff lower tunnelApps ops pid name⟩
  obtain ⟨app, happ, hstem⟩ := (shouldNotify_iff lower).mp hreported
  exact (registered_iff lower tunnelApps ops pid name).mpr ⟨app, happ, stemsMeet_of_eq hstem⟩

/-- The list of the cache's own tests: the game is tunneled, and its start is not reported. -/
theorem player_not_reported :
    ((LockFreeProcessCache.new toAsciiLowercase ["roblox"]).registerProcessImmediate
        toAsciiLowercase 7 "RobloxPlayerBeta.exe").current.isTunnelPid 7 = true ∧
      shouldNotify toAsciiLowercase (watchSet toAsciiLowercase ["roblox"])
        "RobloxPlayerBeta.exe" = false := by
  decide +kernel

/-! ## 3. Studio -/

/-- No process with the name is tunneled, in any snapshot of a cache that has the list. -/
def StaysDirect (apps : List String) (name : String) : Prop :=
  ∀ tunnelApps ops pid, LockFreeProcessCache.lastApps tunnelApps ops = apps →
    (LockFreeProcessCache.performAll lower tunnelApps ops).current.pidNames.lookup pid =
      some (lower name) →
    (LockFreeProcessCache.performAll lower tunnelApps ops).current.isTunnelPid pid = false

theorem staysDirect_iff {apps : List String} {name : String} :
    StaysDirect lower apps name ↔ ∀ app ∈ apps, ¬ StemsMeet (lower name) (lower app) := by
  constructor
  · intro h app happ hmeet
    have hdirect := h apps [.registerProcessImmediate 0 name] 0 rfl (AList.lookup_insert _)
    rw [← Bool.not_eq_true, isTunnelPid_iff lower (AList.lookup_insert _)] at hdirect
    exact hdirect ⟨app, happ, hmeet⟩
  · rintro h tunnelApps ops pid rfl hname
    rw [← Bool.not_eq_true, isTunnelPid_iff lower hname]
    rintro ⟨app, happ, hmeet⟩
    exact h app happ hmeet

/-- **When Studio stays direct.**  Outside country-ban bypass a process, of Studio or not, is
tunneled in no snapshot of the session's list, exactly when its stem and that of each app that is
not Studio's are apart: the filter asks for names that begin like Studio's, and the matcher for
names that hold one another. -/
theorem studio_direct_iff {o : ConnectOptions} {name : String}
    (hcountry : o.enableCountryBan = false) (hban : o.enablePartialCountryBan = false) :
    StaysDirect lower o.sessionApps name ↔
      ∀ app ∈ o.tunnelApps, isRobloxStudioProcessName app = false →
        ¬ StemsMeet (lower name) (lower app) := by
  have hbypass : o.countryBanBypass = false := by
    rw [ConnectOptions.countryBanBypass, hcountry, hban]
    rfl
  rw [staysDirect_iff, ConnectOptions.sessionApps, hbypass]
  simp

end Matchers

/-- With the player on the list Studio stays direct. -/
theorem player_keeps_studio_direct :
    isRobloxStudioProcessName "RobloxStudioBeta.exe" = true ∧ StaysDirect toAsciiLowercase
      (ConnectOptions.ofConnect "singapore" ["RobloxPlayerBeta.exe", "RobloxStudioBeta.exe"]).sessionApps
        "RobloxStudioBeta.exe" := by
  refine ⟨by decide +kernel, (studio_direct_iff toAsciiLowercase rfl rfl).mpr ?_⟩
  decide +kernel

/-- With `roblox.exe` on the list it does not. -/
theorem studio_tunneled :
    isRobloxStudioProcessName "RobloxStudioBeta.exe" = true ∧
      ¬ StaysDirect toAsciiLowercase (ConnectOptions.ofConnect "singapore" ["Roblox.exe"]).sessionApps
        "RobloxStudioBeta.exe" := by
  refine ⟨by decide +kernel, fun h => ?_⟩
  have happs : (ConnectOptions.ofConnect "singapore" ["Roblox.exe"]).sessionApps = ["Roblox.exe"] := by
    decide +kernel
  rw [happs, staysDirect_iff] at h
  exact h "Roblox.exe" List.mem_cons_self (by decide +kernel)

end SwiftTunnel
