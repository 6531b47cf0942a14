/-
# Which relays a session uses

`connection.rs`: the gameplay relay (`resolve_relay_for_region`) and the pool of asset relays
(`pick_asset_relays`), both chosen from the list of available servers before anything is opened.

The gameplay relay is found by `min_by_key` among the servers that match the region, exactly or by a
prefix either way.  `resolveRelayForRegion_first` says which one that is: every other that matches
comes behind it in the order of latencies, unknown ones last, and of the list.

* `exact_match_wins_iff`: when the gameplay relay is one of the region asked for, and not of
  another region that shares a prefix with it.
* `prefix_match_wins`: when it is not.

The two shuffles of the pool are arguments, any functions that permute their list.  `IsPool` is what
each stage keeps of the pool, servers of the list at distinct addresses; the stages de-duplicate,
cut to the number asked for and fill up.

* `pickAssetRelays_spec`: what the pool holds, for every order that the shuffles may give.

Whether a chosen server answers is a matter of the connection; a pool may open fewer relays than it
has servers.
-/
import Mathlib.Data.Finset.Card
import Mathlib.Data.List.MinMax
import SwiftTunnel.Vpn.AutoRouting

namespace SwiftTunnel

open Rust

/-! ## 1. Errors -/

/-- `SdkError`, as far as a connection raises it. -/
inductive SdkError where
  | splitTunnel (message : String)
  | vpn (message : String)
  deriving DecidableEq, Repr

/-- The text of an error. -/
def SdkError.toText : SdkError → String
  | .splitTunnel message => "Split tunnel error: " ++ message
  | .vpn message => "VPN error: " ++ message

/-! ## 2. The gameplay relay -/

/-- `region_matches`. -/
def regionMatches (serverRegion region : String) : Bool :=
  serverRegion == region || startsWith serverRegion region || startsWith region serverRegion

/-- `resolve_relay_for_region`. -/
def resolveRelayForRegion (region : String) (availableServers : List Server) :
    Except SdkError SocketAddr :=
  if availableServers = [] then
    .error (.vpn "No servers available — call swifttunnel_servers_fetch first")
  else
    let candidates := availableServers.filter fun s => regionMatches s.region region
    -- `min_by_key` answers with the first of the least
    match candidates.argmin Server.latencyKey with
    | some s => .ok s.addr
    | none => .error (.vpn ("No server found for region '" ++ region ++ "'"))

/-- **A relay is found exactly when some server matches the region.** -/
theorem resolveRelayForRegion_ok_iff {region : String} {servers : List Server} :
    (∃ addr, resolveRelayForRegion region servers = .ok addr) ↔
      ∃ s ∈ servers, regionMatches s.region region = true := by
  rw [resolveRelayForRegion]
  constructor
  · rintro ⟨addr, h⟩
    split at h
    · exact nomatch h
    · dsimp only at h
      split at h
      · rename_i s hs
        have hmem := List.argmin_mem hs
        rw [List.mem_filter] at hmem
        exact ⟨s, hmem⟩
      · exact nomatch h
  · rintro ⟨s, hs, hm⟩
    have hne : servers ≠ [] := List.ne_nil_of_mem hs
    rw [if_neg hne]
    dsimp only
    split
    · rename_i s' _
      exact ⟨s'.addr, rfl⟩
    · rename_i hnone
      rw [List.argmin_eq_none] at hnone
      have hmem : s ∈ servers.filter fun s => regionMatches s.region region :=
        List.mem_filter.mpr ⟨hs, hm⟩
      rw [hnone] at hmem
      exact absurd hmem List.not_mem_nil

/-- An entry found among those behind `b`, which comes before it or does not count. -/
theorem behind_head {α : Type} {p : α → Bool} {f : α → Nat} {b c : α} {l : List α}
    (h : ∃ i : Nat, l[i]? = some c ∧ ∀ j < i, ∀ a, l[j]? = some a → p a = true → f c < f a)
    (hb : p b = true → f c < f b) :
    ∃ i : Nat, (b :: l)[i]? = some c ∧
      ∀ j < i, ∀ a, (b :: l)[j]? = some a → p a = true → f c < f a := by
  obtain ⟨i, hi, hfirst⟩ := h
  refine ⟨i + 1, hi, fun j hj a ha hp => ?_⟩
  cases j with
  | zero =>
    obtain rfl := Option.some.inj ha
    exact hb hp
  | succ j => exact hfirst j (Nat.lt_of_succ_lt_succ hj) a ha hp

/-- No earlier entry of the kind equals the least one that `min_by_key` answers with. -/
theorem argmin_filter_leftmost {α : Type} {p : α → Bool} {f : α → Nat} {l : List α} {m : α}
    (h : (l.filter p).argmin f = some m) :
    ∃ i : Nat, l[i]? = some m ∧ ∀ j < i, ∀ a, l[j]? = some a → p a = true → f m < f a := by
  induction l generalizing m with
  | nil => cases h
  | cons b l ih =>
    have hfront : ∃ i : Nat, (b :: l)[i]? = some b ∧
        ∀ j < i, ∀ a, (b :: l)[j]? = some a → p a = true → f b < f a :=
      ⟨0, rfl, fun j hj => absurd hj (Nat.not_lt_zero j)⟩
    by_cases hb : p b = true
    · rw [List.filter_cons_of_pos hb, List.argmin_cons] at h
      cases hrest : (l.filter p).argmin f with
      | none =>
        rw [hrest] at h
        obtain rfl := Option.some.inj h
        exact hfront
      | some c =>
        rw [hrest] at h
        dsimp only at h
        split at h
        · rename_i hlt
          obtain rfl := Option.some.inj h
          exact behind_head (ih hrest) fun _ => hlt
        · obtain rfl := Option.some.inj h
          exact hfront
    · rw [List.filter_cons_of_neg hb] at h
      exact behind_head (ih h) fun hp => absurd hp hb

/-- `min_by_key` among the entries of a kind: every other comes behind the one found, in the order
of the keys and of the list. -/
theorem argmin_filter_first {α : Type} {p : α → Bool} {f : α → Nat} {l : List α} {m : α}
    (h : (l.filter p).argmin f = some m) :
    ∃ i : Nat, l[i]? = some m ∧
      ∀ (j : Nat) (a : α), l[j]? = some a → p a = true → f m < f a ∨ f m = f a ∧ i ≤ j := by
  obtain ⟨i, hi, hfirst⟩ := argmin_filter_leftmost h
  refine ⟨i, hi, fun j a ha hp => ?_⟩
  have hle : f m ≤ f a :=
    List.le_of_mem_argmin (List.mem_filter.mpr ⟨List.mem_of_getElem? ha, hp⟩) h
  rcases Nat.lt_or_ge j i with hj | hj
  · exact Or.inl (hfirst j hj a ha hp)
  · rcases hle.lt_or_eq with hlt | heq
    · exact Or.inl hlt
    · exact Or.inr ⟨heq, hj⟩

/-- The relay chosen is a server that matches the region, and every other that matches comes behind
it in the order of latencies, unknown ones last, and of the list. -/
theorem resolveRelayForRegion_first {region : String} {servers : List Server} {addr : SocketAddr}
    (h : resolveRelayForRegion region servers = .ok addr) :
    ∃ (i : Nat) (s : Server), servers[i]? = some s ∧ regionMatches s.region region = true ∧
      s.addr = addr ∧
      ∀ (j : Nat) (q : Server), servers[j]? = some q → regionMatches q.region region = true →
        s.latencyKey < q.latencyKey ∨ s.latencyKey = q.latencyKey ∧ i ≤ j := by
  rw [resolveRelayForRegion] at h
  split at h
  · cases h
  · dsimp only at h
    split at h
    · rename_i s hs
      obtain rfl := Except.ok.inj h
      obtain ⟨i, hi, hfirst⟩ := argmin_filter_first hs
      exact ⟨i, s, hi, (List.mem_filter.mp (List.argmin_mem hs)).2, rfl, hfirst⟩
    · cases h

/-- An entry of the region itself whose latency is the lowest known among these. -/
structure BestExact (region : String) (servers : List Server) (e : Server) : Prop where
  listed : e ∈ servers
  region_eq : e.region = region
  least : ∀ e' ∈ servers, e'.region = region → ∀ ms ∈ e'.latency, ∃ least ∈ e.latency, least ≤ ms

/-- **When an exact match wins**: exactly when one of the lowest latency comes before every other
server that matches, in the order of latencies, unknown ones last, and of the list.  Servers at one
address count as one. -/
theorem exact_match_wins_iff {region : String} {servers : List Server}
    (h : ∃ e ∈ servers, e.region = region) :
    (∃ e, BestExact region servers e ∧ resolveRelayForRegion region servers = .ok e.addr) ↔
      ∃ (e : Server) (i : Nat) (s : Server), BestExact region servers e ∧ servers[i]? = some s ∧
        regionMatches s.region region = true ∧ s.addr = e.addr ∧
        ∀ (j : Nat) (q : Server), servers[j]? = some q → regionMatches q.region region = true →
          q.addr ≠ e.addr → s.latencyKey < q.latencyKey ∨ s.latencyKey = q.latencyKey ∧ i < j := by
  obtain ⟨e₀, he₀, hregion⟩ := h
  have hexact : regionMatches e₀.region region = true := by
    rw [regionMatches, hregion, beq_self_eq_true, Bool.true_or, Bool.true_or]
  obtain ⟨addr, haddr⟩ := resolveRelayForRegion_ok_iff.mpr ⟨e₀, he₀, hexact⟩
  obtain ⟨i, s, hi, hs, rfl, hfirst⟩ := resolveRelayForRegion_first haddr
  constructor
  · rintro ⟨e, he, hok⟩
    have hsame : s.addr = e.addr := by
      rw [haddr] at hok
      exact Except.ok.inj hok
    refine ⟨e, i, s, he, hi, hs, hsame, fun j q hj hq hother => ?_⟩
    rcases hfirst j q hj hq with hlt | ⟨heq, hle⟩
    · exact Or.inl hlt
    · refine Or.inr ⟨heq, hle.lt_of_ne ?_⟩
      rintro rfl
      rw [hi] at hj
      obtain rfl := Option.some.inj hj
      exact hother hsame
  · rintro ⟨e, j, q, he, hj, hq, hsame, hbefore⟩
    refine ⟨e, he, haddr.trans (congrArg Except.ok ?_)⟩
    -- another server chosen would come before `q`
    by_contra hother
    have hahead := hbefore i s hi hs hother
    have hbehind := hfirst j q hj hq
    omega

def crowdedRegions : List Server :=
  [⟨"us-10", ⟨.v4 ⟨10, 0, 0, 10⟩, 51821⟩, some 10⟩, ⟨"us-1", ⟨.v4 ⟨10, 0, 0, 1⟩, 51821⟩, some 50⟩]

/-- **A server that merely shares a prefix wins**: `us-10` for a session in `us-1`. -/
theorem prefix_match_wins :
    (∃ e ∈ crowdedRegions, e.region = "us-1") ∧
      resolveRelayForRegion "us-1" crowdedRegions = .ok ⟨.v4 ⟨10, 0, 0, 10⟩, 51821⟩ ∧
      ¬ ∃ e, BestExact "us-1" crowdedRegions e ∧
        resolveRelayForRegion "us-1" crowdedRegions = .ok e.addr := by
  have hchosen : resolveRelayForRegion "us-1" crowdedRegions =
      .ok ⟨.v4 ⟨10, 0, 0, 10⟩, 51821⟩ := by decide
  refine ⟨by decide, hchosen, ?_⟩
  rintro ⟨e, he, hok⟩
  have hmem := he.listed
  rw [crowdedRegions, List.mem_cons, List.mem_singleton] at hmem
  rcases hmem with rfl | rfl
  · exact absurd he.region_eq (by decide)
  · rw [hchosen] at hok
    exact absurd hok (by decide)

/-- The exact match is found when it is the nearer one. -/
theorem exact_match_wins_nearer :
    ∃ e, BestExact "us-10" crowdedRegions e ∧
      resolveRelayForRegion "us-10" crowdedRegions = .ok e.addr := by
  have hbest : BestExact "us-10" crowdedRegions
      ⟨"us-10", ⟨.v4 ⟨10, 0, 0, 10⟩, 51821⟩, some 10⟩ := by
    refine ⟨by decide, rfl, fun e he hregion ms hms => ?_⟩
    rw [crowdedRegions, List.mem_cons, List.mem_singleton] at he
    rcases he with rfl | rfl
    · exact ⟨ms, hms, UInt32.le_refl ms⟩
    · exact absurd hregion (by decide)
  refine (exact_match_wins_iff (by decide)).mpr
    ⟨_, 0, _, hbest, rfl, by decide, rfl, fun j q hj hq hother => ?_⟩
  cases j with
  | zero =>
    obtain rfl := Option.some.inj hj
    exact absurd rfl hother
  | succ j =>
    cases j with
    | zero =>
      obtain rfl := Option.some.inj hj
      exact Or.inl (by decide)
    | succ j => simp [crowdedRegions] at hj

/-! ## 3. The pool of asset relays -/

/-- A shuffle: some order of the list. -/
def Shuffle := { f : List Server → List Server // ∀ l, (f l).Perm l }

/-- The closure `dedup`: the first server of each address other than the gameplay relay's;
`seen` is the set of addresses met. -/
def dedupByIp (primary : SocketAddr) : List IpAddr → List Server → List (String × SocketAddr)
  | _, [] => []
  | seen, s :: rest =>
    if s.addr.ip ≠ primary.ip ∧ s.addr.ip ∉ seen then
      (s.region, s.addr) :: dedupByIp primary (s.addr.ip :: seen) rest
    else dedupByIp primary seen rest

/-- The loop that fills the pool up to `count` with addresses that it does not hold yet. -/
def fillPool (count : Nat) :
    List (String × SocketAddr) → List (String × SocketAddr) → List (String × SocketAddr)
  | pool, [] => pool
  | pool, e :: rest =>
    if count ≤ pool.length then pool
    else if pool.any fun p => p.2.ip == e.2.ip then fillPool count pool rest
    else fillPool count (pool ++ [e]) rest

/-- `pick_asset_relays`. -/
def pickAssetRelays (available : List Server) (primary : SocketAddr) (region : String)
    (count : Nat) (shuffleFar shuffleRest : Shuffle) : List (String × SocketAddr) :=
  let far := shuffleFar.1 (available.filter fun s => !regionMatches s.region region)
  let pool := dedupByIp primary [] far
  let pool :=
    if pool.length < count then fillPool count pool (dedupByIp primary [] (shuffleRest.1 available))
    else pool
  pool.take count

/-! ## 4. What the pool holds -/

/-- The addresses of the servers other than the gameplay relay's. -/
def otherIps (primary : SocketAddr) (servers : List Server) : List IpAddr :=
  (servers.map fun s => s.addr.ip).filter (· ≠ primary.ip)

def poolIps (pool : List (String × SocketAddr)) : List IpAddr := pool.map fun e => e.2.ip

theorem mem_otherIps {primary : SocketAddr} {servers : List Server} {ip : IpAddr} :
    ip ∈ otherIps primary servers ↔ (∃ s ∈ servers, s.addr.ip = ip) ∧ ip ≠ primary.ip := by
  simp [otherIps]

/-- Servers of the list, at distinct addresses other than the gameplay relay's. -/
structure IsPool (primary : SocketAddr) (servers : List Server)
    (pool : List (String × SocketAddr)) : Prop where
  listed : ∀ e ∈ pool, ∃ s ∈ servers, e = (s.region, s.addr)
  nodup : (poolIps pool).Nodup
  other : primary.ip ∉ poolIps pool

namespace IsPool

variable {primary : SocketAddr} {servers : List Server} {pool : List (String × SocketAddr)}

theorem subset (h : IsPool primary servers pool) : poolIps pool ⊆ otherIps primary servers := by
  intro ip hip
  obtain ⟨e, he, rfl⟩ := List.mem_map.mp hip
  obtain ⟨s, hs, rfl⟩ := h.listed e he
  exact mem_otherIps.mpr ⟨⟨s, hs, rfl⟩, fun heq => h.other (heq ▸ hip)⟩

theorem card_toFinset (h : IsPool primary servers pool) :
    (poolIps pool).toFinset.card = pool.length := by
  rw [List.toFinset_card_of_nodup h.nodup, poolIps, List.length_map]

/-- It has at most one server for each address. -/
theorem length_le (h : IsPool primary servers pool) :
    pool.length ≤ (otherIps primary servers).toFinset.card := by
  rw [← h.card_toFinset]
  exact Finset.card_le_card fun ip hip =>
    List.mem_toFinset.mpr (h.subset (List.mem_toFinset.mp hip))

/-- It has one for each when it has them all. -/
theorem length_eq (h : IsPool primary servers pool)
    (hall : ∀ ip ∈ otherIps primary servers, ip ∈ poolIps pool) :
    pool.length = (otherIps primary servers).toFinset.card := by
  refine Nat.le_antisymm h.length_le ?_
  rw [← h.card_toFinset]
  exact Finset.card_le_card fun ip hip =>
    List.mem_toFinset.mpr (hall ip (List.mem_toFinset.mp hip))

theorem sublist {part : List (String × SocketAddr)} (h : IsPool primary servers pool)
    (hpart : part.Sublist pool) : IsPool primary servers part where
  listed e he := h.listed e (hpart.subset he)
  nodup := h.nodup.sublist (hpart.map _)
  other hmem := h.other ((hpart.map _).subset hmem)

theorem concat {e : String × SocketAddr} {rest : List (String × SocketAddr)}
    (h : IsPool primary servers pool) (hrest : IsPool primary servers (e :: rest))
    (hnew : e.2.ip ∉ poolIps pool) : IsPool primary servers (pool ++ [e]) where
  listed e' he' := by
    rcases List.mem_append.mp he' with he' | he'
    · exact h.listed e' he'
    · obtain rfl := List.mem_singleton.mp he'
      exact hrest.listed e' List.mem_cons_self
  nodup := by
    rw [poolIps, List.map_append, List.map_singleton]
    exact List.nodup_append_comm.mp (List.nodup_cons.mpr ⟨hnew, h.nodup⟩)
  other hmem := by
    rw [poolIps, List.map_append, List.mem_append, List.map_singleton, List.mem_singleton] at hmem
    rcases hmem with hmem | heq
    · exact h.other hmem
    · exact hrest.other (heq ▸ List.mem_cons_self)

theorem mono {servers' : List Server} (h : IsPool primary servers pool)
    (hsub : servers ⊆ servers') : IsPool primary servers' pool where
  listed e he := by
    obtain ⟨s, hs, rfl⟩ := h.listed e he
    exact ⟨s, hsub hs, rfl⟩
  nodup := h.nodup
  other := h.other

end IsPool

/-- **De-duplication keeps every address**, other than those met. -/
theorem mem_poolIps_dedupByIp {primary : SocketAddr} {ip : IpAddr} (servers : List Server)
    (seen : List IpAddr) :
    ip ∈ poolIps (dedupByIp primary seen servers) ↔ ip ∈ otherIps primary servers ∧ ip ∉ seen := by
  fun_induction dedupByIp primary seen servers with
  | case1 seen => simp [poolIps, otherIps]
  | case2 seen s rest hnew ih =>
    rw [poolIps, List.map_cons, List.mem_cons, ← poolIps, ih]
    simp only [mem_otherIps, List.mem_cons, exists_eq_or_imp, not_or]
    by_cases hip : ip = s.addr.ip
    · subst hip
      simp [hnew]
    · simp [hip, Ne.symm hip]
  | case3 seen s rest hold ih =>
    rw [ih]
    simp only [mem_otherIps, List.mem_cons, exists_eq_or_imp]
    by_cases hip : s.addr.ip = ip
    · subst hip
      simp only [true_or, true_and]
      tauto
    · simp [hip]

theorem dedupByIp_isPool (primary : SocketAddr) (servers : List Server) (seen : List IpAddr) :
    IsPool primary servers (dedupByIp primary seen servers) where
  listed := by
    fun_induction dedupByIp primary seen servers with
    | case1 seen => simp
    | case2 seen s rest hnew ih =>
      intro e he
      rcases List.mem_cons.mp he with rfl | he
      · exact ⟨s, List.mem_cons_self, rfl⟩
      · obtain ⟨s', hs', rfl⟩ := ih e he
        exact ⟨s', List.mem_cons_of_mem _ hs', rfl⟩
    | case3 seen s rest hold ih =>
      intro e he
      obtain ⟨s', hs', rfl⟩ := ih e he
      exact ⟨s', List.mem_cons_of_mem _ hs', rfl⟩
  nodup := by
    fun_induction dedupByIp primary seen servers with
    | case1 seen => simp [poolIps]
    | case2 seen s rest hnew ih =>
      refine List.nodup_cons.mpr ⟨fun hmem => ?_, ih⟩
      exact ((mem_poolIps_dedupByIp rest _).mp hmem).2 List.mem_cons_self
    | case3 seen s rest hold ih => exact ih
  other hmem := (mem_otherIps.mp ((mem_poolIps_dedupByIp servers seen).mp hmem).1).2 rfl

theorem prefix_fillPool (count : Nat) (pool rest : List (String × SocketAddr)) :
    pool <+: fillPool count pool rest := by
  fun_induction fillPool count pool rest with
  | case1 pool => exact List.prefix_rfl
  | case2 pool e rest hfull => exact List.prefix_rfl
  | case3 pool e rest hfull hin ih => exact ih
  | case4 pool e rest hfull hout ih => exact (List.prefix_append _ _).trans ih

theorem any_ip_iff {pool : List (String × SocketAddr)} {ip : IpAddr} :
    (pool.any fun e => e.2.ip == ip) = true ↔ ip ∈ poolIps pool := by
  simp [poolIps]

theorem fillPool_isPool {primary : SocketAddr} {servers : List Server} {count : Nat}
    {pool rest : List (String × SocketAddr)} (hpool : IsPool primary servers pool)
    (hrest : IsPool primary servers rest) : IsPool primary servers (fillPool count pool rest) := by
  fun_induction fillPool count pool rest with
  | case1 pool => exact hpool
  | case2 pool e rest hfull => exact hpool
  | case3 pool e rest hfull hin ih => exact ih hpool (hrest.sublist (List.sublist_cons_self e rest))
  | case4 pool e rest hfull hout ih =>
    refine ih (hpool.concat hrest ?_) (hrest.sublist (List.sublist_cons_self e rest))
    rwa [any_ip_iff] at hout

/-- The loop stops short of `count` only when it has gone through everything. -/
theorem fillPool_full {count : Nat} {pool rest : List (String × SocketAddr)}
    (hshort : (fillPool count pool rest).length < count) {ip : IpAddr} (hip : ip ∈ poolIps rest) :
    ip ∈ poolIps (fillPool count pool rest) := by
  have hkept : ∀ {pool rest : List (String × SocketAddr)}, ip ∈ poolIps pool →
      ip ∈ poolIps (fillPool count pool rest) := fun {pool rest} hmem =>
    ((prefix_fillPool count pool rest).sublist.map _).subset hmem
  fun_induction fillPool count pool rest with
  | case1 pool => exact nomatch hip
  | case2 pool e rest hfull => exact absurd hshort (Nat.not_lt.mpr hfull)
  | case3 pool e rest hfull hin ih =>
    rcases List.mem_cons.mp hip with rfl | hip
    · exact hkept (any_ip_iff.mp hin)
    · exact ih hshort hip
  | case4 pool e rest hfull hout ih =>
    rcases List.mem_cons.mp hip with rfl | hip
    · exact hkept (by simp [poolIps])
    · exact ih hshort hip

/-- A shuffle adds no server. -/
theorem shuffled_isPool {primary : SocketAddr} (shuffle : Shuffle) {part servers : List Server}
    (hpart : part ⊆ servers) :
    IsPool primary servers (dedupByIp primary [] (shuffle.1 part)) :=
  (dedupByIp_isPool primary _ []).mono fun _ hs => hpart ((shuffle.2 part).subset hs)

/-- A shuffle loses no address. -/
theorem mem_poolIps_shuffled {primary : SocketAddr} {ip : IpAddr} (shuffle : Shuffle)
    (servers : List Server) :
    ip ∈ poolIps (dedupByIp primary [] (shuffle.1 servers)) ↔ ip ∈ otherIps primary servers := by
  simp [mem_poolIps_dedupByIp, mem_otherIps, (shuffle.2 servers).mem_iff]

section TopUp

variable {primary : SocketAddr} {servers : List Server} {count : Nat}
  {pool rest : List (String × SocketAddr)}

theorem topUp_isPool (count : Nat) (hpool : IsPool primary servers pool)
    (hrest : IsPool primary servers rest) :
    IsPool primary servers (if pool.length < count then fillPool count pool rest else pool) := by
  split
  · exact fillPool_isPool hpool hrest
  · exact hpool

/-- A pool that may be topped up with every address has as many as there are, up to `count`. -/
theorem length_topUp (hpool : IsPool primary servers pool) (hrest : IsPool primary servers rest)
    (hall : ∀ ip ∈ otherIps primary servers, ip ∈ poolIps rest) :
    ((if pool.length < count then fillPool count pool rest else pool).take count).length =
      min count (otherIps primary servers).toFinset.card := by
  have hle := (topUp_isPool count hpool hrest).length_le
  rw [List.length_take]
  by_cases hshort : pool.length < count
  · rw [if_pos hshort] at hle ⊢
    by_cases hlen : (fillPool count pool rest).length < count
    · -- the loop has gone through every address
      have hcard := (fillPool_isPool hpool hrest).length_eq fun ip hip =>
        fillPool_full hlen (hall ip hip)
      rw [hcard]
    · have hcount := Nat.not_lt.mp hlen
      rw [Nat.min_eq_left hcount, Nat.min_eq_left (hcount.trans hle)]
  · rw [if_neg hshort] at hle ⊢
    have hcount := Nat.not_lt.mp hshort
    rw [Nat.min_eq_left hcount, Nat.min_eq_left (hcount.trans hle)]

/-- Only a pool that is there as a whole is topped up. -/
theorem prefix_topUp {e : String × SocketAddr}
    (he : e ∈ (if pool.length < count then fillPool count pool rest else pool).take count)
    (hnew : e ∉ pool) :
    pool <+: (if pool.length < count then fillPool count pool rest else pool).take count := by
  by_cases hshort : pool.length < count
  · rw [if_pos hshort]
    exact List.prefix_take_iff.mpr ⟨prefix_fillPool count pool rest, hshort.le⟩
  · rw [if_neg hshort] at he
    exact absurd (List.mem_of_mem_take he) hnew

end TopUp

/-- **What the pool of asset relays holds**, whatever the shuffles do: servers of the list at
distinct addresses other than the gameplay relay's, as many as are asked for while there are
addresses, and one of the gameplay region only when every address of a far server is there. -/
theorem pickAssetRelays_spec (available : List Server) (primary : SocketAddr) (region : String)
    (count : Nat) (shuffleFar shuffleRest : Shuffle) :
    let pool := pickAssetRelays available primary region count shuffleFar shuffleRest
    (∀ e ∈ pool, ∃ s ∈ available, e = (s.region, s.addr)) ∧ (poolIps pool).Nodup ∧
      primary.ip ∉ poolIps pool ∧
      pool.length = min count (otherIps primary available).toFinset.card ∧
      ((∃ e ∈ pool, regionMatches e.1 region = true) →
        ∀ s ∈ available, regionMatches s.region region = false → s.addr.ip ≠ primary.ip →
          s.addr.ip ∈ poolIps pool) := by
  let far := available.filter fun s => !regionMatches s.region region
  have hfar : IsPool primary far (dedupByIp primary [] (shuffleFar.1 far)) :=
    shuffled_isPool shuffleFar (List.Subset.refl far)
  have hfar' := hfar.mono List.filter_sublist.subset
  have hrest : IsPool primary available (dedupByIp primary [] (shuffleRest.1 available)) :=
    shuffled_isPool shuffleRest (List.Subset.refl available)
  have hpool := (topUp_isPool count hfar' hrest).sublist (List.take_sublist count _)
  refine ⟨hpool.listed, hpool.nodup, hpool.other, ?_, ?_⟩
  · exact length_topUp hfar' hrest fun ip hip => (mem_poolIps_shuffled shuffleRest available).mpr hip
  · rintro ⟨e, he, hmatch⟩ s hs hfars hip
    -- a server of the gameplay region is not one of the far pool
    have hnew : e ∉ dedupByIp primary [] (shuffleFar.1 far) := by
      intro hmem
      obtain ⟨s', hs', rfl⟩ := hfar.listed e hmem
      simpa [hmatch] using (List.mem_filter.mp hs').2
    refine ((prefix_topUp he hnew).sublist.map _).subset
      ((mem_poolIps_shuffled shuffleFar far).mpr ?_)
    exact mem_otherIps.mpr ⟨⟨s, List.mem_filter.mpr ⟨hs, by simp [hfars]⟩, rfl⟩, hip⟩

end SwiftTunnel
