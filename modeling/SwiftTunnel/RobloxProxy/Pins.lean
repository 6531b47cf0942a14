/-
# From resolved addresses to pins

`allocate_route_assist_pins` and `country_ban_split_ips_from_overrides`: which resolved addresses
are relayed, which stay direct, and which are written to the hosts file.

Route Assist splits the overrides into those of relayed and of direct hosts, and one address may be
resolved for both.  `other_pool` is what the hosts of the other kind claim; a host gives up such an
address as long as it has another one (`keptFor`).  Under a country ban nothing is split.

* `mem_of_mem_writable`: what is written was resolved.
* `notMem_active_of_directOnly`: the relayed and the direct addresses are apart.
* `directOnly_of_onlyDirect`: Route Assist keeps direct an address that was resolved for launch
  and sign-in hosts only.
* `active_of_mem_countryBan`: under a country ban every resolved address is relayed.

What the whole allocation comes to is in `Allocation`.
-/
import SwiftTunnel.Shared
import SwiftTunnel.RobloxProxy.Domains

namespace SwiftTunnel

open Rust

/-! ## 1. The two splits -/

/-- `entries.map(|entry| (entry.ip, entry.domain.clone())).collect::<HashMap<_, _>>()`. -/
def ipDomainMap (entries : List HostOverride) : Map Ipv4Addr String :=
  entries.foldl (fun m e => m.insert e.ip e.domain) ∅

/-- The domains of a list of overrides, each once, ignoring case. -/
def distinctDomains (overrides : List HostOverride) : List String :=
  overrides.foldl
    (fun ds e => if ds.any (fun d => eqIgnoreAsciiCase d e.domain) then ds else ds ++ [e.domain]) []

/-- `other_pool`: the addresses of the hosts that are not routed as `domain` is. -/
def otherPool (overrides : List HostOverride) (domain : String) : List Ipv4Addr :=
  let directPool := (overrides.filter (fun e => isRouteAssistDirectDomain e.domain)).map (·.ip)
  let activePool := (overrides.filter (fun e => !isRouteAssistDirectDomain e.domain)).map (·.ip)
  if isRouteAssistDirectDomain domain then activePool else directPool

/-- The overrides of one domain that are kept: those at an address the other pool does not
claim, or all of them when there is none. -/
def keptFor (overrides : List HostOverride) (domain : String) : List HostOverride :=
  let candidates := overrides.filter (fun e => eqIgnoreAsciiCase e.domain domain)
  let conflictFree := candidates.filter (fun e => !(otherPool overrides domain).contains e.ip)
  if conflictFree.isEmpty then candidates else conflictFree

/-- What the allocator hands on: the overrides to write, the relayed addresses, and the direct
ones. -/
structure PinAllocation where
  writable : List HostOverride
  active : Map Ipv4Addr String
  directOnly : Finset Ipv4Addr

/-- `allocate_route_assist_pins`. -/
def allocateRouteAssistPins (overrides : List HostOverride) : PinAllocation :=
  let kept := (distinctDomains overrides).flatMap (keptFor overrides)
  let active := ipDomainMap (kept.filter (fun e => !isRouteAssistDirectDomain e.domain))
  let directOnly := ((kept.filter (fun e => isRouteAssistDirectDomain e.domain)).map (·.ip)).filter
    (fun ip => decide (ip ∉ active)) |>.toFinset
  let writable := kept.filter (fun e => !isRouteAssistDirectDomain e.domain ||
    (isPinnedRouteAssistDirectDomain e.domain && decide (e.ip ∈ directOnly)))
  ⟨writable, active, directOnly⟩

/-- `country_ban_split_ips_from_overrides`. -/
def countryBanSplitIpsFromOverrides (overrides : List HostOverride) :
    Map Ipv4Addr String × Finset Ipv4Addr :=
  (ipDomainMap overrides, ∅)

/-! ## 2. Maps built from a list -/

theorem mem_foldl_insert {ip : Ipv4Addr} : ∀ (es : List HostOverride) (m : Map Ipv4Addr String),
    ip ∈ es.foldl (fun m e => m.insert e.ip e.domain) m ↔ (∃ e ∈ es, e.ip = ip) ∨ ip ∈ m
  | [], m => by simp
  | e :: es, m => by
    rw [List.foldl_cons, mem_foldl_insert es, AList.mem_insert]
    constructor
    · rintro (⟨e', he, hip⟩ | rfl | hm)
      · exact Or.inl ⟨e', List.mem_cons_of_mem _ he, hip⟩
      · exact Or.inl ⟨e, List.mem_cons_self, rfl⟩
      · exact Or.inr hm
    · rintro (⟨e', he, hip⟩ | hm)
      · rcases List.mem_cons.mp he with rfl | he
        · exact Or.inr (Or.inl hip.symm)
        · exact Or.inl ⟨e', he, hip⟩
      · exact Or.inr (Or.inr hm)

@[simp] theorem mem_ipDomainMap {es : List HostOverride} {ip : Ipv4Addr} :
    ip ∈ ipDomainMap es ↔ ∃ e ∈ es, e.ip = ip := by
  rw [ipDomainMap, mem_foldl_insert]
  simp [AList.notMem_empty]

/-! ## 3. What is kept -/

/-- Every domain of the list stands among the distinct ones, ignoring case. -/
theorem exists_mem_foldl_domains : ∀ (es : List HostOverride) (ds : List String) (d : String),
    (d ∈ ds ∨ ∃ e ∈ es, e.domain = d) →
      ∃ d' ∈ es.foldl (fun ds e => if ds.any (fun d => eqIgnoreAsciiCase d e.domain) then ds
        else ds ++ [e.domain]) ds, toAsciiLowercase d' = toAsciiLowercase d
  | [], ds, d, h => by
    rcases h with h | ⟨e, he, -⟩
    · exact ⟨d, h, rfl⟩
    · exact absurd he (List.not_mem_nil)
  | e :: es, ds, d, h => by
    rw [List.foldl_cons]
    rcases h with h | ⟨e', he, rfl⟩
    · refine exists_mem_foldl_domains es _ d (Or.inl ?_)
      split
      · exact h
      · exact List.mem_append_left _ h
    · rcases List.mem_cons.mp he with rfl | he
      · split
        · rename_i hany
          obtain ⟨d', hd', heq⟩ := List.any_eq_true.mp hany
          obtain ⟨d2, hd2, heq2⟩ := exists_mem_foldl_domains es ds d' (Or.inl hd')
          exact ⟨d2, hd2, heq2.trans (eqIgnoreAsciiCase_iff.mp heq)⟩
        · exact exists_mem_foldl_domains es _ _ (Or.inl (by simp))
      · exact exists_mem_foldl_domains es _ _ (Or.inr ⟨e', he, rfl⟩)

theorem exists_mem_distinctDomains {es : List HostOverride} {e : HostOverride} (he : e ∈ es) :
    ∃ d ∈ distinctDomains es, toAsciiLowercase d = toAsciiLowercase e.domain :=
  exists_mem_foldl_domains es [] e.domain (Or.inr ⟨e, he, rfl⟩)

theorem keptFor_subset {es : List HostOverride} {d : String} {e : HostOverride}
    (he : e ∈ keptFor es d) : e ∈ es ∧ toAsciiLowercase e.domain = toAsciiLowercase d := by
  unfold keptFor at he
  simp only at he
  split at he
  · rw [List.mem_filter, eqIgnoreAsciiCase_iff] at he
    exact he
  · rw [List.mem_filter, List.mem_filter, eqIgnoreAsciiCase_iff] at he
    exact he.1

/-- Everything kept was resolved. -/
theorem mem_of_mem_kept {es : List HostOverride} {e : HostOverride}
    (he : e ∈ (distinctDomains es).flatMap (keptFor es)) : e ∈ es := by
  obtain ⟨d, -, hd⟩ := List.mem_flatMap.mp he
  exact (keptFor_subset hd).1

theorem mem_otherPool {es : List HostOverride} {d : String} {ip : Ipv4Addr} :
    ip ∈ otherPool es d ↔
      ∃ e ∈ es, isRouteAssistDirectDomain e.domain = !isRouteAssistDirectDomain d ∧ e.ip = ip := by
  unfold otherPool
  cases hd : isRouteAssistDirectDomain d <;> simp [and_assoc]

/-- An override of a domain at an address that the other pool does not claim is kept. -/
theorem mem_keptFor_of_conflictFree {es : List HostOverride} {d : String} {e : HostOverride}
    (he : e ∈ es) (hd : toAsciiLowercase e.domain = toAsciiLowercase d)
    (hother : e.ip ∉ otherPool es d) : e ∈ keptFor es d := by
  have hcand : e ∈ es.filter (fun e => eqIgnoreAsciiCase e.domain d) :=
    List.mem_filter.mpr ⟨he, eqIgnoreAsciiCase_iff.mpr hd⟩
  unfold keptFor
  simp only
  split
  · exact hcand
  · refine List.mem_filter.mpr ⟨hcand, ?_⟩
    rw [Bool.not_eq_true', List.contains_eq_mem, decide_eq_false_iff_not]
    exact hother

/-- **What is written was resolved.** -/
theorem mem_of_mem_writable {es : List HostOverride} {e : HostOverride}
    (he : e ∈ (allocateRouteAssistPins es).writable) : e ∈ es :=
  mem_of_mem_kept (List.mem_filter.mp he).1

/-! ## 4. Launch and sign-in hosts -/

/-- The list resolves `ip`, and only for launch and sign-in hosts. -/
def OnlyDirect (es : List HostOverride) (ip : Ipv4Addr) : Prop :=
  (∃ e ∈ es, e.ip = ip) ∧ ∀ e ∈ es, e.ip = ip → isDirectOnlyBootstrapDomain e.domain = true

/-- The relayed and the direct addresses of an allocation are apart. -/
theorem notMem_active_of_directOnly {es : List HostOverride} {ip : Ipv4Addr}
    (h : ip ∈ (allocateRouteAssistPins es).directOnly) :
    ip ∉ (allocateRouteAssistPins es).active := by
  simp only [allocateRouteAssistPins, List.mem_toFinset, List.mem_filter, decide_eq_true_eq] at h
  exact h.2

/-- **Route Assist keeps an address direct that only launch and sign-in hosts resolved to.** -/
theorem directOnly_of_onlyDirect {es : List HostOverride} {ip : Ipv4Addr} (h : OnlyDirect es ip) :
    ip ∈ (allocateRouteAssistPins es).directOnly ∧ ip ∉ (allocateRouteAssistPins es).active := by
  obtain ⟨⟨e, he, hip⟩, honly⟩ := h
  have hdirect : ∀ e' ∈ es, e'.ip = ip → isRouteAssistDirectDomain e'.domain = true :=
    fun e' he' hip' => isRouteAssistDirectDomain_of_directOnly (honly e' he' hip')
  have hkept : e ∈ (distinctDomains es).flatMap (keptFor es) := by
    obtain ⟨d, hd, hlow⟩ := exists_mem_distinctDomains he
    refine List.mem_flatMap.mpr ⟨d, hd, mem_keptFor_of_conflictFree he hlow.symm ?_⟩
    have hdd : isRouteAssistDirectDomain d = true :=
      isRouteAssistDirectDomain_of_directOnly (isDirectOnlyBootstrapDomain_iff.mpr
        (hlow ▸ isDirectOnlyBootstrapDomain_iff.mp (honly e he hip)))
    intro hother
    obtain ⟨e', he', hact, hip'⟩ := mem_otherPool.mp hother
    rw [hdd, hdirect e' he' (hip'.trans hip)] at hact
    exact nomatch hact
  have hmem : ip ∈ (allocateRouteAssistPins es).directOnly := by
    simp only [allocateRouteAssistPins, List.mem_toFinset, List.mem_filter, decide_eq_true_eq]
    refine ⟨List.mem_map.mpr ⟨e, List.mem_filter.mpr ⟨hkept, hdirect e he hip⟩, hip⟩, ?_⟩
    rw [mem_ipDomainMap]
    rintro ⟨e', he', hip'⟩
    obtain ⟨hk, hact⟩ := List.mem_filter.mp he'
    rw [hdirect e' (mem_of_mem_kept hk) hip'] at hact
    exact nomatch hact
  exact ⟨hmem, notMem_active_of_directOnly hmem⟩

/-- **Under a country ban every resolved address is relayed** and none is direct. -/
theorem active_of_mem_countryBan {es : List HostOverride} {ip : Ipv4Addr} :
    ip ∈ (countryBanSplitIpsFromOverrides es).1 ↔ ∃ e ∈ es, e.ip = ip := mem_ipDomainMap

end SwiftTunnel
