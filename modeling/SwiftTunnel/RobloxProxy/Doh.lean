/-
# DNS over HTTPS: where connect-time pins come from

The resolver half of `hosts.rs`.  The answers of the resolvers, the outcome of the
reachability probes and the order in which the lookups finish are inputs; what the code makes of
them is the model.  JSON decoding is not modelled: a body is given as the decoded answer, or as
the error text of the decoder.

Each stage passes on addresses that it was given, so the property of the first one,
`is_usable_public_ipv4`, goes through all of them; and each pass asks for hosts of its own list.

* `usable_of_parsed`: what is read of an answer is usable.
* `mem_of_pass`: a pass resolves its own domains, to usable addresses.
* `allowed_of_resolved`: whatever the resolvers answer, a resolved override is a listed host at a
  usable public address.

That an address is the host's own is not claimed: a resolver may say what it likes.
-/
import SwiftTunnel.RobloxProxy.HostsFile

namespace SwiftTunnel

open Rust

/-! ## 1. One answer -/

/-- `DohJsonAnswer`. -/
structure DohJsonAnswer where
  recordType : UInt16
  data : String

/-- `DohJsonResponse`. -/
structure DohJsonResponse where
  status : UInt32
  answer : List DohJsonAnswer

/-- A decimal octet: at most three digits, no leading zero, at most 255. -/
def parseOctet (cs : List Char) : Option UInt8 :=
  let value := cs.foldl (fun n c => n * 10 + (c.toNat - 48)) 0
  if 1 ≤ cs.length ∧ cs.length ≤ 3 ∧ cs.all Char.isDigit = true ∧
      (cs.head? = some '0' → cs.length = 1) ∧ value ≤ 255 then
    some (UInt8.ofNat value)
  else none

/-- `str::parse::<Ipv4Addr>`. -/
def parseIpv4 (s : String) : Option Ipv4Addr :=
  match s.toList.splitOn '.' with
  | [a, b, c, d] => do
    let a ← parseOctet a
    let b ← parseOctet b
    let c ← parseOctet c
    let d ← parseOctet d
    return ⟨a, b, c, d⟩
  | _ => none

/-- `parse_usable_a_records`, from the result of the JSON decoder on. -/
def parseUsableARecords (json : Except String DohJsonResponse) : Except String (List Ipv4Addr) :=
  match json with
  | .error e => .error ("invalid DNS JSON: " ++ e)
  | .ok response =>
    if response.status ≠ 0 then .error ("DNS status " ++ toString response.status.toNat)
    else .ok (((response.answer.filter (fun a => a.recordType = 1)).filterMap
      (fun a => parseIpv4 a.data)).filter isUsablePublicIpv4)

/-! ## 2. One domain -/

/-- `MAX_PINNED_IPS_PER_DOMAIN`. -/
def maxPinnedIpsPerDomain : Nat := 6

/-- `DNS_REPAIR_RESOLVERS`. -/
def dnsRepairResolvers : List String :=
  ["https://1.1.1.1/dns-query", "https://8.8.8.8/resolve", "https://9.9.9.9:5053/dns-query",
    "https://94.140.14.14/resolve"]

/-- What comes of one request to a resolver. -/
inductive DohReply where
  | requestFailed (e : String)
  | badStatus (status : String)
  | readFailed (e : String)
  | body (json : Except String DohJsonResponse)

/-- What the network answers during one pass. -/
structure DohWorld where
  /-- The reply of a resolver for a domain. -/
  reply : String → String → DohReply
  /-- `probe_tcp_reachable(ip, 443)`. -/
  reachable : Ipv4Addr → Bool

/-- `dedup_and_cap_ips`: the first `cap` addresses, each once, in order. -/
def dedupAndCapIps (ips : List Ipv4Addr) (cap : Nat) : List Ipv4Addr :=
  (ips.foldl (fun out ip => if ip ∈ out then out else out ++ [ip]) []).take cap

/-- One turn of the loop of `resolve_domain_ips`: the addresses of a resolver, or what to note
as its failure. -/
def askResolver (w : DohWorld) (domain resolver : String) : Except String (List Ipv4Addr) :=
  match w.reply resolver domain with
  | .requestFailed e => .error (resolver ++ ": request failed: " ++ e)
  | .badStatus s => .error (resolver ++ ": HTTP " ++ s)
  | .readFailed e => .error (resolver ++ ": response read failed: " ++ e)
  | .body json =>
    match parseUsableARecords json with
    | .error e => .error (resolver ++ ": " ++ e)
    | .ok ips =>
      if ips.isEmpty then .error (resolver ++ ": no usable public A records")
      else .ok (dedupAndCapIps ips maxPinnedIpsPerDomain)

/-- The loop of `resolve_domain_ips` over the resolvers; `failures` is what it has noted. -/
def askResolvers (w : DohWorld) (domain : String) :
    List String → List String → Except String (List Ipv4Addr)
  | [], failures =>
    .error (domain ++ " could not be repaired via DNS-over-HTTPS (" ++
      String.intercalate "; " failures ++ ")")
  | resolver :: rest, failures =>
    match askResolver w domain resolver with
    | .ok ips => .ok ips
    | .error e => askResolvers w domain rest (failures ++ [e])

/-- `resolve_domain_ips`. -/
def resolveDomainIps (w : DohWorld) (domain : String) : Except String (List Ipv4Addr) :=
  askResolvers w domain dnsRepairResolvers []

/-- `resolve_reachable_domain_ips`.  The probes run at once and their results are put back in
order, so `filter_reachable_ips` is a filter. -/
def resolveReachableDomainIps (w : DohWorld) (domain : String) : Except String (List Ipv4Addr) :=
  match resolveDomainIps w domain with
  | .error e => .error e
  | .ok candidates =>
    let reachable := candidates.filter w.reachable
    if reachable.isEmpty then .error (domain ++ " resolved but no IP answered on :443")
    else .ok reachable

/-! ## 3. All domains -/

/-- One run of `resolve_domains_with_timeout`: what the network answers, and what
`join_next` returns before the deadline, a domain whose task has ended or the error of a task
that did not. -/
structure DohPass (domains : List String) where
  world : DohWorld
  joined : List (Except String { d // d ∈ domains })
  joined_le : joined.length ≤ domains.length

/-- The overrides that a joined task adds. -/
def DohPass.overridesOf {domains : List String} (p : DohPass domains) :
    Except String { d // d ∈ domains } → List HostOverride
  | .error _ => []
  | .ok d =>
    match resolveReachableDomainIps p.world d.1 with
    | .error _ => []
    | .ok ips => ips.map (fun ip => ⟨ip, d.1⟩)

/-- The failures that a joined task adds. -/
def DohPass.failuresOf {domains : List String} (p : DohPass domains) :
    Except String { d // d ∈ domains } → List String
  | .error e => ["DNS task join error: " ++ e]
  | .ok d =>
    match resolveReachableDomainIps p.world d.1 with
    | .error e => [e]
    | .ok _ => []

/-- `resolve_domains_with_timeout`: what it appends to `overrides` and to `failures`. -/
def resolveDomainsWithTimeout {domains : List String} (p : DohPass domains) (totalTimeoutSecs : Nat) :
    List HostOverride × List String :=
  let remaining := domains.length - p.joined.length
  (p.joined.flatMap p.overridesOf,
    p.joined.flatMap p.failuresOf ++
      if remaining > 0 then
        [toString remaining ++ " Roblox bootstrap DNS lookup(s) exceeded " ++
          toString totalTimeoutSecs ++ "s total timeout"]
      else [])

/-- `missing_direct_only_domains`. -/
def missingDirectOnlyDomains (overrides : List HostOverride) : List String :=
  directOnlyBootstrapDomains.filter
    (fun domain => !overrides.any (fun e => eqIgnoreAsciiCase e.domain domain))

/-- What happens during one call of `resolve_bootstrap_overrides`. -/
structure DohRun where
  /-- The error of the HTTP client builder. -/
  clientErr : Option String
  /-- The pass over all hosts. -/
  main : DohPass robloxBootstrapDomains
  /-- The second pass, over the launch and sign-in hosts that are missing. -/
  retry : ∀ missing : List String, DohPass missing

/-- The overrides and the failures of the pass over all hosts, and of the second pass when
there is one. -/
def DohRun.gathered (r : DohRun) : List HostOverride × List String :=
  let first := resolveDomainsWithTimeout r.main 10
  let missing := missingDirectOnlyDomains first.1
  if first.1 ≠ [] ∧ missing ≠ [] then
    let second := resolveDomainsWithTimeout (r.retry missing) 8
    (first.1 ++ second.1, first.2 ++ second.2)
  else first

/-- `resolve_bootstrap_overrides`. -/
def resolveBootstrapOverrides (r : DohRun) : Except String (List HostOverride) :=
  match r.clientErr with
  | some e => .error ("Failed to build DNS repair client: " ++ e)
  | none =>
    if r.gathered.1 = [] then
      .error ("No Roblox bootstrap hosts resolved via DNS-over-HTTPS: " ++
        String.intercalate "; " r.gathered.2)
    else .ok r.gathered.1

/-! ## 4. What is resolved may be pinned -/

theorem usable_of_parsed {json : Except String DohJsonResponse} {ips : List Ipv4Addr}
    (h : parseUsableARecords json = .ok ips) : ∀ ip ∈ ips, isUsablePublicIpv4 ip = true := by
  unfold parseUsableARecords at h
  split at h
  · exact nomatch h
  · split at h
    · exact nomatch h
    · obtain rfl := Except.ok.inj h
      intro ip hip
      exact (List.mem_filter.mp hip).2

theorem subset_of_foldl_dedup : ∀ (ips out : List Ipv4Addr) (ip : Ipv4Addr),
    ip ∈ ips.foldl (fun out ip => if ip ∈ out then out else out ++ [ip]) out → ip ∈ out ∨ ip ∈ ips
  | [], out, ip, h => Or.inl h
  | i :: ips, out, ip, h => by
    rw [List.foldl_cons] at h
    rcases subset_of_foldl_dedup ips _ ip h with h | h
    · split at h
      · exact Or.inl h
      · rcases List.mem_append.mp h with h | h
        · exact Or.inl h
        · exact Or.inr (List.mem_cons.mpr (Or.inl (List.mem_singleton.mp h)))
    · exact Or.inr (List.mem_cons_of_mem _ h)

theorem dedupAndCapIps_subset {ips : List Ipv4Addr} {cap : Nat} {ip : Ipv4Addr}
    (h : ip ∈ dedupAndCapIps ips cap) : ip ∈ ips := by
  rcases subset_of_foldl_dedup ips [] ip (List.mem_of_mem_take h) with h | h
  · exact absurd h List.not_mem_nil
  · exact h

theorem usable_of_askResolver {w : DohWorld} {domain resolver : String} {ips : List Ipv4Addr}
    (h : askResolver w domain resolver = .ok ips) : ∀ ip ∈ ips, isUsablePublicIpv4 ip = true := by
  unfold askResolver at h
  split at h
  · exact nomatch h
  · exact nomatch h
  · exact nomatch h
  · split at h
    · exact nomatch h
    · rename_i parsed hparsed
      split at h
      · exact nomatch h
      · obtain rfl := Except.ok.inj h
        intro ip hip
        exact usable_of_parsed hparsed ip (dedupAndCapIps_subset hip)

theorem usable_of_askResolvers {w : DohWorld} {domain : String} {ips : List Ipv4Addr} :
    ∀ (resolvers failures : List String), askResolvers w domain resolvers failures = .ok ips →
      ∀ ip ∈ ips, isUsablePublicIpv4 ip = true
  | [], failures, h => nomatch h
  | resolver :: rest, failures, h => by
    unfold askResolvers at h
    split at h
    · rename_i ips' hask
      obtain rfl := Except.ok.inj h
      exact usable_of_askResolver hask
    · exact usable_of_askResolvers rest _ h

theorem usable_of_reachable {w : DohWorld} {domain : String} {ips : List Ipv4Addr}
    (h : resolveReachableDomainIps w domain = .ok ips) :
    ∀ ip ∈ ips, isUsablePublicIpv4 ip = true := by
  unfold resolveReachableDomainIps at h
  split at h
  · exact nomatch h
  · rename_i candidates hres
    simp only at h
    split at h
    · exact nomatch h
    · obtain rfl := Except.ok.inj h
      intro ip hip
      exact usable_of_askResolvers _ _ hres ip (List.mem_filter.mp hip).1

/-- A pass resolves its own domains, to usable addresses. -/
theorem mem_of_pass {domains : List String} {p : DohPass domains} {secs : Nat} {e : HostOverride}
    (h : e ∈ (resolveDomainsWithTimeout p secs).1) :
    e.domain ∈ domains ∧ isUsablePublicIpv4 e.ip = true := by
  obtain ⟨j, -, hj⟩ := List.mem_flatMap.mp h
  unfold DohPass.overridesOf at hj
  split at hj
  · exact absurd hj List.not_mem_nil
  · rename_i d
    split at hj
    · exact absurd hj List.not_mem_nil
    · rename_i ips hips
      obtain ⟨ip, hip, rfl⟩ := List.mem_map.mp hj
      exact ⟨d.2, usable_of_reachable hips ip hip⟩

theorem isListed_of_mem {names : List String} {d : String} (h : d ∈ names) :
    isListed names d = true :=
  List.any_eq_true.mpr ⟨d, h, eqIgnoreAsciiCase_iff.mpr rfl⟩

/-- The second pass asks for listed hosts only. -/
theorem bootstrap_of_missing {overrides : List HostOverride} {d : String}
    (h : d ∈ missingDirectOnlyDomains overrides) : d ∈ robloxBootstrapDomains :=
  directOnly_subset_bootstrap d (List.mem_filter.mp h).1

theorem mem_of_gathered {r : DohRun} {e : HostOverride} (h : e ∈ r.gathered.1) :
    e.domain ∈ robloxBootstrapDomains ∧ isUsablePublicIpv4 e.ip = true := by
  unfold DohRun.gathered at h
  simp only at h
  split at h
  · rcases List.mem_append.mp h with h | h
    · exact mem_of_pass h
    · obtain ⟨hd, hu⟩ := mem_of_pass h
      exact ⟨bootstrap_of_missing hd, hu⟩
  · exact mem_of_pass h

/-- **Whatever the resolvers answer, a resolved override may be pinned.** -/
theorem allowed_of_resolved {r : DohRun} {es : List HostOverride}
    (h : resolveBootstrapOverrides r = .ok es) : ∀ e ∈ es, AllowedPin e := by
  intro e he
  unfold resolveBootstrapOverrides at h
  split at h
  · exact nomatch h
  · split at h
    · exact nomatch h
    · obtain rfl := Except.ok.inj h
      obtain ⟨hd, hu⟩ := mem_of_gathered he
      exact ⟨isListed_of_mem hd, hu⟩

end SwiftTunnel
