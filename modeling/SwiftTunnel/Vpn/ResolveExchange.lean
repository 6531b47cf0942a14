/-
# A resolve call and a relay that answers it

`relay.rs`: `resolve_roblox_hosts` asks in batches of sixteen hosts; the relay answers each
request under its id.  The relay's program is not part of the repository.  What is asked of it
here is one thing: that it answers a request for what the request names (`replyTo`), from some
table of its own.

A request of hosts that fit it reads back as these hosts (`replyTo_batchRequest`).  What the slot
holds under an id is something that came under it, so a batch whose id brings nothing but the relay's
answer contributes the table on its hosts (`batchAnswers_answered`).  The batches name each host
once, so each contributes to hosts of its own, and the map is put together by induction on the number
of batches (`lookup_resolveBatches`).

* `flatMap_batchHosts`: the batches name each host once, in order.
* `resolve_exchange`: if every batch is answered in time, the call returns the relay's table on
  the hosts that were asked, and nothing else.

Where a batch is not answered, or is answered by somebody else, nothing is claimed here: which
answers are lost then is in `ResolveRuns`.
-/
import SwiftTunnel.Vpn.RelayWire

namespace SwiftTunnel.Relay

open Rust

/-! ## 1. What is asked -/

/-- `hosts.chunks(RESOLVE_MAX_HOSTS_PER_REQUEST)`, the `i`th. -/
def batchHosts (hosts : List String) (i : Nat) : List String :=
  (hosts.drop (i * resolveMaxHostsPerRequest)).take resolveMaxHostsPerRequest

/-- `request_id` of the `i`th batch, which wraps. -/
def batchId (i : Nat) : UInt16 := 1 + UInt16.ofNat i

/-- The message of the `i`th batch. -/
def batchRequest (hosts : List String) (i : Nat) : ClientMessage :=
  .resolve (batchId i) (askedHosts (batchHosts hosts i))

theorem take_eq_flatMap_batchHosts (hosts : List String) (n : Nat) :
    hosts.take (n * resolveMaxHostsPerRequest) = (List.range n).flatMap (batchHosts hosts) := by
  induction n with
  | zero => simp
  | succ n ih =>
    rw [Nat.succ_mul, List.take_add, ih, List.range_succ, List.flatMap_append,
      List.flatMap_singleton, batchHosts]

/-- **Every host is asked for once**, in the order of the list. -/
theorem flatMap_batchHosts (hosts : List String) :
    (List.range (chunkCount hosts)).flatMap (batchHosts hosts) = hosts := by
  rw [← take_eq_flatMap_batchHosts, List.take_of_length_le]
  have h16 : resolveMaxHostsPerRequest = 16 := rfl
  rw [chunkCount, h16]
  omega

theorem batchHosts_sublist (hosts : List String) (i : Nat) :
    (batchHosts hosts i).Sublist hosts :=
  (List.take_sublist _ _).trans (List.drop_sublist _ _)

/-! ## 2. What is answered -/

/-- The answers to a message, from a table of addresses. -/
def replyTo (table : String → List Ipv4Addr) : ClientMessage → Option (UInt16 × ResolveAnswers)
  | .resolve requestId hosts =>
    (hosts.mapM Rust.fromUtf8).map fun names => (requestId, names.map fun name => (name, table name))
  | _ => none

theorem fromUtf8_hostBytes (host : String) : Rust.fromUtf8 (hostBytes host) = some host :=
  fromUtf8_iff.mpr rfl

/-- Hosts that fit a request are read as they are. -/
theorem mapM_askedHosts {hosts : List String} (h16 : hosts.length ≤ resolveMaxHostsPerRequest)
    (hlen : ∀ host ∈ hosts, (hostBytes host).length ≤ resolveMaxHostnameLen) :
    (askedHosts hosts).mapM Rust.fromUtf8 = some hosts := by
  rw [askedHosts, List.take_of_length_le h16]
  clear h16
  induction hosts with
  | nil => rfl
  | cons host hosts ih =>
    obtain ⟨hhost, hhosts⟩ := List.forall_mem_cons.mp hlen
    rw [List.map_cons, List.mapM_cons, List.take_of_length_le hhost, fromUtf8_hostBytes, ih hhosts]
    rfl

/-- **The answer to a batch** names its hosts. -/
theorem replyTo_batchRequest (table : String → List Ipv4Addr) {hosts : List String}
    (hlen : ∀ host ∈ hosts, (hostBytes host).length ≤ resolveMaxHostnameLen) (i : Nat) :
    replyTo table (batchRequest hosts i) =
      some (batchId i, (batchHosts hosts i).map fun host => (host, table host)) := by
  have h16 : (batchHosts hosts i).length ≤ resolveMaxHostsPerRequest := List.length_take_le _ _
  rw [batchRequest, replyTo, mapM_askedHosts h16]
  · rfl
  · intro host hmem
    exact hlen host ((batchHosts_sublist hosts i).subset hmem)

/-- The parser's reading of a recorded datagram. -/
def parsedResponse (d : Datagram) : Option (UInt16 × ResolveAnswers) :=
  match parseResolveResponse d.buf d.len with
  | .ok parsed => parsed
  | .error _ => none

/-- A batch is answered: its request goes out, what comes under its id is the relay's answer, and
at one of the polls the last response that came is one of these. -/
structure Answered (table : String → List Ipv4Addr) (hosts : List String) (i : Nat)
    (b : ResolveBatch) : Prop where
  sent : b.sent = true
  honest : ∀ arrived ∈ b.polls, ∀ d ∈ arrived, ∀ answers, parsedResponse d = some (batchId i, answers) →
    replyTo table (batchRequest hosts i) = some (batchId i, answers)
  inTime : ∃ before arrived after answers, b.polls = before ++ arrived :: after ∧
    (before.flatten ++ arrived).foldl recordResponse none = some (batchId i, answers)

/-! ## 3. One batch -/

theorem recordResponse_eq (slot : ResolveSlot) (d : Datagram) :
    recordResponse slot d = (parsedResponse d).or slot := by
  rw [recordResponse, parsedResponse]
  split
  · rename_i parsed h
    rw [h]
    rfl
  · rename_i h
    cases hparse : parseResolveResponse d.buf d.len with
    | error e => rfl
    | ok parsed =>
      cases parsed with
      | none => rfl
      | some parsed => exact absurd hparse (h parsed)

/-- What the slot holds under an id is what came under it. -/
theorem foldl_recordResponse_honest {P : ResolveAnswers → Prop} {rid : UInt16}
    (arrived : List Datagram) (hd : ∀ d ∈ arrived, ∀ answers, parsedResponse d = some (rid, answers) →
      P answers) {slot : ResolveSlot} (hslot : ∀ answers, slot = some (rid, answers) → P answers) :
    ∀ answers, arrived.foldl recordResponse slot = some (rid, answers) → P answers := by
  induction arrived generalizing slot with
  | nil => exact hslot
  | cons d arrived ih =>
    obtain ⟨hfirst, hrest⟩ := List.forall_mem_cons.mp hd
    refine ih hrest ?_
    intro answers h
    rw [recordResponse_eq] at h
    cases hparsed : parsedResponse d with
    | none =>
      rw [hparsed] at h
      exact hslot answers h
    | some parsed =>
      rw [hparsed] at h
      exact hfirst answers (hparsed.trans h)

/-- **A batch that is answered contributes the answer.** -/
theorem pollResponse_answered {P : ResolveAnswers → Prop} {rid : UInt16} (polls : List (List Datagram))
    (hd : ∀ arrived ∈ polls, ∀ d ∈ arrived, ∀ answers, parsedResponse d = some (rid, answers) → P answers)
    {slot : ResolveSlot} (hslot : ∀ answers, slot = some (rid, answers) → P answers)
    (htime : ∃ before arrived after answers, polls = before ++ arrived :: after ∧
      (before.flatten ++ arrived).foldl recordResponse slot = some (rid, answers)) :
    ∃ answers, pollResponse rid slot polls = some answers ∧ P answers := by
  induction polls generalizing slot with
  | nil =>
    obtain ⟨before, arrived, after, answers, h, -⟩ := htime
    simp at h
  | cons arrived polls ih =>
    obtain ⟨hfirst, hrest⟩ := List.forall_mem_cons.mp hd
    have hnext := foldl_recordResponse_honest arrived hfirst hslot
    -- A poll that does not find the id leaves the answer to a later one.
    have hlater : (∀ answers, arrived.foldl recordResponse slot ≠ some (rid, answers)) →
        ∃ answers, pollResponse rid (arrived.foldl recordResponse slot) polls = some answers ∧
          P answers := by
      intro hno
      refine ih hrest hnext ?_
      obtain ⟨before, arrived', after, answers, hpolls, hslot'⟩ := htime
      cases before with
      | nil =>
        obtain ⟨rfl, -⟩ := List.cons.inj hpolls
        exact absurd hslot' (hno answers)
      | cons first before =>
        obtain ⟨rfl, rfl⟩ := List.cons.inj hpolls
        refine ⟨before, arrived', after, answers, rfl, ?_⟩
        rwa [List.flatten_cons, List.append_assoc, List.foldl_append] at hslot'
    rw [pollResponse]
    cases hfold : arrived.foldl recordResponse slot with
    | none =>
      rw [hfold] at hlater
      exact hlater (by simp)
    | some r =>
      obtain ⟨rid', answers⟩ := r
      simp only
      by_cases hid : rid' = rid
      · subst hid
        rw [if_pos rfl]
        exact ⟨answers, rfl, hnext answers hfold⟩
      · rw [if_neg hid]
        rw [hfold] at hlater
        exact hlater fun _ h => hid (Prod.mk.inj (Option.some.inj h)).1

/-! ## 4. The call -/

/-- Answers for hosts that are not in the map yet go in as they are, unless they are empty. -/
theorem lookup_mergeAnswers (table : String → List Ipv4Addr) (hosts : List String)
    (hnodup : hosts.Nodup) (out : Map String (List Ipv4Addr))
    (hfresh : ∀ host ∈ hosts, out.lookup host = none) (name : String) :
    (mergeAnswers out (hosts.map fun host => (host, table host))).lookup name =
      if name ∈ hosts ∧ table name ≠ [] then some (table name) else out.lookup name := by
  induction hosts generalizing out with
  | nil => simp [mergeAnswers]
  | cons host hosts ih =>
    obtain ⟨hnot, hnodup⟩ := List.nodup_cons.mp hnodup
    obtain ⟨hhost, hhosts⟩ := List.forall_mem_cons.mp hfresh
    rw [List.map_cons, mergeAnswers, List.foldl_cons, ← mergeAnswers]
    by_cases hempty : table host = []
    · rw [if_pos hempty, ih hnodup out hhosts]
      by_cases hname : name = host
      · subst hname
        simp [hnot, hempty]
      · simp [hname]
    · simp only [if_neg hempty, hhost, Option.getD_none, List.nil_append]
      have hne : ∀ other ∈ hosts, other ≠ host := fun other hmem heq => hnot (heq ▸ hmem)
      rw [ih hnodup _ fun other hmem =>
        (AList.lookup_insert_ne (hne other hmem)).trans (hhosts other hmem)]
      by_cases hname : name = host
      · subst hname
        simp [hnot, hempty]
      · simp [hname, AList.lookup_insert_ne hname]

section Call

variable {table : String → List Ipv4Addr} {hosts : List String} {env : Nat → ResolveBatch}

/-- **An answered batch** contributes the table on its hosts. -/
theorem batchAnswers_answered
    (hlen : ∀ host ∈ hosts, (hostBytes host).length ≤ resolveMaxHostnameLen) {i : Nat}
    {b : ResolveBatch} (h : Answered table hosts i b) :
    batchAnswers (batchId i) b = (batchHosts hosts i).map fun host => (host, table host) := by
  obtain ⟨answers, hpoll, hreply⟩ := pollResponse_answered b.polls h.honest
    (by simp : ∀ answers, (none : ResolveSlot) = some (batchId i, answers) →
      replyTo table (batchRequest hosts i) = some (batchId i, answers)) h.inTime
  rw [replyTo_batchRequest table hlen] at hreply
  obtain rfl := (Prod.mk.inj (Option.some.inj hreply)).2
  rw [batchAnswers, if_pos h.sent, hpoll]
  rfl

/-- The map after some batches: the table on the hosts that these have asked. -/
theorem lookup_resolveBatches (hnodup : hosts.Nodup)
    (hlen : ∀ host ∈ hosts, (hostBytes host).length ≤ resolveMaxHostnameLen) (n : Nat)
    (h : ∀ i < n, Answered table hosts i (env i)) (name : String) :
    (resolveBatches env n 0 1 ∅).lookup name =
      if name ∈ hosts.take (n * resolveMaxHostsPerRequest) ∧ table name ≠ [] then
        some (table name) else none := by
  induction n generalizing name with
  | zero => simp [resolveBatches]
  | succ n ih =>
    have ih' := ih fun i hi => h i (Nat.lt_succ_of_lt hi)
    have hsplit : hosts.take ((n + 1) * resolveMaxHostsPerRequest) =
        hosts.take (n * resolveMaxHostsPerRequest) ++ batchHosts hosts n := by
      rw [Nat.succ_mul, List.take_add, batchHosts]
    have hdisjoint := hnodup.sublist
      (List.take_sublist ((n + 1) * resolveMaxHostsPerRequest) hosts)
    rw [hsplit, List.nodup_append] at hdisjoint
    rw [resolveBatches_succ, Nat.zero_add, ← batchId,
      batchAnswers_answered hlen (h n (Nat.lt_succ_self n)),
      lookup_mergeAnswers table _ hdisjoint.2.1, ih', hsplit]
    · simp only [List.mem_append]
      by_cases hnew : name ∈ batchHosts hosts n
      · have hold : name ∉ hosts.take (n * resolveMaxHostsPerRequest) := fun hold =>
          hdisjoint.2.2 name hold name hnew rfl
        simp [hnew, hold]
      · simp [hnew]
    · intro host hmem
      rw [ih', if_neg]
      exact fun hold => hdisjoint.2.2 host hold.1 host hmem rfl

/-- **A resolve call returns the relay's table.**  Whatever the hosts, as long as none is named
twice and none is longer than a request can carry: if each batch's request goes out and is
answered in time, then the returned map gives for each host that was asked exactly the addresses
that the relay has for it, no host without addresses, and no host that was not asked. -/
theorem resolve_exchange (hnodup : hosts.Nodup)
    (hlen : ∀ host ∈ hosts, (hostBytes host).length ≤ resolveMaxHostnameLen)
    (h : ∀ i < chunkCount hosts, Answered table hosts i (env i)) (name : String) :
    (resolveRobloxHosts hosts env).lookup name =
      if name ∈ hosts ∧ table name ≠ [] then some (table name) else none := by
  have hall : hosts.take (chunkCount hosts * resolveMaxHostsPerRequest) = hosts := by
    rw [take_eq_flatMap_batchHosts, flatMap_batchHosts]
  rw [resolveRobloxHosts, lookup_resolveBatches hnodup hlen _ h, hall]

/-- A relay's response to a batch, as it is received. -/
def replyDatagram (table : String → List Ipv4Addr) (hosts : List String) (i : Nat) : Datagram :=
  let bytes := responseBytes [0, 0, 0, 0, 0, 0, 0, 0] (batchId i)
    ((batchHosts hosts i).map fun host => (host, table host))
  ⟨bytes, bytes.length, Nat.le_refl _⟩

/-- A batch with one poll, before which the response has come. -/
theorem answered_replyDatagram
    (hlen : ∀ host ∈ hosts, (hostBytes host).length ≤ resolveMaxHostnameLen)
    (htable : ∀ host, (table host).length ≤ 255) (i : Nat) :
    Answered table hosts i ⟨true, [[replyDatagram table hosts i]]⟩ := by
  have henc : Encodable ((batchHosts hosts i).map fun host => (host, table host)) := by
    have h16 : resolveMaxHostsPerRequest = 16 := rfl
    have h64 : resolveMaxHostnameLen = 64 := rfl
    have hcount : (batchHosts hosts i).length ≤ resolveMaxHostsPerRequest := List.length_take_le _ _
    refine ⟨by rw [List.length_map]; omega, ?_⟩
    intro answer hmem
    obtain ⟨host, hhost, rfl⟩ := List.mem_map.mp hmem
    have hsize : host.toUTF8.size ≤ resolveMaxHostnameLen :=
      hlen host ((batchHosts_sublist hosts i).subset hhost)
    exact ⟨by dsimp only; omega, htable host⟩
  have hat : HoldsAt (replyDatagram table hosts i).buf (sessionIdLen + 1)
      (resolveBody (batchId i) ((batchHosts hosts i).map fun host => (host, table host))) := by
    simp only [replyDatagram, responseBytes_eq]
    exact ⟨by simp [sessionIdLen], by simp [sessionIdLen]⟩
  have hparsed : parsedResponse (replyDatagram table hosts i) =
      some (batchId i, (batchHosts hosts i).map fun host => (host, table host)) := by
    have hparse := (parseResolveResponse_iff _ _ _).mpr ⟨henc, hat⟩
    rw [parsedResponse, show (replyDatagram table hosts i).len =
      (replyDatagram table hosts i).buf.length from rfl, hparse]
  refine ⟨rfl, ?_, [], [replyDatagram table hosts i], [],
    (batchHosts hosts i).map fun host => (host, table host), rfl, ?_⟩
  · intro arrived harrived d hd answers hanswers
    obtain rfl := List.mem_singleton.mp harrived
    obtain rfl := List.mem_singleton.mp hd
    rw [replyTo_batchRequest table hlen, ← hparsed, hanswers]
  · simp only [List.flatten_nil, List.nil_append, List.foldl_cons, List.foldl_nil,
      recordResponse_eq, hparsed, Option.some_or]

/-- A relay that knows one address for each host. -/
def oneAddress : String → List Ipv4Addr := fun _ => [⟨128, 116, 1, 1⟩]

/-- What DNS repair asks for is resolved by a relay that answers. -/
theorem bootstrap_host_resolved :
    (resolveRobloxHosts robloxBootstrapDomains
        fun i => ⟨true, [[replyDatagram oneAddress robloxBootstrapDomains i]]⟩).lookup
          "www.roblox.com" = some [⟨128, 116, 1, 1⟩] := by
  have hlen : ∀ host ∈ robloxBootstrapDomains, (hostBytes host).length ≤ resolveMaxHostnameLen := by
    decide +kernel
  have hasked : "www.roblox.com" ∈ robloxBootstrapDomains := by decide +kernel
  exact (resolve_exchange (by decide +kernel) hlen
    (fun i _ => answered_replyDatagram hlen (fun _ => by simp [oneAddress]) i) _).trans
      (if_pos ⟨hasked, by simp [oneAddress]⟩)

end Call

end SwiftTunnel.Relay
