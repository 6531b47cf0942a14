/-
# What `allocate_route_assist_pins` hands on, for every list of resolved addresses

The allocator groups the overrides by domain and chooses in each group.  The choice for an
override does not depend on where it stands in the list (`Keep`): it stays when the other pool does
not claim its address, or claims every address of its domain.  So what is kept is the list filtered
by `Keep`, in another order (`kept_perm`), and grouping by a key is nothing but a reordering
(`flatMap_filter_perm`).  Both results follow from that.

* `mem_active_iff`, `mem_directOnly_iff`, `writable_eq`: the three outputs, by what is kept.
* `allocation_consistent`: the three outputs fit each other and the input.
* `allocation_perm`: they do not depend on the order in which the addresses were resolved.

A relayed domain all of whose addresses are claimed by direct ones keeps them, and then an address of
a direct host is relayed.  That this is the only way is part of `Consistent`.
-/
import Mathlib.Data.List.Perm.Basic
import SwiftTunnel.RobloxProxy.Pins

namespace SwiftTunnel

open Rust

/-! ## 1. Grouping by a key -/

section

variable {α κ : Type} [DecidableEq κ] {key : α → κ}

/-- **Grouping reorders a list**: the groups of distinct keys, one after the other, are the list
when every key of it is among them. -/
theorem flatMap_filter_perm : ∀ {keys : List κ} {xs : List α}, keys.Nodup →
    (∀ x ∈ xs, key x ∈ keys) →
    (keys.flatMap fun k => xs.filter fun x => decide (key x = k)).Perm xs
  | [], xs, _, hkeys => by
    obtain rfl : xs = [] := List.eq_nil_iff_forall_not_mem.mpr fun x hx => nomatch hkeys x hx
    exact List.Perm.nil
  | k :: keys, xs, hnodup, hkeys => by
    obtain ⟨hk, hnodup⟩ := List.nodup_cons.mp hnodup
    have hrest : ∀ x ∈ xs.filter (fun x => !decide (key x = k)), key x ∈ keys := by
      intro x hx
      obtain ⟨hx, hne⟩ := List.mem_filter.mp hx
      refine (List.mem_cons.mp (hkeys x hx)).resolve_left ?_
      simpa using hne
    -- the groups of the other keys are those of what is left without the first group
    have hgroups : (keys.flatMap fun k' => xs.filter fun x => decide (key x = k')) =
        keys.flatMap fun k' =>
          (xs.filter fun x => !decide (key x = k)).filter fun x => decide (key x = k') := by
      refine List.flatMap_congr fun k' hk' => ?_
      rw [List.filter_filter]
      refine List.filter_congr fun x _ => ?_
      by_cases hx : key x = k'
      · have hne : key x ≠ k := fun h => hk (h ▸ hx ▸ hk')
        rw [decide_eq_true hx, decide_eq_false hne]
        rfl
      · rw [decide_eq_false hx]
        rfl
    rw [List.flatMap_cons, hgroups]
    exact ((flatMap_filter_perm hnodup hrest).append_left _).trans (List.filter_append_perm _ xs)

end

/-! ## 2. What is kept -/

/-- The domains of two overrides are one, up to letter case. -/
def SameDomain (e e' : HostOverride) : Prop :=
  toAsciiLowercase e.domain = toAsciiLowercase e'.domain

instance (e e' : HostOverride) : Decidable (SameDomain e e') :=
  inferInstanceAs (Decidable (_ = _))

/-- An override stays when the other pool does not claim its address, or claims every address of
its domain. -/
def Keep (es : List HostOverride) (e : HostOverride) : Prop :=
  e.ip ∉ otherPool es e.domain ∨ ∀ e' ∈ es, SameDomain e' e → e'.ip ∈ otherPool es e.domain

instance (es : List HostOverride) (e : HostOverride) : Decidable (Keep es e) :=
  inferInstanceAs (Decidable (_ ∨ _))

theorem otherPool_congr (es : List HostOverride) {d d' : String}
    (h : toAsciiLowercase d = toAsciiLowercase d') : otherPool es d = otherPool es d' := by
  rw [otherPool, otherPool, isRouteAssistDirectDomain_congr h]

/-- The choice for one domain, override by override. -/
theorem keptFor_eq (es : List HostOverride) (d : String) :
    keptFor es d = (es.filter fun e => decide (Keep es e)).filter fun e =>
      decide (toAsciiLowercase e.domain = toAsciiLowercase d) := by
  have hpool : ∀ e : HostOverride, toAsciiLowercase e.domain = toAsciiLowercase d →
      otherPool es e.domain = otherPool es d := fun e h => otherPool_congr es h
  rw [List.filter_filter]
  unfold keptFor
  dsimp only
  rw [List.filter_filter]
  split
  · rename_i hempty
    -- every address of the domain is claimed
    rw [List.isEmpty_iff, List.filter_eq_nil_iff] at hempty
    refine List.filter_congr fun e _ => ?_
    by_cases hd : toAsciiLowercase e.domain = toAsciiLowercase d
    · have hkeep : Keep es e := by
        refine Or.inr fun e' he' hsame => ?_
        have hclaimed := hempty e' he'
        rw [hpool e hd]
        simpa [eqIgnoreAsciiCase_iff.mpr (hsame.trans hd)] using hclaimed
      simp [eqIgnoreAsciiCase, hd, hkeep]
    · simp [eqIgnoreAsciiCase, hd]
  · rename_i hsome
    rw [List.isEmpty_iff, List.filter_eq_nil_iff] at hsome
    obtain ⟨e₀, hsome⟩ := not_forall.mp hsome
    obtain ⟨he₀, hfree⟩ := Classical.not_imp.mp hsome
    rw [not_not, Bool.and_eq_true, eqIgnoreAsciiCase_iff, Bool.not_eq_true', List.contains_eq_mem,
      decide_eq_false_iff_not] at hfree
    obtain ⟨hfree, hd₀⟩ := hfree
    refine List.filter_congr fun e _ => ?_
    by_cases hd : toAsciiLowercase e.domain = toAsciiLowercase d
    · have hkeep : Keep es e ↔ e.ip ∉ otherPool es d := by
        rw [Keep, hpool e hd]
        exact or_iff_left fun hall => hfree (hall e₀ he₀ (hd₀.trans hd.symm))
      simp [eqIgnoreAsciiCase, hd, hkeep]
    · simp [eqIgnoreAsciiCase, hd]

theorem nodup_foldl_domains : ∀ (es : List HostOverride) (ds : List String),
    (ds.map toAsciiLowercase).Nodup →
      ((es.foldl (fun ds e => if ds.any (fun d => eqIgnoreAsciiCase d e.domain) then ds
        else ds ++ [e.domain]) ds).map toAsciiLowercase).Nodup
  | [], _, h => h
  | e :: es, ds, h => by
    rw [List.foldl_cons]
    refine nodup_foldl_domains es _ ?_
    split
    · exact h
    · rename_i hnew
      rw [List.map_append, List.map_singleton, List.nodup_append_comm]
      refine List.nodup_cons.mpr ⟨fun hmem => hnew ?_, h⟩
      obtain ⟨d, hd, hlow⟩ := List.mem_map.mp hmem
      exact List.any_eq_true.mpr ⟨d, hd, eqIgnoreAsciiCase_iff.mpr hlow⟩

/-- What the loop over the domains keeps. -/
def keptOverrides (es : List HostOverride) : List HostOverride :=
  (distinctDomains es).flatMap (keptFor es)

/-- **What is kept, in some order.** -/
theorem kept_perm (es : List HostOverride) :
    (keptOverrides es).Perm (es.filter fun e => decide (Keep es e)) := by
  have hgroups : keptOverrides es = ((distinctDomains es).map toAsciiLowercase).flatMap fun k =>
      (es.filter fun e => decide (Keep es e)).filter fun e =>
        decide (toAsciiLowercase e.domain = k) := by
    rw [List.flatMap_map, keptOverrides]
    exact List.flatMap_congr fun d _ => keptFor_eq es d
  rw [hgroups]
  refine flatMap_filter_perm (nodup_foldl_domains es [] List.nodup_nil) fun e he => ?_
  obtain ⟨d, hd, hlow⟩ := exists_mem_distinctDomains (List.mem_filter.mp he).1
  exact List.mem_map.mpr ⟨d, hd, hlow⟩

theorem mem_kept_iff {es : List HostOverride} {e : HostOverride} :
    e ∈ keptOverrides es ↔ e ∈ es ∧ Keep es e := by
  rw [(kept_perm es).mem_iff, List.mem_filter, decide_eq_true_iff]

/-- Some override of each domain is kept. -/
theorem exists_keep {es : List HostOverride} {e : HostOverride} (he : e ∈ es) :
    ∃ e' ∈ es, SameDomain e' e ∧ Keep es e' := by
  by_cases hall : ∀ e' ∈ es, SameDomain e' e → e'.ip ∈ otherPool es e.domain
  · exact ⟨e, he, rfl, Or.inr hall⟩
  · obtain ⟨e', hall⟩ := not_forall.mp hall
    obtain ⟨he', hall⟩ := Classical.not_imp.mp hall
    obtain ⟨hsame, hfree⟩ := Classical.not_imp.mp hall
    refine ⟨e', he', hsame, Or.inl ?_⟩
    rw [otherPool_congr es hsame]
    exact hfree

/-! ## 3. The three outputs -/

theorem mem_active_iff {es : List HostOverride} {ip : Ipv4Addr} :
    ip ∈ (allocateRouteAssistPins es).active ↔
      ∃ e ∈ es, Keep es e ∧ isRouteAssistDirectDomain e.domain = false ∧ e.ip = ip := by
  change ip ∈ ipDomainMap ((keptOverrides es).filter
    fun e => !isRouteAssistDirectDomain e.domain) ↔ _
  simp only [mem_ipDomainMap, List.mem_filter, mem_kept_iff, Bool.not_eq_true', and_assoc]

theorem mem_directOnly_iff {es : List HostOverride} {ip : Ipv4Addr} :
    ip ∈ (allocateRouteAssistPins es).directOnly ↔
      (∃ e ∈ es, Keep es e ∧ isRouteAssistDirectDomain e.domain = true ∧ e.ip = ip) ∧
        ip ∉ (allocateRouteAssistPins es).active := by
  change ip ∈ List.toFinset ((((keptOverrides es).filter
    fun e => isRouteAssistDirectDomain e.domain).map (·.ip)).filter
      fun ip => decide (ip ∉ (allocateRouteAssistPins es).active)) ↔ _
  simp only [List.mem_toFinset, List.mem_filter, List.mem_map, mem_kept_iff, decide_eq_true_iff,
    and_assoc]

/-- Whether an override is written, once it is kept. -/
def isWritten (a : PinAllocation) (e : HostOverride) : Bool :=
  !isRouteAssistDirectDomain e.domain ||
    (isPinnedRouteAssistDirectDomain e.domain && decide (e.ip ∈ a.directOnly))

theorem writable_eq (es : List HostOverride) :
    (allocateRouteAssistPins es).writable =
      (keptOverrides es).filter (isWritten (allocateRouteAssistPins es)) := by
  simp only [allocateRouteAssistPins, keptOverrides]
  rfl

/-- How an allocation fits the overrides that it is for. -/
structure Consistent (es : List HostOverride) (a : PinAllocation) : Prop where
  /-- No address is both relayed and direct. -/
  apart : ∀ ip ∈ a.active, ip ∉ a.directOnly
  resolved : ∀ e ∈ a.writable, e ∈ es
  relayed : ∀ e ∈ a.writable, isRouteAssistDirectDomain e.domain = false → e.ip ∈ a.active
  direct : ∀ e ∈ a.writable, isRouteAssistDirectDomain e.domain = true → e.ip ∈ a.directOnly
  /-- Every relayed domain is written at some address. -/
  covered : ∀ e ∈ es, isRouteAssistDirectDomain e.domain = false →
    ∃ e' ∈ a.writable, SameDomain e' e
  /-- An address of a direct domain is relayed only for a domain that has no other. -/
  claimed : ∀ ip ∈ a.active, (∃ d ∈ es, isRouteAssistDirectDomain d.domain = true ∧ d.ip = ip) →
    ∃ e ∈ es, isRouteAssistDirectDomain e.domain = false ∧ e.ip = ip ∧
      ∀ e' ∈ es, SameDomain e' e →
        ∃ d ∈ es, isRouteAssistDirectDomain d.domain = true ∧ d.ip = e'.ip

theorem mem_otherPool_relay {es : List HostOverride} {d : String} {ip : Ipv4Addr}
    (hd : isRouteAssistDirectDomain d = false) :
    ip ∈ otherPool es d ↔ ∃ e ∈ es, isRouteAssistDirectDomain e.domain = true ∧ e.ip = ip := by
  rw [mem_otherPool, hd]
  rfl

/-- **The allocation is consistent**, whatever was resolved. -/
theorem allocation_consistent (es : List HostOverride) :
    Consistent es (allocateRouteAssistPins es) where
  apart ip hactive hdirect := (mem_directOnly_iff.mp hdirect).2 hactive
  resolved e he := mem_of_mem_writable he
  relayed e he hrelay := by
    obtain ⟨hmem, hkeep⟩ := mem_kept_iff.mp (List.mem_filter.mp he).1
    exact mem_active_iff.mpr ⟨e, hmem, hkeep, hrelay, rfl⟩
  direct e he hdirect := by
    have hwritten := (List.mem_filter.mp he).2
    rw [hdirect, Bool.not_true, Bool.false_or, Bool.and_eq_true, decide_eq_true_iff] at hwritten
    exact hwritten.2
  covered e he hrelay := by
    obtain ⟨e', he', hsame, hkeep⟩ := exists_keep he
    have hrelay' : isRouteAssistDirectDomain e'.domain = false :=
      (isRouteAssistDirectDomain_congr hsame).trans hrelay
    refine ⟨e', ?_, hsame⟩
    rw [writable_eq, List.mem_filter, mem_kept_iff, isWritten, hrelay']
    exact ⟨⟨he', hkeep⟩, rfl⟩
  claimed ip hactive hclaim := by
    obtain ⟨e, he, hkeep, hrelay, rfl⟩ := mem_active_iff.mp hactive
    refine ⟨e, he, hrelay, rfl, fun e' he' hsame => ?_⟩
    rcases hkeep with hfree | hall
    · exact absurd ((mem_otherPool_relay hrelay).mpr hclaim) hfree
    · exact (mem_otherPool_relay hrelay).mp (hall e' he' hsame)

/-! ## 4. The order of the overrides -/

theorem otherPool_perm {es es' : List HostOverride} (h : es.Perm es') {d : String} {ip : Ipv4Addr} :
    ip ∈ otherPool es d ↔ ip ∈ otherPool es' d := by
  simp only [mem_otherPool, h.mem_iff]

theorem keep_perm {es es' : List HostOverride} (h : es.Perm es') (e : HostOverride) :
    Keep es e ↔ Keep es' e := by
  simp only [Keep, otherPool_perm h, h.mem_iff]

theorem keptOverrides_perm {es es' : List HostOverride} (h : es.Perm es') :
    (keptOverrides es).Perm (keptOverrides es') := by
  have hkeep : (fun e => decide (Keep es e)) = fun e => decide (Keep es' e) :=
    funext fun e => decide_eq_decide.mpr (keep_perm h e)
  have hkept := (kept_perm es).trans (h.filter _)
  rw [hkeep] at hkept
  exact hkept.trans (kept_perm es').symm

/-- **The allocation does not depend on the order of the overrides.** -/
theorem allocation_perm {es es' : List HostOverride} (h : es.Perm es') :
    (∀ ip, ip ∈ (allocateRouteAssistPins es).active ↔
      ip ∈ (allocateRouteAssistPins es').active) ∧
    (allocateRouteAssistPins es).directOnly = (allocateRouteAssistPins es').directOnly ∧
    (allocateRouteAssistPins es).writable.Perm (allocateRouteAssistPins es').writable := by
  have hactive : ∀ ip, ip ∈ (allocateRouteAssistPins es).active ↔
      ip ∈ (allocateRouteAssistPins es').active := by
    intro ip
    simp only [mem_active_iff, h.mem_iff, keep_perm h]
  have hdirect : (allocateRouteAssistPins es).directOnly =
      (allocateRouteAssistPins es').directOnly := by
    ext ip
    simp only [mem_directOnly_iff, hactive, h.mem_iff, keep_perm h]
  have hwritten : isWritten (allocateRouteAssistPins es) =
      isWritten (allocateRouteAssistPins es') := by
    funext e
    rw [isWritten, isWritten, hdirect]
  refine ⟨hactive, hdirect, ?_⟩
  rw [writable_eq, writable_eq, hwritten]
  exact (keptOverrides_perm h).filter _

/-- A join host and a sign-in host at one address, and the sign-in host at another. -/
def sharedEdge : List HostOverride :=
  [⟨⟨104, 26, 4, 10⟩, "gamejoin.roblox.com"⟩, ⟨⟨104, 26, 4, 10⟩, "auth.roblox.com"⟩,
    ⟨⟨104, 26, 4, 11⟩, "Auth.roblox.com"⟩]

/-- Resolved in the other order, they are allocated alike. -/
theorem sharedEdge_reversed :
    (∀ ip, ip ∈ (allocateRouteAssistPins sharedEdge).active ↔
      ip ∈ (allocateRouteAssistPins sharedEdge.reverse).active) ∧
    (allocateRouteAssistPins sharedEdge).directOnly =
      (allocateRouteAssistPins sharedEdge.reverse).directOnly ∧
    (allocateRouteAssistPins sharedEdge).writable.Perm
      (allocateRouteAssistPins sharedEdge.reverse).writable :=
  allocation_perm (List.reverse_perm sharedEdge).symm

end SwiftTunnel
