/-
# Which Roblox hosts are relayed, which go direct, and which may be pinned

The domain lists of `hosts.rs` and the tests on them.  All of them ignore ASCII case and most
ignore dots at the end; `isListed_iff` turns a list test into membership of the lowercase name,
and the lemmas after it say how the tests sit inside each other.

* `isRouteAssistDirectDomain_of_directOnly`: launch and sign-in hosts go direct under Route Assist.
* `isRouteAssistDirectDomain_congr`: letter case makes no difference to where a host goes.
* `directOnly_subset_bootstrap`: every launch or sign-in host may be pinned.

The lists are data, copied name by name; the facts about them are checked by evaluation, the facts
about the tests are for every name.
-/
import SwiftTunnel.Lib.Text

namespace SwiftTunnel

open Rust

/-! ## 1. The lists -/

/-- `DIRECT_ONLY_BOOTSTRAP_DOMAINS`: launch and sign-in hosts. -/
def directOnlyBootstrapDomains : List String :=
  [ "clientsettingscdn.roblox.com", "clientsettings.roblox.com", "clientsettings.api.roblox.com",
    "versioncompatibility.api.roblox.com", "auth.roblox.com" ]

/-- `ASSET_DIRECT_ROBLOX_DOMAINS`. -/
def assetDirectRobloxDomains : List String :=
  [ "assetgame.roblox.com", "assetdelivery.roblox.com", "thumbnails.roblox.com",
    "setup.roblox.com" ]

/-- `PINNED_ASSET_DIRECT_ROBLOX_DOMAINS`. -/
def pinnedAssetDirectRobloxDomains : List String :=
  [ "assetdelivery.roblox.com", "assetgame.roblox.com", "thumbnails.roblox.com" ]

/-- `ROUTE_ASSIST_RELAY_DOMAINS`: the join control plane. -/
def routeAssistRelayDomains : List String :=
  [ "gamejoin.roblox.com", "games.roblox.com", "lms.roblox.com" ]

/-- `ROBLOX_BOOTSTRAP_DOMAINS`: the hosts that DNS repair may pin. -/
def robloxBootstrapDomains : List String :=
  [ "api.roblox.com", "clientsettingscdn.roblox.com", "clientsettings.roblox.com",
    "clientsettings.api.roblox.com", "versioncompatibility.api.roblox.com", "www.roblox.com",
    "web.roblox.com", "apis.roblox.com", "auth.roblox.com", "accountsettings.roblox.com",
    "accountinformation.roblox.com", "users.roblox.com", "avatar.roblox.com",
    "badges.roblox.com", "catalog.roblox.com", "contacts.roblox.com", "inventory.roblox.com",
    "economy.roblox.com", "followings.roblox.com", "gameinternationalization.roblox.com",
    "games.roblox.com", "gamejoin.roblox.com", "groups.roblox.com", "lms.roblox.com",
    "notifications.roblox.com", "assetgame.roblox.com", "assetdelivery.roblox.com",
    "thumbnails.roblox.com", "presence.roblox.com", "friends.roblox.com", "chat.roblox.com",
    "chatsite.roblox.com", "pulsar.roblox.com", "silver.roblox.com", "locale.roblox.com",
    "setup.roblox.com", "captcha.roblox.com", "setup.rbxcdn.com", "apis.rbxcdn.com",
    "js.rbxcdn.com", "static.rbxcdn.com", "c0.rbxcdn.com", "c1.rbxcdn.com", "c2.rbxcdn.com",
    "c3.rbxcdn.com", "c4.rbxcdn.com", "c5.rbxcdn.com", "c6.rbxcdn.com", "c7.rbxcdn.com",
    "tr.rbxcdn.com", "fts.rbxcdn.com", "t0.rbxcdn.com", "t1.rbxcdn.com", "t2.rbxcdn.com",
    "t3.rbxcdn.com", "t4.rbxcdn.com", "t5.rbxcdn.com", "t6.rbxcdn.com", "t7.rbxcdn.com",
    "images.rbxcdn.com", "css.rbxcdn.com", "arkoselabs.roblox.com", "cdn.arkoselabs.com",
    "client.arkoselabs.com", "client-api.arkoselabs.com", "iframe.arkoselabs.com",
    "roblox-api.arkoselabs.com", "roblox-verify.arkoselabs.com", "status.arkoselabs.com",
    "verify.arkoselabs.com" ]

/-! ## 2. The tests -/

/-- `LIST.iter().any(|d| domain.eq_ignore_ascii_case(d))`. -/
def isListed (names : List String) (domain : String) : Bool :=
  names.any (fun d => eqIgnoreAsciiCase domain d)

/-- `is_direct_only_bootstrap_domain`. -/
def isDirectOnlyBootstrapDomain (domain : String) : Bool :=
  isListed directOnlyBootstrapDomains domain

/-- `is_pinned_asset_direct_domain`. -/
def isPinnedAssetDirectDomain (domain : String) : Bool :=
  isListed pinnedAssetDirectRobloxDomains (trimEndChar '.' domain)

/-- `is_pinned_route_assist_direct_domain`. -/
def isPinnedRouteAssistDirectDomain (domain : String) : Bool :=
  isDirectOnlyBootstrapDomain domain || isPinnedAssetDirectDomain domain

/-- `is_asset_direct_domain`. -/
def isAssetDirectDomain (domain : String) : Bool :=
  let d := trimEndChar '.' domain
  isListed assetDirectRobloxDomains d || endsWith (toAsciiLowercase d) ".rbxcdn.com"

/-- `is_route_assist_relay_domain`. -/
def isRouteAssistRelayDomain (domain : String) : Bool :=
  isListed routeAssistRelayDomains (trimEndChar '.' domain)

/-- `is_route_assist_direct_domain`. -/
def isRouteAssistDirectDomain (domain : String) : Bool :=
  let d := trimEndChar '.' domain
  if isRouteAssistRelayDomain d then false
  else isDirectOnlyBootstrapDomain d || isAssetDirectDomain d || isListed robloxBootstrapDomains d

/-! ## 3. How the tests fit together -/

/-- A list of lowercase names holds a domain when it holds the lowercase of it. -/
theorem isListed_iff {names : List String} (hlower : ∀ n ∈ names, toAsciiLowercase n = n)
    {domain : String} : isListed names domain = true ↔ toAsciiLowercase domain ∈ names := by
  unfold isListed
  rw [List.any_eq_true]
  constructor
  · rintro ⟨n, hn, he⟩
    rw [eqIgnoreAsciiCase_iff, hlower n hn] at he
    rw [he]
    exact hn
  · intro hm
    refine ⟨_, hm, ?_⟩
    rw [eqIgnoreAsciiCase_iff, hlower _ hm]

theorem lower_of_directOnly :
    ∀ n ∈ directOnlyBootstrapDomains, toAsciiLowercase n = n := by decide

theorem lower_of_relay : ∀ n ∈ routeAssistRelayDomains, toAsciiLowercase n = n := by decide

theorem isDirectOnlyBootstrapDomain_iff {domain : String} :
    isDirectOnlyBootstrapDomain domain = true ↔
      toAsciiLowercase domain ∈ directOnlyBootstrapDomains := isListed_iff lower_of_directOnly

/-- A name whose lowercase does not end with a dot is not changed by trimming dots. -/
theorem trimEndChar_of_lower {domain : String}
    (h : (toAsciiLowercase domain).toList.getLast? ≠ some '.') : trimEndChar '.' domain = domain := by
  unfold trimEndChar
  have hdot : Char.toLower '.' = '.' := by decide
  rcases List.eq_nil_or_concat domain.toList with hnil | ⟨q, c, hc⟩
  · rw [hnil, List.rdropWhile_nil, ← hnil, String.ofList_toList]
  · have hne : c ≠ '.' := by
      rintro rfl
      refine h ?_
      rw [toAsciiLowercase, String.toList_ofList, hc]
      simp [hdot]
    rw [hc, List.concat_eq_append, List.rdropWhile_concat_neg _ _ _ (by simpa using hne),
      ← List.concat_eq_append, ← hc, String.ofList_toList]

theorem directOnly_no_dot :
    ∀ n ∈ directOnlyBootstrapDomains, n.toList.getLast? ≠ some '.' := by decide

theorem directOnly_not_relay :
    ∀ n ∈ directOnlyBootstrapDomains, n ∉ routeAssistRelayDomains := by decide

/-- A launch or sign-in host is a direct host of Route Assist. -/
theorem isRouteAssistDirectDomain_of_directOnly {domain : String}
    (h : isDirectOnlyBootstrapDomain domain = true) : isRouteAssistDirectDomain domain = true := by
  have hmem := isDirectOnlyBootstrapDomain_iff.mp h
  have htrim : trimEndChar '.' domain = domain := trimEndChar_of_lower (directOnly_no_dot _ hmem)
  have hrelay : isRouteAssistRelayDomain domain = false := by
    unfold isRouteAssistRelayDomain
    rw [htrim, Bool.eq_false_iff, ne_eq, isListed_iff lower_of_relay]
    exact directOnly_not_relay _ hmem
  unfold isRouteAssistDirectDomain
  simp only [htrim, hrelay, h, Bool.false_eq_true, if_false, Bool.true_or]

/-! ### Letter case -/

theorem toLower_eq_dot {c : Char} : Char.toLower c = '.' ↔ c = '.' := by
  constructor
  · intro h
    change dite (c.val ≥ 65 ∧ c.val ≤ 90) _ _ = '.' at h
    split at h
    · rename_i hc
      -- the lowercase of a capital stands after the dot
      have hge : 65 ≤ c.val.toNat := hc.1
      have hle : c.val.toNat ≤ 90 := hc.2
      have hval : (c.val + 32).toNat = 46 := congrArg (fun c => c.val.toNat) h
      rw [UInt32.toNat_add] at hval
      change (c.val.toNat + 32) % 4294967296 = 46 at hval
      omega
    · exact h
  · rintro rfl
    decide

theorem toAsciiLowercase_trimEndChar (s : String) :
    toAsciiLowercase (trimEndChar '.' s) = trimEndChar '.' (toAsciiLowercase s) := by
  have hdot : (fun c => c == '.') ∘ Char.toLower = fun c => c == '.' := by
    funext c
    rw [Function.comp_apply, Bool.eq_iff_iff, beq_iff_eq, beq_iff_eq, toLower_eq_dot]
  simp only [toAsciiLowercase, trimEndChar, String.toList_ofList, List.rdropWhile,
    ← List.map_reverse, List.dropWhile_map, hdot]

theorem isListed_congr (names : List String) {s t : String}
    (h : toAsciiLowercase s = toAsciiLowercase t) : isListed names s = isListed names t := by
  simp only [isListed, eqIgnoreAsciiCase, h]

/-- **Whether a host goes direct does not depend on letter case.** -/
theorem isRouteAssistDirectDomain_congr {s t : String}
    (h : toAsciiLowercase s = toAsciiLowercase t) :
    isRouteAssistDirectDomain s = isRouteAssistDirectDomain t := by
  have htrim : ∀ {s t : String}, toAsciiLowercase s = toAsciiLowercase t →
      toAsciiLowercase (trimEndChar '.' s) = toAsciiLowercase (trimEndChar '.' t) := by
    intro s t h
    rw [toAsciiLowercase_trimEndChar, toAsciiLowercase_trimEndChar, h]
  have hd := htrim h
  have hdd := htrim hd
  have hrelay : isRouteAssistRelayDomain (trimEndChar '.' s) =
      isRouteAssistRelayDomain (trimEndChar '.' t) := isListed_congr _ hdd
  have hdirect : isDirectOnlyBootstrapDomain (trimEndChar '.' s) =
      isDirectOnlyBootstrapDomain (trimEndChar '.' t) := isListed_congr _ hd
  have hasset : isAssetDirectDomain (trimEndChar '.' s) =
      isAssetDirectDomain (trimEndChar '.' t) := by
    rw [isAssetDirectDomain, isAssetDirectDomain, isListed_congr assetDirectRobloxDomains hdd, hdd]
  have hknown := isListed_congr robloxBootstrapDomains hd
  unfold isRouteAssistDirectDomain
  dsimp only
  rw [hrelay, hdirect, hasset, hknown]

/-- Every launch or sign-in host may be pinned. -/
theorem directOnly_subset_bootstrap :
    ∀ n ∈ directOnlyBootstrapDomains, n ∈ robloxBootstrapDomains := by decide +kernel

end SwiftTunnel
