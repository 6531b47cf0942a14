/-
# Where a game server is

`geolocation.rs`.  A lookup asks ipinfo for city, region and country of an address and classifies
city and country.  What it caches is one text for display, the three joined with `", "`, and a
later lookup of the address takes the first piece of that text for the city and the last for the
country.

`str::to_lowercase` is an argument (`lower`), and so are the permit of the semaphore and what
ipinfo answers.  Calls come one after another, as the lookup task makes them.

A text of three pieces ends with the country as long as the country holds no separator, and every
country that is classified is a code of two letters.  The city comes back up to its first separator
(`firstPart`), and only in the United States does the city count.

* `cached_lookup_agrees_iff`: when the two lookups agree.
* `cached_lookup_differs`: a city of two parts, of which the second decides.

Whether ipinfo is right about an address is outside.
-/
import SwiftTunnel.Lib.Delimiters
import SwiftTunnel.Vpn.LookupTask

namespace SwiftTunnel

open Rust

/-! ## 1. Classification -/

structure IpInfoResponse where
  city : Option String
  region : Option String
  country : Option String
  deriving DecidableEq, Repr

def formatLocation (info : IpInfoResponse) : Option String := do
  let city ← info.city
  let country ← info.country
  match info.region with
  | some region =>
    if city = region then some (city ++ ", " ++ country)
    else some (city ++ ", " ++ region ++ ", " ++ country)
  | none => some (city ++ ", " ++ country)

/-- The cities of `US Central`. -/
def usCentralCities : List String := ["chicago", "elk grove", "dallas", "houston"]

/-- The cities of `US East`. -/
def usEastCities : List String :=
  ["ashburn", "leesburg", "sterling", "reston", "new york", "secaucus", "newark", "atlanta", "miami",
    "jacksonville", "fort lauderdale"]

section Lookup

variable (lower : String → String)

/-- The city names one of these. -/
def namesCity (cities : List String) (city : String) : Bool := cities.any (contains (lower city))

/-- The branch of the United States. -/
def usRegion (city : String) : RobloxRegion :=
  if namesCity lower usCentralCities city then .usCentral
  else if namesCity lower usEastCities city then .usEast
  else .usWest

def ipinfoToRobloxRegion (city country : String) : RobloxRegion :=
  if country = "SG" then .singapore
  else if country = "JP" then .tokyo
  else if country = "IN" then .mumbai
  else if country = "AU" then .sydney
  else if country = "BR" then .brazil
  else if country = "GB" then .london
  else if country = "NL" then .amsterdam
  else if country = "FR" then .paris
  else if country = "PL" then .warsaw
  else if country = "DE" then .frankfurt
  else if country = "US" then usRegion lower city
  else .unknown

/-! ## 2. The lookup -/

/-- What the request to ipinfo comes to. -/
inductive IpInfoReply where
  | requestFailed
  | badStatus
  | badJson
  | info (info : IpInfoResponse)
  deriving DecidableEq, Repr

/-- `LOCATION_CACHE`. -/
abbrev LocationCache := Map Ipv4Addr String

/-- The end of `lookup_game_server_region`. -/
def regionLookup (city country location : String) : GameServerRegionLookup :=
  let region := ipinfoToRobloxRegion lower city country
  if region = .unknown then .noRegion else .resolved region location

/-- `loc.split(", ")`. -/
def locationParts (loc : String) : List String :=
  (splitText ", ".toList loc.toList.length loc.toList).map String.ofList

/-- `lookup_game_server_region`, and the cache after it. -/
def lookupGameServerRegion (cache : LocationCache) (permit : Bool) (reply : IpInfoReply)
    (ip : Ipv4Addr) : GameServerRegionLookup × LocationCache :=
  if !permit then (.failed, cache)
  else match cache.lookup ip with
    | some loc =>
      let parts := locationParts loc
      let city := parts.head?.getD ""
      let country := parts.getLast?.getD ""
      (regionLookup lower city country loc, cache)
    | none => match reply with
      | .requestFailed | .badStatus | .badJson => (.failed, cache)
      | .info info =>
        let city := info.city.getD ""
        let country := info.country.getD ""
        match formatLocation info with
        | none => (.noRegion, cache)
        | some location => (regionLookup lower city country location, cache.insert ip location)

/-- A call: the address, and what the call meets. -/
structure GeoCall where
  ip : Ipv4Addr
  permit : Bool
  reply : IpInfoReply

/-- The cache after some calls. -/
def cacheAfter (cache : LocationCache) (calls : List GeoCall) : LocationCache :=
  calls.foldl (fun cache k => (lookupGameServerRegion lower cache k.permit k.reply k.ip).2) cache

end Lookup

/-! ## 3. What the cached text gives back -/

/-- The separator of the cached text. -/
def separator : Text := [',', ' ']

/-- The part of a text before its first separator. -/
def firstPart (text : String) : String := String.ofList (beforeFirst separator text.toList)

/-- The cached text begins with the city and ends with the country. -/
theorem formatLocation_some {info : IpInfoResponse} {location : String}
    (h : formatLocation info = some location) :
    ∃ city country front back, info.city = some city ∧ info.country = some country ∧
      location.toList = city.toList ++ (separator ++ back) ∧
      location.toList = front ++ (separator ++ country.toList) := by
  have hsep : ", ".toList = separator := rfl
  obtain ⟨city, region, country⟩ := info
  rw [formatLocation] at h
  obtain ⟨city, rfl, h⟩ := Option.bind_eq_some_iff.mp h
  obtain ⟨country, rfl, h⟩ := Option.bind_eq_some_iff.mp h
  refine ⟨city, country, ?_⟩
  have hshort : ∀ text, some (city ++ ", " ++ country) = some text →
      ∃ front back, some city = some city ∧ some country = some country ∧
        text.toList = city.toList ++ (separator ++ back) ∧
        text.toList = front ++ (separator ++ country.toList) := by
    intro text htext
    obtain rfl := Option.some.inj htext
    refine ⟨city.toList, country.toList, rfl, rfl, ?_, ?_⟩ <;>
      rw [String.toList_append, String.toList_append, hsep, List.append_assoc]
  cases region with
  | none => exact hshort location h
  | some region =>
    dsimp only at h
    split at h
    · exact hshort location h
    · obtain rfl := Option.some.inj h
      refine ⟨city.toList ++ (separator ++ region.toList), region.toList ++ (separator ++
        country.toList), rfl, rfl, ?_, ?_⟩ <;>
        simp only [String.toList_append, hsep, List.append_assoc]

theorem locationParts_head {location city : String} {back : Text}
    (h : location.toList = city.toList ++ (separator ++ back)) :
    (locationParts location).head? = some (firstPart city) := by
  have hne : location.toList.length ≠ 0 := by
    rw [h]
    simp [separator]
  rw [locationParts, List.head?_map, head?_splitText _ hne, h]
  exact congrArg (fun t => some (String.ofList t)) (beforeFirst_mark (by decide) _ _)

theorem locationParts_last {location country : String} {front : Text} (hcomma : ',' ∉ country.toList)
    (h : location.toList = front ++ (separator ++ country.toList)) :
    (locationParts location).getLast? = some country := by
  have hlen : front.length < location.toList.length := by
    rw [h]
    simp only [separator, List.length_append, List.length_cons]
    omega
  have hspace : ',' ∉ [' '] := by decide
  rw [locationParts, List.getLast?_map, h]
  rw [h] at hlen
  have hlast := getLast?_splitText hspace hcomma _ front hlen
  exact (congrArg (Option.map String.ofList) hlast).trans (congrArg some String.ofList_toList)

section Lookup

variable {lower : String → String}

/-- A country that is classified is one of the codes. -/
theorem comma_notMem_of_region {city country : String}
    (h : ipinfoToRobloxRegion lower city country ≠ .unknown) : ',' ∉ country.toList := by
  have hcodes : country ∈ ["SG", "JP", "IN", "AU", "BR", "GB", "NL", "FR", "PL", "DE", "US"] := by
    by_contra hnot
    simp only [List.mem_cons, List.not_mem_nil, or_false, not_or] at hnot
    refine h ?_
    simp only [ipinfoToRobloxRegion, hnot, if_false]
  have hall : (["SG", "JP", "IN", "AU", "BR", "GB", "NL", "FR", "PL", "DE", "US"].all
    fun code => !code.toList.contains ',') = true := by decide
  have hcode := List.all_eq_true.mp hall country hcodes
  simpa using hcode

/-- Only in the United States does the city count. -/
theorem ipinfoToRobloxRegion_congr {city city' country : String} (h : country ≠ "US") :
    ipinfoToRobloxRegion lower city country = ipinfoToRobloxRegion lower city' country := by
  simp only [ipinfoToRobloxRegion, h, if_false]

theorem ipinfoToRobloxRegion_us (city : String) :
    ipinfoToRobloxRegion lower city "US" = usRegion lower city := rfl

/-- Which cities are classified alike. -/
theorem usRegion_eq_iff {city city' : String} :
    usRegion lower city = usRegion lower city' ↔
      (namesCity lower usCentralCities city = namesCity lower usCentralCities city') ∧
        (namesCity lower usCentralCities city' = false →
          namesCity lower usEastCities city = namesCity lower usEastCities city') := by
  simp only [usRegion]
  cases namesCity lower usCentralCities city <;> cases namesCity lower usCentralCities city' <;>
    cases namesCity lower usEastCities city <;> cases namesCity lower usEastCities city' <;> decide

theorem usRegion_ne_unknown (city : String) : usRegion lower city ≠ .unknown := by
  rw [usRegion]
  split
  · decide
  · split <;> decide

theorem region_ne_unknown_congr {city city' country : String}
    (h : ipinfoToRobloxRegion lower city country ≠ .unknown) :
    ipinfoToRobloxRegion lower city' country ≠ .unknown := by
  by_cases hus : country = "US"
  · rw [hus, ipinfoToRobloxRegion_us]
    exact usRegion_ne_unknown city'
  · rwa [ipinfoToRobloxRegion_congr hus]

/-! ## 4. Later lookups -/

/-- A call leaves a cached text alone. -/
theorem lookup_lookupGameServerRegion {cache : LocationCache} {ip : Ipv4Addr} {location : String}
    (h : cache.lookup ip = some location) (permit : Bool) (reply : IpInfoReply) (ip' : Ipv4Addr) :
    (lookupGameServerRegion lower cache permit reply ip').2.lookup ip = some location := by
  unfold lookupGameServerRegion
  split
  · exact h
  · split
    · exact h
    · rename_i hmiss
      split
      · exact h
      · exact h
      · exact h
      · dsimp only
        split
        · exact h
        · have hne : ip ≠ ip' := by
            rintro rfl
            rw [hmiss] at h
            cases h
          rw [AList.lookup_insert_ne hne]
          exact h

theorem lookup_cacheAfter {cache : LocationCache} {ip : Ipv4Addr} {location : String}
    (h : cache.lookup ip = some location) (calls : List GeoCall) :
    (cacheAfter lower cache calls).lookup ip = some location := by
  induction calls generalizing cache with
  | nil => exact h
  | cons k calls ih => exact ih (lookup_lookupGameServerRegion h k.permit k.reply k.ip)

/-- What a lookup that resolves has met, and what it caches. -/
theorem resolved_cases {cache cache' : LocationCache} {ip : Ipv4Addr} {info : IpInfoResponse}
    {region : RobloxRegion} {location : String} (hmiss : cache.lookup ip = none)
    (h : lookupGameServerRegion lower cache true (.info info) ip =
      (.resolved region location, cache')) :
    formatLocation info = some location ∧ cache'.lookup ip = some location ∧
      region ≠ .unknown ∧
      region = ipinfoToRobloxRegion lower (info.city.getD "") (info.country.getD "") := by
  simp only [lookupGameServerRegion, Bool.not_true, Bool.false_eq_true, if_false, hmiss] at h
  split at h
  · cases h
  · rename_i text htext
    rw [regionLookup] at h
    split at h
    · cases h
    · rename_i hknown
      obtain ⟨hresult, rfl⟩ := Prod.mk.inj h
      obtain ⟨rfl, rfl⟩ := GameServerRegionLookup.resolved.inj hresult
      exact ⟨htext, AList.lookup_insert _, hknown, rfl⟩

/-- **When a cached lookup agrees with the fresh one.**  After a lookup that resolves an address and
caches it, and after any others, the lookup that the cache answers gives the same, unless the
country is the United States and the first part of the city is classified differently. -/
theorem cached_lookup_agrees_iff {cache cache' : LocationCache} {ip : Ipv4Addr}
    {info : IpInfoResponse} {region : RobloxRegion} {location : String}
    (hmiss : cache.lookup ip = none)
    (hfresh : lookupGameServerRegion lower cache true (.info info) ip =
      (.resolved region location, cache')) (calls : List GeoCall) (reply : IpInfoReply) :
    (lookupGameServerRegion lower (cacheAfter lower cache' calls) true reply ip).1 =
        .resolved region location ↔
      (info.country = some "US" → ∀ city ∈ info.city,
        namesCity lower usCentralCities (firstPart city) = namesCity lower usCentralCities city ∧
          (namesCity lower usCentralCities city = false →
            namesCity lower usEastCities (firstPart city) = namesCity lower usEastCities city)) := by
  obtain ⟨hformat, hcached, hknown, hregion⟩ := resolved_cases hmiss hfresh
  obtain ⟨city, country, front, back, hcity, hcountry, hhead, hlast⟩ := formatLocation_some hformat
  rw [hcity, hcountry, Option.getD_some, Option.getD_some] at hregion
  rw [hregion] at hknown
  have hparts : (lookupGameServerRegion lower (cacheAfter lower cache' calls) true reply ip).1 =
      .resolved (ipinfoToRobloxRegion lower (firstPart city) country) location := by
    simp only [lookupGameServerRegion, Bool.not_true, Bool.false_eq_true, if_false,
      lookup_cacheAfter hcached calls, locationParts_head hhead,
      locationParts_last (comma_notMem_of_region hknown) hlast, Option.getD_some]
    exact if_neg (region_ne_unknown_congr hknown)
  rw [hparts, hcity, hcountry, hregion, GameServerRegionLookup.resolved.injEq, and_iff_left rfl]
  by_cases hus : country = "US"
  · subst hus
    rw [ipinfoToRobloxRegion_us, ipinfoToRobloxRegion_us, usRegion_eq_iff]
    simp
  · refine iff_of_true (ipinfoToRobloxRegion_congr hus) fun heq => ?_
    exact absurd (Option.some.inj heq) hus

end Lookup

def gameServerIp : Ipv4Addr := ⟨128, 116, 1, 1⟩

/-- A city of two parts. -/
def queensInfo : IpInfoResponse := ⟨some "Borough of Queens, New York", some "New York", some "US"⟩

/-- **A cached lookup that differs**: the second part of the city is lost. -/
theorem cached_lookup_differs :
    (lookupGameServerRegion toAsciiLowercase ∅ true (.info queensInfo) gameServerIp).1 =
        .resolved .usEast "Borough of Queens, New York, New York, US" ∧
      (lookupGameServerRegion toAsciiLowercase
        (lookupGameServerRegion toAsciiLowercase ∅ true (.info queensInfo) gameServerIp).2 true
        .requestFailed gameServerIp).1 =
          .resolved .usWest "Borough of Queens, New York, New York, US" := by
  decide +kernel

def ashburnInfo : IpInfoResponse := ⟨some "Ashburn", some "Virginia", some "US"⟩

/-- The cache that the lookup of `ashburnInfo` leaves. -/
def ashburnCache : LocationCache :=
  (lookupGameServerRegion toAsciiLowercase ∅ true (.info ashburnInfo) gameServerIp).2

theorem ashburn_cached :
    (lookupGameServerRegion toAsciiLowercase (cacheAfter toAsciiLowercase ashburnCache []) true
      .requestFailed gameServerIp).1 = .resolved .usEast "Ashburn, Virginia, US" := by
  have hfresh : lookupGameServerRegion toAsciiLowercase ∅ true (.info ashburnInfo) gameServerIp =
      (.resolved .usEast "Ashburn, Virginia, US", ashburnCache) :=
    Prod.ext (by decide +kernel) rfl
  refine (cached_lookup_agrees_iff rfl hfresh [] .requestFailed).mpr fun _ city hcity => ?_
  obtain rfl := Option.some.inj hcity
  decide +kernel

end SwiftTunnel
