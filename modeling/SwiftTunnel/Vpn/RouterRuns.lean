/-
# Runs of the `AutoRouter`: the bypass, the switch limit, and quiet handoffs

Every method of `AutoRouter` that changes it, as a call at a time, and what holds over every run
of such calls.  The three results look at three groups of fields, and for each there is a lemma
that says what a call can do to its group; other calls leave the group alone (`apply_frame`).

* `bypassed_whitelisted`: game traffic is sent outside the tunnel only while the router is in a
  whitelisted region.  A switch does not look at the whitelist.  It is the order of the calls that
  keeps the bypass honest: the code switches to the region of the lookup result that it has just
  decided on (`Called`, `BypassInv`).
* `switches_limited`: two switches are ten seconds apart, and the minute that starts with a
  counting window holds at most three; a minute across two windows can hold six
  (`six_switches_in_a_minute`).  The limiter is that of `RateLimit`, of which a run of the router is
  a run of requests (`limiter_run`).
* `enqueued_after_quiet`: a lookup is sent for a server only when every other server has been
  quiet for 2.75 seconds.  Traffic is noted with a granularity of 250 ms, which is where the missing
  quarter of a second goes; a record is only ever replaced by a later one (`NotedSince`).

Calls take turns here: each method holds its locks for as long as it needs them.  Try-locks that
fail are in `SeenServers`, and the interleaving with the lookup task is in `LookupTask`.
-/
import Mathlib.Data.Int.ConditionallyCompleteOrder
import Mathlib.Order.Interval.Set.Basic
import Mathlib.Tactic.Linarith
import SwiftTunnel.Lib.RateLimit
import SwiftTunnel.Vpn.AutoRouting

namespace SwiftTunnel

/-! ## 1. Calls -/

/-- A call that can change the router. -/
inductive RouterCall where
  | op (op : RouterOp)
  | setLookupChannel
  | clearPendingLookup (ip : Ipv4Addr)
  | getBestServerForRegion (millis : Nat) (gameRegion : RobloxRegion)
  | getCandidatesForRegion (millis : Nat) (gameRegion : RobloxRegion)
  | commitSwitch (millis : Nat) (gameRegion : RobloxRegion) (selectedRegion : String)
      (selectedAddr : SocketAddr) (location : Option String)

/-- What a call sends or returns. -/
inductive RouterReply where
  | done
  | enqueued (m : LookupMessage)
  | best (server : Option (String × SocketAddr))
  | candidates (servers : Option (List (String × SocketAddr)))
  | committed (switched : Option (SocketAddr × String))
  deriving DecidableEq

namespace RouterReply

/-- A successful switch. -/
def switched : RouterReply → Bool
  | committed (some _) => true
  | _ => false

end RouterReply

namespace RouterCall

/-- The server whose traffic a call notes: `note_game_traffic` itself, or
`evaluate_game_server`, which begins with it. -/
def notes : RouterCall → Option Ipv4Addr
  | op (.noteGameTraffic ip) => some ip
  | op (.evaluateGameServer _ ip) => some ip
  | _ => none

/-- The call is `reset`. -/
def isReset : RouterCall → Bool
  | op .reset => true
  | _ => false

theorem notes_of_isReset {c : RouterCall} (h : c.isReset = true) : c.notes = none := by
  unfold isReset at h
  split at h
  · rfl
  · exact nomatch h

end RouterCall

namespace AutoRouter

/-- The reply to a call at a time, and the router after it. -/
def call (r : AutoRouter) (now : Instant) : RouterCall → RouterReply × AutoRouter
  | .op op => match r.apply now op with
    | (some m, r) => (.enqueued m, r)
    | (none, r) => (.done, r)
  | .setLookupChannel => (.done, r.setLookupChannel)
  | .clearPendingLookup ip => (.done, r.clearPendingLookup ip)
  | .getBestServerForRegion millis gameRegion =>
    (r.getBestServerForRegion millis gameRegion).map .best id
  | .getCandidatesForRegion millis gameRegion =>
    (r.getCandidatesForRegion millis gameRegion).map .candidates id
  | .commitSwitch millis gameRegion selectedRegion selectedAddr location =>
    (r.commitSwitch now millis gameRegion selectedRegion selectedAddr location).map .committed id

theorem call_op (r : AutoRouter) (now : Instant) (op : RouterOp) :
    (r.call now (.op op)).2 = (r.apply now op).2 ∧
      ∀ m, (r.call now (.op op)).1 = .enqueued m ↔ (r.apply now op).1 = some m := by
  rw [call]
  split
  · rename_i m' r' h
    rw [h]
    exact ⟨rfl, fun m => by simp⟩
  · rename_i r' h
    rw [h]
    exact ⟨rfl, fun m => by simp⟩

end AutoRouter

/-- A call at a time. -/
def RouterStep (r : AutoRouter) (i : Instant × RouterCall) (o : RouterReply) (r' : AutoRouter) :
    Prop := r.call i.1 i.2 = (o, r')

abbrev RouterEvent := (Instant × RouterCall) × RouterReply

/-- What the calls of a run did, in order. -/
abbrev RouterLog := List RouterEvent

namespace AutoRouter

/-- The fields that say where the bypass applies. -/
structure BypassFields where
  bypassed : Bool
  game : Option RobloxRegion
  whitelist : Finset String

def bypassFields (r : AutoRouter) : BypassFields :=
  ⟨r.autoRoutingBypassed, r.currentGameRegion, r.whitelistedRegions⟩

/-- What the limit on switches looks at. -/
def limiter (r : AutoRouter) : FixedWindow :=
  ⟨r.switchesThisMinute.1, r.switchesThisMinute.2, r.lastSwitchTime⟩

/-- The limiter's answer to a switch. -/
abbrev switchRequest (r : AutoRouter) (now : Instant) : Option FixedWindow :=
  r.limiter.request minSwitchInterval (Duration.fromSecs 60) maxSwitchesPerMinute now

/-- **What recording a switch can do**: nothing, or the limiter grants it, and region, relay
address and game region are the new ones. -/
theorem recordSwitch_cases (r : AutoRouter) (now : Instant) (millis : Nat)
    (fromRegion toRegion : String) (gameRegion : RobloxRegion) (addr : SocketAddr)
    (location : Option String) :
    r.recordSwitch now millis fromRegion toRegion gameRegion addr location = (false, r) ∨
      (r.currentStRegion ≠ toRegion ∧ ∃ count start,
        r.switchRequest now = some ⟨count, start, now⟩ ∧
        r.recordSwitch now millis fromRegion toRegion gameRegion addr location =
          (true, ({ r with
            switchesThisMinute := (count, start)
            lastSwitchTime := now
            currentStRegion := toRegion
            currentRelayAddr := some addr
            currentGameRegion := some gameRegion } : AutoRouter).logEvent
              (switchedEvent millis fromRegion toRegion gameRegion addr location))) := by
  by_cases h1 : r.currentStRegion = toRegion
  · exact Or.inl (if_pos h1)
  by_cases h2 : durationSince now r.lastSwitchTime < minSwitchInterval
  · rw [recordSwitch, if_neg h1, if_pos h2]
    exact Or.inl rfl
  have hgap : ¬ now - r.limiter.last < (minSwitchInterval : Int) := by
    rw [not_lt, le_durationSince_iff (by decide)] at h2
    exact not_lt.mpr h2
  by_cases h3 : Duration.fromSecs 60 < durationSince now r.switchesThisMinute.2
  · -- the window starts again, with its counter below the limit
    have hexp : (Duration.fromSecs 60 : Int) < now - r.limiter.start := lt_durationSince_iff.mp h3
    refine Or.inr ⟨h1, 1, now, ?_, ?_⟩
    · rw [switchRequest, FixedWindow.request, if_neg hgap]
      simp only [if_pos hexp]
      rfl
    · rw [recordSwitch, if_neg h1, if_neg h2]
      simp only [if_pos h3]
      rfl
  · have hin : ¬ (Duration.fromSecs 60 : Int) < now - r.limiter.start :=
      fun h => h3 (lt_durationSince_iff.mpr h)
    by_cases h4 : maxSwitchesPerMinute ≤ r.switchesThisMinute.1
    · refine Or.inl ?_
      rw [recordSwitch, if_neg h1, if_neg h2]
      simp only [if_neg h3]
      exact if_pos h4
    · refine Or.inr ⟨h1, r.switchesThisMinute.1 + 1, r.switchesThisMinute.2, ?_, ?_⟩
      · rw [switchRequest, FixedWindow.request, if_neg hgap]
        simp only [if_neg hin]
        exact if_neg h4
      · rw [recordSwitch, if_neg h1, if_neg h2]
        simp only [if_neg h3]
        exact if_neg h4

/-- **What a switch can do**: it is refused and changes nothing, or the limiter grants it. -/
theorem commitSwitch_cases (r : AutoRouter) (now : Instant) (millis : Nat)
    (gameRegion : RobloxRegion) (region : String) (addr : SocketAddr) (location : Option String) :
    r.commitSwitch now millis gameRegion region addr location = (none, r) ∨
      ((r.commitSwitch now millis gameRegion region addr location).1 = some (addr, region) ∧
        r.switchRequest now =
          some (r.commitSwitch now millis gameRegion region addr location).2.limiter ∧
        (r.commitSwitch now millis gameRegion region addr location).2.bypassFields =
          ⟨r.autoRoutingBypassed, some gameRegion, r.whitelistedRegions⟩) := by
  rw [commitSwitch]
  rcases r.recordSwitch_cases now millis r.currentStRegion region gameRegion addr location with
    h | ⟨-, count, start, hreq, h⟩
  · rw [h]
    exact Or.inl rfl
  · rw [h]
    exact Or.inr ⟨rfl, hreq, rfl⟩

theorem getBestServerForRegion_frame (r : AutoRouter) (millis : Nat) (region : RobloxRegion) :
    ∃ bypassed game log, (r.getBestServerForRegion millis region).2 =
      { r with autoRoutingBypassed := bypassed, currentGameRegion := game, eventLog := log } := by
  simp only [getBestServerForRegion]
  split
  · exact ⟨r.autoRoutingBypassed, r.currentGameRegion, r.eventLog, rfl⟩
  split
  · exact ⟨_, _, _, rfl⟩
  split
  · exact ⟨_, r.currentGameRegion, r.eventLog, rfl⟩
  split
  · exact ⟨_, _, r.eventLog, rfl⟩
  split
  · exact ⟨_, r.currentGameRegion, r.eventLog, rfl⟩
  · exact ⟨_, r.currentGameRegion, r.eventLog, rfl⟩

/-! ## 2. The bypass -/

/-- Game traffic goes outside the tunnel only in a whitelisted region. -/
def BypassWhitelisted (r : AutoRouter) : Prop :=
  r.autoRoutingBypassed = true →
    ∃ region, r.currentGameRegion = some region ∧ region.displayName ∈ r.whitelistedRegions

/-- What deciding on a region does to the bypass.  `Unknown` is passed over; a whitelisted region
becomes the current one; any other ends the bypass. -/
structure Decided (r : AutoRouter) (region : RobloxRegion) (r' : AutoRouter) : Prop where
  whitelist : r'.whitelistedRegions = r.whitelistedRegions
  bypass : (region = .unknown ∧ r' = r) ∨
    (region.displayName ∈ r.whitelistedRegions ∧ r'.currentGameRegion = some region) ∨
    r'.autoRoutingBypassed = false

theorem getBestServerForRegion_decided (r : AutoRouter) (millis : Nat) (region : RobloxRegion) :
    Decided r region (r.getBestServerForRegion millis region).2 := by
  obtain ⟨bypassed, game, log, hframe⟩ := r.getBestServerForRegion_frame millis region
  refine ⟨by rw [hframe], ?_⟩
  simp only [getBestServerForRegion]
  split
  · rename_i h
    exact Or.inl ⟨h, rfl⟩
  split
  · rename_i h
    exact Or.inr (Or.inl ⟨of_decide_eq_true h, rfl⟩)
  refine Or.inr (Or.inr ?_)
  split
  · rfl
  split
  · rfl
  split
  · rfl
  · rfl

theorem getCandidatesForRegion_decided (r : AutoRouter) (millis : Nat) (region : RobloxRegion) :
    Decided r region (r.getCandidatesForRegion millis region).2 := by
  obtain ⟨bypassed, game, log, hframe⟩ := r.getCandidatesForRegion_frame millis region
  refine ⟨by rw [hframe], ?_⟩
  simp only [getCandidatesForRegion]
  split
  · rename_i h
    exact Or.inl ⟨h, rfl⟩
  split
  · rename_i h
    exact Or.inr (Or.inl ⟨of_decide_eq_true h, rfl⟩)
  refine Or.inr (Or.inr ?_)
  split
  · rfl
  split
  · rfl
  split
  · rfl
  · rfl

theorem bypassWhitelisted_congr {r r' : AutoRouter} (h : r'.bypassFields = r.bypassFields) :
    r'.BypassWhitelisted ↔ r.BypassWhitelisted := by
  obtain ⟨hb, hg, hw⟩ := BypassFields.mk.inj h
  rw [BypassWhitelisted, BypassWhitelisted, hb, hg, hw]

theorem setWhitelistedRegions_bypass {r : AutoRouter} (regions : List String)
    (h : r.BypassWhitelisted) :
    (r.setWhitelistedRegions regions).BypassWhitelisted ∧
      ((r.setWhitelistedRegions regions).autoRoutingBypassed = true →
        r.autoRoutingBypassed = true ∧
          (r.setWhitelistedRegions regions).currentGameRegion = r.currentGameRegion) := by
  simp only [setWhitelistedRegions]
  cases hb : r.autoRoutingBypassed with
  | false =>
    rw [if_neg (by decide)]
    have hoff : ∀ {p : Prop}, r.autoRoutingBypassed = true → p := by
      intro p hon
      rw [hb] at hon
      cases hon
    exact ⟨fun hon => hoff hon, fun hon => hoff hon⟩
  | true =>
    obtain ⟨region, hregion, -⟩ := h hb
    rw [if_pos rfl, hregion]
    by_cases hnew : region.displayName ∈ regions.toFinset
    · simp only [if_pos hnew]
      exact ⟨fun _ => ⟨region, hregion, hnew⟩, fun _ => ⟨trivial, hregion⟩⟩
    · simp only [if_neg hnew]
      constructor <;> rintro ⟨⟩

/-- **What an operation of another thread leaves alone**: the limiter; the bypass, except for the
settings, `reset` and `record_game_region`; the traffic records, unless it notes a server or
forgets them all. -/
theorem apply_frame (r : AutoRouter) (now : Instant) (op : RouterOp) :
    (r.apply now op).2.limiter = r.limiter ∧
    ((∃ regions, op = .setWhitelistedRegions regions) ∨ op = .reset ∨
      (∃ region, op = .recordGameRegion region) ∨
      (r.apply now op).2.bypassFields = r.bypassFields) ∧
    (op = .reset ∨
      ((RouterCall.op op).notes = none ∧ (r.apply now op).2.gameTraffic = r.gameTraffic) ∨
      ∃ ip, (RouterCall.op op).notes = some ip ∧
        (r.apply now op).2.gameTraffic = (r.noteGameTraffic now ip).gameTraffic) := by
  cases op with
  | setWhitelistedRegions regions =>
    obtain ⟨bypassed, h⟩ := r.setWhitelistedRegions_frame regions
    rw [apply, h]
    exact ⟨rfl, Or.inl ⟨regions, rfl⟩, Or.inr (Or.inl ⟨rfl, rfl⟩)⟩
  | reset => exact ⟨rfl, Or.inr (Or.inl rfl), Or.inl rfl⟩
  | recordGameRegion region =>
    exact ⟨rfl, Or.inr (Or.inr (Or.inl ⟨region, rfl⟩)), Or.inr (Or.inl ⟨rfl, rfl⟩)⟩
  | setEnabled enabled =>
    rw [apply, setEnabled]
    split
    · exact ⟨rfl, Or.inr (Or.inr (Or.inr rfl)), Or.inr (Or.inl ⟨rfl, rfl⟩)⟩
    split
    · exact ⟨rfl, Or.inr (Or.inr (Or.inr rfl)), Or.inr (Or.inl ⟨rfl, rfl⟩)⟩
    · exact ⟨rfl, Or.inr (Or.inr (Or.inr rfl)), Or.inr (Or.inl ⟨rfl, rfl⟩)⟩
  | noteGameTraffic ip =>
    obtain ⟨traffic, h⟩ := r.noteGameTraffic_frame now ip
    rw [apply, h]
    exact ⟨rfl, Or.inr (Or.inr (Or.inr rfl)),
      Or.inr (Or.inr ⟨ip, rfl, congrArg gameTraffic h.symm⟩)⟩
  | pinActiveGameServerForSession ip epoch =>
    obtain ⟨active, h⟩ := r.pinActiveGameServerForSession_frame now ip epoch
    rw [apply, h]
    exact ⟨rfl, Or.inr (Or.inr (Or.inr rfl)), Or.inr (Or.inl ⟨rfl, rfl⟩)⟩
  | evaluateGameServer locks ip =>
    obtain ⟨active, seen, pending, any, generation, h⟩ := r.evaluateGameServer_frame locks now ip
    obtain ⟨traffic, hnote⟩ := r.noteGameTraffic_frame now ip
    have htraffic : (r.noteGameTraffic now ip).gameTraffic = traffic := by rw [hnote]
    rw [apply, h, hnote]
    exact ⟨rfl, Or.inr (Or.inr (Or.inr rfl)), Or.inr (Or.inr ⟨ip, rfl, htraffic.symm⟩)⟩
  | _ => exact ⟨rfl, Or.inr (Or.inr (Or.inr rfl)), Or.inr (Or.inl ⟨rfl, rfl⟩)⟩

end AutoRouter

/-- The lookup result whose region may still be switched to. -/
def processedAfter (processed : Option RobloxRegion) : RouterCall → Option RobloxRegion
  | .getBestServerForRegion _ region | .getCandidatesForRegion _ region =>
    if region = .unknown then none else some region
  | .commitSwitch .. => none
  | _ => processed

/-- The calls that the code makes: a switch is for the region of the lookup result last
processed, and nothing calls `record_game_region`. -/
def Called (processed : Option RobloxRegion) : RouterCall → Prop
  | .commitSwitch _ region _ _ _ => processed = some region
  | .op (.recordGameRegion _) => False
  | _ => True

/-- The router, and the region of the lookup result being processed. -/
structure LookupRouter where
  router : AutoRouter
  processed : Option RobloxRegion

def LookupRouterStep (st : LookupRouter) (i : Instant × RouterCall) (o : RouterReply)
    (st' : LookupRouter) : Prop :=
  Called st.processed i.2 ∧ RouterStep st.router i o st'.router ∧
    st'.processed = processedAfter st.processed i.2

/-- The bypass is for a whitelisted region, and for that of the result being processed. -/
structure BypassInv (st : LookupRouter) : Prop where
  whitelisted : st.router.BypassWhitelisted
  processed : ∀ region, st.processed = some region → st.router.autoRoutingBypassed = true →
    st.router.currentGameRegion = some region

namespace AutoRouter

/-- Deciding on a region keeps the bypass whitelisted, and puts it on that region. -/
theorem Decided.bypassInv {r r' : AutoRouter} {region : RobloxRegion} (h : Decided r region r')
    (hr : r.BypassWhitelisted) :
    BypassInv ⟨r', if region = .unknown then none else some region⟩ := by
  obtain ⟨hwhite, ⟨rfl, rfl⟩ | ⟨hmem, hgame⟩ | hoff⟩ := h
  · exact ⟨hr, fun region hregion => nomatch hregion⟩
  · refine ⟨fun _ => ⟨region, hgame, hwhite ▸ hmem⟩, fun region' hregion' _ => ?_⟩
    dsimp only at hregion'
    split at hregion'
    · exact nomatch hregion'
    · rw [← hregion']
      exact hgame
  · refine ⟨fun hon => ?_, fun region' _ hon => ?_⟩
    · rw [hoff] at hon
      exact nomatch hon
    · dsimp only at hon
      rw [hoff] at hon
      exact nomatch hon

end AutoRouter

/-- **Every call keeps the invariant.** -/
theorem bypassInv_step {st st' : LookupRouter} {i : Instant × RouterCall} {o : RouterReply}
    (hstep : LookupRouterStep st i o st') (h : BypassInv st) : BypassInv st' := by
  obtain ⟨now, call⟩ := i
  obtain ⟨r, processed⟩ := st
  obtain ⟨r', processed'⟩ := st'
  obtain ⟨hcalled, hrouter, hprocessed⟩ := hstep
  obtain rfl : processed' = processedAfter processed call := hprocessed
  obtain rfl : (r.call now call).2 = r' := congrArg Prod.snd hrouter
  have hsame : ∀ q : AutoRouter, q.bypassFields = r.bypassFields → BypassInv ⟨q, processed⟩ := by
    intro q hq
    obtain ⟨hb, hg, -⟩ := AutoRouter.BypassFields.mk.inj hq
    refine ⟨(AutoRouter.bypassWhitelisted_congr hq).mpr h.whitelisted, fun region hregion hon => ?_⟩
    exact hg.trans (h.processed region hregion (hb.symm.trans hon))
  cases call with
  | getBestServerForRegion millis region =>
    exact (r.getBestServerForRegion_decided millis region).bypassInv h.whitelisted
  | getCandidatesForRegion millis region =>
    exact (r.getCandidatesForRegion_decided millis region).bypassInv h.whitelisted
  | setLookupChannel => exact hsame _ rfl
  | clearPendingLookup ip => exact hsame _ rfl
  | commitSwitch millis region selected addr location =>
    obtain rfl : processed = some region := hcalled
    refine ⟨?_, fun region' hregion' => nomatch hregion'⟩
    rcases r.commitSwitch_cases now millis region selected addr location with hr | ⟨-, -, hbypass⟩
    · change (r.commitSwitch now millis region selected addr location).2.BypassWhitelisted
      rw [hr]
      exact h.whitelisted
    · intro hon
      obtain ⟨hb, hg, hw⟩ := AutoRouter.BypassFields.mk.inj hbypass
      have hold := hb.symm.trans hon
      obtain ⟨region', hregion', hmem⟩ := h.whitelisted hold
      -- the bypass is already on the region that the switch is for
      obtain rfl := Option.some.inj (hregion'.symm.trans (h.processed region rfl hold))
      exact ⟨region', hg, hw ▸ hmem⟩
  | op op =>
    have hprocessed : processedAfter processed (.op op) = processed := rfl
    rw [(r.call_op now op).1, hprocessed]
    rcases (r.apply_frame now op).2.1 with ⟨regions, rfl⟩ | rfl | ⟨region, rfl⟩ | hq
    · obtain ⟨hwhite, hgame⟩ := AutoRouter.setWhitelistedRegions_bypass regions h.whitelisted
      refine ⟨hwhite, fun region hregion hon => ?_⟩
      obtain ⟨hold, hsame⟩ := hgame hon
      exact hsame.trans (h.processed region hregion hold)
    · exact ⟨(nomatch ·), fun region _ hon => nomatch hon⟩
    · exact hcalled.elim
    · exact hsame _ hq

/-- **Game traffic goes outside the tunnel only in a whitelisted region.**  In every state that a
new router reaches, the bypass is on only while the current game region is whitelisted. -/
theorem bypassed_whitelisted {now : Instant} {enabled : Bool} {initialRegion : String}
    {es : RouterLog} {st : LookupRouter}
    (hrun : Run LookupRouterStep ⟨AutoRouter.new now enabled initialRegion, none⟩ es st)
    (hon : st.router.autoRoutingBypassed = true) :
    ∃ region, st.router.currentGameRegion = some region ∧
      region.displayName ∈ st.router.whitelistedRegions := by
  have hstart : BypassInv ⟨AutoRouter.new now enabled initialRegion, none⟩ :=
    ⟨(nomatch ·), fun region hregion => nomatch hregion⟩
  have hinv : BypassInv st :=
    hrun.preserves (P := BypassInv) (fun _ _ _ _ hstep h => bypassInv_step hstep h) hstart
  exact hinv.whitelisted hon

theorem lookupRouterStep_call (r : AutoRouter) (processed : Option RobloxRegion) (now : Instant)
    (c : RouterCall) (h : Called processed c) :
    LookupRouterStep ⟨r, processed⟩ (now, c) (r.call now c).1
      ⟨(r.call now c).2, processedAfter processed c⟩ := ⟨h, rfl, rfl⟩

/-- A router in a whitelisted region bypasses the tunnel, for that region. -/
theorem usEast_bypassed :
    ∃ (es : RouterLog) (st : LookupRouter),
      Run LookupRouterStep ⟨AutoRouter.new 0 true "singapore", none⟩ es st ∧
        st.router.autoRoutingBypassed = true ∧
        ∃ region, st.router.currentGameRegion = some region ∧
          region.displayName ∈ st.router.whitelistedRegions := by
  let r₁ := ((AutoRouter.new 0 true "singapore").call 0
    (.op (.setWhitelistedRegions ["US East"]))).2
  let r₂ := (r₁.call 0 (.getCandidatesForRegion 0 .usEast)).2
  have h₁ := lookupRouterStep_call (AutoRouter.new 0 true "singapore") none 0
    (.op (.setWhitelistedRegions ["US East"])) trivial
  have h₂ := lookupRouterStep_call r₁ none 0 (.getCandidatesForRegion 0 .usEast) trivial
  have hrun := Run.cons h₁ (Run.cons h₂ (Run.nil _))
  have hon : r₂.autoRoutingBypassed = true := by decide +kernel
  exact ⟨_, _, hrun, hon, bypassed_whitelisted hrun hon⟩

/-! ## 3. The limit on switches -/

/-- A call is a request to the limiter, granted when it switches. -/
theorem limiter_step {r r' : AutoRouter} {i : Instant × RouterCall} {o : RouterReply}
    (hstep : RouterStep r i o r') :
    FixedWindow.Step minSwitchInterval (Duration.fromSecs 60) maxSwitchesPerMinute r.limiter i.1
      o.switched r'.limiter := by
  obtain ⟨now, call⟩ := i
  dsimp only [RouterStep] at hstep ⊢
  obtain rfl : (r.call now call).1 = o := congrArg Prod.fst hstep
  obtain rfl : (r.call now call).2 = r' := congrArg Prod.snd hstep
  have hquiet : ∀ (reply : RouterReply) (q : AutoRouter), reply.switched = false →
      q.limiter = r.limiter → FixedWindow.Step minSwitchInterval (Duration.fromSecs 60)
        maxSwitchesPerMinute r.limiter now reply.switched q.limiter := by
    intro reply q hreply hq
    rw [hreply, hq]
    exact FixedWindow.Step.refused _ _
  cases call with
  | commitSwitch millis gameRegion region addr location =>
    rcases r.commitSwitch_cases now millis gameRegion region addr location with h |
      ⟨hsome, hreq, -⟩
    · rw [AutoRouter.call, h]
      exact FixedWindow.Step.refused _ _
    · rw [AutoRouter.call]
      generalize r.commitSwitch now millis gameRegion region addr location = p at hsome hreq ⊢
      obtain ⟨switched, q⟩ := p
      obtain rfl : switched = some (addr, region) := hsome
      exact FixedWindow.Step.granted hreq
  | getBestServerForRegion millis region =>
    obtain ⟨bypassed, game, log, h⟩ := r.getBestServerForRegion_frame millis region
    refine hquiet _ _ rfl ?_
    change (r.getBestServerForRegion millis region).2.limiter = _
    rw [h]
    rfl
  | getCandidatesForRegion millis region =>
    obtain ⟨bypassed, game, log, h⟩ := r.getCandidatesForRegion_frame millis region
    refine hquiet _ _ rfl ?_
    change (r.getCandidatesForRegion millis region).2.limiter = _
    rw [h]
    rfl
  | setLookupChannel => exact hquiet _ _ rfl rfl
  | clearPendingLookup ip => exact hquiet _ _ rfl rfl
  | op op =>
    refine hquiet _ _ ?_ ?_
    · rw [AutoRouter.call]
      split
      · rfl
      · rfl
    · rw [(r.call_op now op).1]
      exact (r.apply_frame now op).1

/-- When the calls of a log switched. -/
def switchTimes (es : RouterLog) : List (Int × Bool) := es.map fun e => (e.1.1, e.2.switched)

/-- The calls come in order of time. -/
def RouterLog.InOrder (es : RouterLog) : Prop := es.Pairwise fun e e' => e.1.1 ≤ e'.1.1

/-- The number of successful switches from `a` to `b`, both included. -/
def switchesIn (a b : Instant) (es : RouterLog) : Nat :=
  es.countP fun e => e.2.switched && decide (a ≤ e.1.1 ∧ e.1.1 ≤ b)

theorem switchesIn_eq (a b : Instant) (es : RouterLog) :
    switchesIn a b es = FixedWindow.grants a b (switchTimes es) := by
  rw [switchesIn, FixedWindow.grants, switchTimes, List.countP_map]
  rfl

theorem inOrder_switchTimes {es : RouterLog} (h : es.InOrder) :
    FixedWindow.InOrder (switchTimes es) := List.pairwise_map.mpr h

/-- The limiter of a run. -/
theorem limiter_run {r r' : AutoRouter} {es : RouterLog} (hrun : Run RouterStep r es r') :
    Run (FixedWindow.Step minSwitchInterval (Duration.fromSecs 60) maxSwitchesPerMinute) r.limiter
      (switchTimes es) r'.limiter := by
  induction hrun with
  | nil r => exact Run.nil _
  | cons hstep _ ih => exact Run.cons (limiter_step hstep) ih

/-- **Switches are limited.**  In every run of calls in order of time, two successful switches are
at least ten seconds apart; sixty seconds hold at most six of them, and at most three when they
begin with a switch that starts a new counting window; and a switch that is refused changes
nothing. -/
theorem switches_limited {r r' : AutoRouter} {es : RouterLog} (hrun : Run RouterStep r es r')
    (horder : es.InOrder) :
    (∀ (es₁ es₂ es₃ : RouterLog) (e₁ e₂ : RouterEvent), es = es₁ ++ e₁ :: es₂ ++ e₂ :: es₃ →
      e₁.2.switched = true → e₂.2.switched = true →
      e₁.1.1 + (minSwitchInterval : Int) ≤ e₂.1.1) ∧
    (∀ a, switchesIn a (a + Duration.fromSecs 60) es ≤ 2 * maxSwitchesPerMinute) ∧
    (∀ (es₁ es₂ : RouterLog) (e : RouterEvent) (r₁ : AutoRouter), es = es₁ ++ e :: es₂ →
      Run RouterStep r es₁ r₁ → Run RouterStep r₁ (e :: es₂) r' → e.2.switched = true →
      Duration.fromSecs 60 < durationSince e.1.1 r₁.switchesThisMinute.2 →
      switchesIn e.1.1 (e.1.1 + Duration.fromSecs 60) es ≤ maxSwitchesPerMinute) ∧
    ∀ (r₁ : AutoRouter) (now : Instant) (millis : Nat) (gameRegion : RobloxRegion)
      (region : String) (addr : SocketAddr) (location : Option String),
      (r₁.commitSwitch now millis gameRegion region addr location).1 = none →
      (r₁.commitSwitch now millis gameRegion region addr location).2 = r₁ := by
  have hlimiter := limiter_run hrun
  have hinOrder := inOrder_switchTimes horder
  refine ⟨?_, ?_, ?_, ?_⟩
  · rintro es₁ es₂ es₃ ⟨⟨t₁, c₁⟩, o₁⟩ ⟨⟨t₂, c₂⟩, o₂⟩ rfl h₁ h₂
    simp only [switchTimes, List.map_append, List.map_cons, h₁, h₂] at hlimiter hinOrder
    exact FixedWindow.grants_apart hlimiter hinOrder
  · intro a
    rw [switchesIn_eq]
    exact FixedWindow.grants_interval_le hlimiter hinOrder a
  · rintro es₁ es₂ ⟨⟨t, c⟩, o⟩ r₁ rfl hrun₁ hrun₂ h hexp
    have h₁ := limiter_run hrun₁
    have h₂ := limiter_run hrun₂
    rw [switchesIn_eq]
    simp only [switchTimes, List.map_append, List.map_cons, h] at h₁ h₂ hinOrder ⊢
    exact FixedWindow.grants_of_restart (by decide) (by decide) h₁ (lt_durationSince_iff.mp hexp) h₂
      hinOrder
  · intro r₁ now millis gameRegion region addr location hnone
    rcases r₁.commitSwitch_cases now millis gameRegion region addr location with h | ⟨hsome, -⟩
    · rw [h]
    · rw [hnone] at hsome
      exact nomatch hsome

/-- The run of the router on a list of calls. -/
def routerTrace (r : AutoRouter) (is : List (Instant × RouterCall)) : RouterLog × AutoRouter :=
  trace (fun r i => r.call i.1 i.2) r is

/-- A switch to a server of a region. -/
def switchTo (secs : Nat) (gameRegion : RobloxRegion) (region : String) : Instant × RouterCall :=
  (Duration.fromSecs secs, .commitSwitch 0 gameRegion region ⟨.v4 ⟨54, 225, 245, 114⟩, 51821⟩ none)

/-- Three switches at the end of the first counting window, and three in the next. -/
def sixSwitches : List (Instant × RouterCall) :=
  [switchTo 40 .usEast "america-01", switchTo 50 .tokyo "tokyo-02",
    switchTo 60 .usEast "america-01", switchTo 70 .tokyo "tokyo-02",
    switchTo 80 .usEast "america-01", switchTo 90 .tokyo "tokyo-02"]

theorem inOrder_routerTrace {r : AutoRouter} {is : List (Instant × RouterCall)}
    (h : is.Pairwise fun i i' => i.1 ≤ i'.1) : (routerTrace r is).1.InOrder := by
  rw [← map_fst_trace (fun (r : AutoRouter) (i : Instant × RouterCall) => r.call i.1 i.2) r is,
    List.pairwise_map] at h
  exact h

/-- **A minute across two windows holds six switches.** -/
theorem six_switches_in_a_minute :
    ∃ (es : RouterLog) (r : AutoRouter),
      Run RouterStep (AutoRouter.new 0 true "singapore") es r ∧ es.InOrder ∧
        (∀ e ∈ es, ∃ millis gameRegion region addr location,
          e.1.2 = .commitSwitch millis gameRegion region addr location) ∧
        ∃ a, maxSwitchesPerMinute < switchesIn a (a + Duration.fromSecs 60) es := by
  refine ⟨(routerTrace (AutoRouter.new 0 true "singapore") sixSwitches).1, _,
    run_trace _ _ sixSwitches, inOrder_routerTrace (by decide), ?_, Duration.fromSecs 40,
    by decide +kernel⟩
  intro e he
  have hmem : e.1 ∈ sixSwitches := by
    rw [← map_fst_trace (fun (r : AutoRouter) (i : Instant × RouterCall) => r.call i.1 i.2)
      (AutoRouter.new 0 true "singapore") sixSwitches]
    exact List.mem_map_of_mem he
  simp only [sixSwitches, switchTo, List.mem_cons, List.not_mem_nil, or_false] at hmem
  rcases hmem with h | h | h | h | h | h
  all_goals
    rw [h]
    exact ⟨_, _, _, _, _, rfl⟩

/-- Those six are all that the sixty seconds hold. -/
theorem six_switches_limited :
    switchesIn (Duration.fromSecs 40) (Duration.fromSecs 40 + Duration.fromSecs 60)
      (routerTrace (AutoRouter.new 0 true "singapore") sixSwitches).1 ≤ 2 * maxSwitchesPerMinute :=
  (switches_limited (run_trace _ _ sixSwitches) (inOrder_routerTrace (by decide))).2.1
    (Duration.fromSecs 40)

/-! ## 4. Quiet handoffs -/

namespace AutoRouter

/-- The traffic of `ip` is on record, and was noted less than the update granularity before `s`
or later. -/
def NotedSince (r : AutoRouter) (ip : Ipv4Addr) (s : Instant) : Prop :=
  ∃ last, r.gameTraffic.lookup ip = some last ∧
    s < last + (gameTrafficUpdateGranularity : Int)

/-- A record is only ever replaced by a later one. -/
theorem notedSince_note {r : AutoRouter} {ip : Ipv4Addr} {s : Instant} (h : r.NotedSince ip s)
    (now : Instant) (ip' : Ipv4Addr) : (r.noteGameTraffic now ip').NotedSince ip s := by
  obtain ⟨last, hlast, hs⟩ := h
  rw [noteGameTraffic]
  split
  · rename_i hdue
    split
    · exact ⟨last, hlast, hs⟩
    · by_cases hip : ip = ip'
      · subst hip
        rw [trafficUpdateDue, hlast] at hdue
        have hlater : last + (gameTrafficUpdateGranularity : Int) ≤ now :=
          le_sub_iff_add_le'.mp ((le_durationSince_iff (by decide)).mp (of_decide_eq_true hdue))
        exact ⟨now, AList.lookup_insert _,
          hs.trans_le (hlater.trans (Int.le_add_of_nonneg_right (by decide)))⟩
      · exact ⟨last, (AList.lookup_insert_ne hip).trans hlast, hs⟩
  · exact ⟨last, hlast, hs⟩

/-- While there is room, noting traffic puts it on record. -/
theorem notedSince_self {r : AutoRouter} {ip : Ipv4Addr} {now : Instant}
    (hroom : r.gameTraffic.entries.length < maxTrackedGameTrafficIps) :
    (r.noteGameTraffic now ip).NotedSince ip now := by
  rw [noteGameTraffic]
  split
  · rw [if_neg (fun h => absurd h.1 (not_le.mpr hroom))]
    exact ⟨now, AList.lookup_insert _, Int.lt_add_of_pos_right _ (by decide)⟩
  · rename_i hdue
    rw [trafficUpdateDue] at hdue
    split at hdue
    · rename_i last hlast
      rw [decide_eq_true_iff, le_durationSince_iff (by decide), not_le] at hdue
      exact ⟨last, hlast, sub_lt_iff_lt_add'.mp hdue⟩
    · exact absurd rfl hdue

theorem notedSince_of_traffic {r r' : AutoRouter} {ip : Ipv4Addr} {s : Instant}
    (h : r.NotedSince ip s) (htraffic : r'.gameTraffic = r.gameTraffic) : r'.NotedSince ip s := by
  rw [NotedSince, htraffic]
  exact h

/-- What a call does to the records. -/
theorem call_traffic (r : AutoRouter) (now : Instant) (c : RouterCall) :
    c.isReset = true ∨ (c.notes = none ∧ (r.call now c).2.gameTraffic = r.gameTraffic) ∨
      ∃ ip, c.notes = some ip ∧
        (r.call now c).2.gameTraffic = (r.noteGameTraffic now ip).gameTraffic := by
  cases c with
  | op op =>
    rw [(r.call_op now op).1]
    exact (r.apply_frame now op).2.2.imp_left fun h => by rw [h]; rfl
  | setLookupChannel => exact Or.inr (Or.inl ⟨rfl, rfl⟩)
  | clearPendingLookup ip => exact Or.inr (Or.inl ⟨rfl, rfl⟩)
  | getBestServerForRegion millis region =>
    obtain ⟨bypassed, game, log, h⟩ := r.getBestServerForRegion_frame millis region
    refine Or.inr (Or.inl ⟨rfl, ?_⟩)
    change (r.getBestServerForRegion millis region).2.gameTraffic = _
    rw [h]
  | getCandidatesForRegion millis region =>
    obtain ⟨bypassed, game, log, h⟩ := r.getCandidatesForRegion_frame millis region
    refine Or.inr (Or.inl ⟨rfl, ?_⟩)
    change (r.getCandidatesForRegion millis region).2.gameTraffic = _
    rw [h]
  | commitSwitch millis gameRegion region addr location =>
    obtain ⟨window, last, st, relay, game, log, h⟩ :=
      r.recordSwitch_frame now millis r.currentStRegion region gameRegion addr location
    refine Or.inr (Or.inl ⟨rfl, ?_⟩)
    change (r.commitSwitch now millis gameRegion region addr location).2.gameTraffic = _
    rw [commitSwitch_snd, h]

/-- Only `reset` forgets the traffic of a server. -/
theorem notedSince_call {r : AutoRouter} {ip : Ipv4Addr} {s : Instant} (h : r.NotedSince ip s)
    (now : Instant) {c : RouterCall} (hreset : c.isReset = false) :
    (r.call now c).2.NotedSince ip s := by
  rcases r.call_traffic now c with h' | ⟨-, htraffic⟩ | ⟨ip', -, htraffic⟩
  · rw [hreset] at h'
    exact nomatch h'
  · exact notedSince_of_traffic h htraffic
  · exact notedSince_of_traffic (notedSince_note h now ip') htraffic

theorem NotedSince.run {r r' : AutoRouter} {ip : Ipv4Addr} {s : Instant} {es : RouterLog}
    (h : r.NotedSince ip s) (hrun : Run RouterStep r es r')
    (hreset : ∀ e ∈ es, e.1.2.isReset = false) : r'.NotedSince ip s := by
  induction hrun with
  | nil r => exact h
  | cons hstep _ ih =>
    obtain ⟨hc, hreset⟩ := List.forall_mem_cons.mp hreset
    obtain rfl := congrArg Prod.snd hstep
    exact ih (notedSince_call h _ hc) hreset

/-- **A server on record must have been quiet** for the lookup of another to be sent. -/
theorem quiet_of_enqueued {r : AutoRouter} {ip : Ipv4Addr} {s : Instant} (h : r.NotedSince ip s)
    {locks : TryLocks} {now : Instant} {c : Ipv4Addr} {m : LookupMessage} (hne : ip ≠ c)
    (hsent : (r.evaluateGameServer locks now c).1 = some m) :
    s < now - ((gameTrafficQuietHandoff : Int) - (gameTrafficUpdateGranularity : Int)) := by
  obtain ⟨last, hlast, hs⟩ := notedSince_note h now c
  have hquiet := evaluateGameServer_quiet hsent
  rw [otherGameTrafficQuiet, List.all_eq_true] at hquiet
  have hold := hquiet ⟨ip, last⟩
    (List.mem_filter.mpr ⟨AList.mem_lookup_iff.mp hlast, decide_eq_true hne⟩)
  have hage : (gameTrafficQuietHandoff : Int) ≤ now - last :=
    (le_durationSince_iff (by decide)).mp (of_decide_eq_true hold)
  linarith

end AutoRouter

/-- **A lookup waits until every other server has been quiet.**  In every run, when
`evaluate_game_server` sends a lookup for `c` at `now`, no traffic of another server was noted in
the 2.75 seconds up to `now`, unless the router was reset after it or the map of tracked servers
was full. -/
theorem enqueued_after_quiet {r₀ r r' : AutoRouter} {es : RouterLog} (hrun : Run RouterStep r₀ es r)
    {locks : AutoRouter.TryLocks} {now : Instant} {c : Ipv4Addr} {m : LookupMessage}
    (hsent : RouterStep r (now, .op (.evaluateGameServer locks c)) (.enqueued m) r')
    (es₁ es₂ : RouterLog) (s : Instant) (call : RouterCall) (reply : RouterReply) (ip : Ipv4Addr)
    (hes : es = es₁ ++ ((s, call), reply) :: es₂) (hnotes : call.notes = some ip) (hne : ip ≠ c)
    (hreset : ∀ e ∈ es₂, e.1.2.isReset = false)
    (hroom : ∀ r₁, Run RouterStep r₀ es₁ r₁ →
      r₁.gameTraffic.entries.length < maxTrackedGameTrafficIps) :
    s ∉ Set.Ioc (now - ((gameTrafficQuietHandoff : Int) - (gameTrafficUpdateGranularity : Int)))
      now := by
  subst hes
  obtain ⟨r₁, h₁, h₂⟩ := run_append.mp hrun
  obtain ⟨r₂, hnote, h₂⟩ := run_cons_iff.mp h₂
  have hnoted : r₂.NotedSince ip s := by
    obtain rfl : (r₁.call s call).2 = r₂ := congrArg Prod.snd hnote
    rcases r₁.call_traffic s call with h | ⟨h, -⟩ | ⟨ip', h, htraffic⟩
    · rw [RouterCall.notes_of_isReset h] at hnotes
      exact nomatch hnotes
    · rw [hnotes] at h
      exact nomatch h
    · obtain rfl := Option.some.inj (hnotes.symm.trans h)
      exact AutoRouter.notedSince_of_traffic (AutoRouter.notedSince_self (hroom r₁ h₁)) htraffic
  have hkept : r.NotedSince ip s := hnoted.run h₂ hreset
  have hsent' : (r.evaluateGameServer locks now c).1 = some m :=
    ((r.call_op now _).2 m).mp (congrArg Prod.fst hsent)
  intro hin
  exact absurd hin.1 (not_lt.mpr (AutoRouter.quiet_of_enqueued hkept hne hsent').le)

/-- A server asked about three seconds after the last traffic of another. -/
theorem quiet_handoff_enqueued :
    ∃ (es : RouterLog) (r r' : AutoRouter) (m : LookupMessage),
      Run RouterStep (AutoRouter.new 0 true "singapore") es r ∧
        RouterStep r (Duration.fromSecs 3, .op (.evaluateGameServer ⟨true, true, true⟩
          ⟨128, 116, 2, 33⟩)) (.enqueued m) r' ∧
        (0 : Int) ∉ Set.Ioc ((Duration.fromSecs 3 : Int) -
          ((gameTrafficQuietHandoff : Int) - (gameTrafficUpdateGranularity : Int)))
          (Duration.fromSecs 3) := by
  let r₁ := ((AutoRouter.new 0 true "singapore").call 0 .setLookupChannel).2
  let r₂ := (r₁.call 0 (.op (.noteGameTraffic ⟨128, 116, 1, 33⟩))).2
  let p := r₂.call (Duration.fromSecs 3) (.op (.evaluateGameServer ⟨true, true, true⟩
    ⟨128, 116, 2, 33⟩))
  have h₁ : RouterStep (AutoRouter.new 0 true "singapore") (0, .setLookupChannel) .done r₁ := rfl
  have h₂ : RouterStep r₁ (0, .op (.noteGameTraffic ⟨128, 116, 1, 33⟩)) .done r₂ := rfl
  have hrun := Run.cons h₁ (Run.cons h₂ (Run.nil _))
  have hsent : RouterStep r₂ (Duration.fromSecs 3, .op (.evaluateGameServer ⟨true, true, true⟩
      ⟨128, 116, 2, 33⟩)) (.enqueued ⟨⟨128, 116, 2, 33⟩, 1, 0⟩) p.2 :=
    Prod.ext (by decide +kernel) rfl
  refine ⟨_, _, _, _, hrun, hsent, ?_⟩
  refine enqueued_after_quiet hrun hsent [_] [] 0 _ _ _ rfl rfl (by decide)
    (fun e he => nomatch he) (fun r hr => ?_)
  -- the map is still empty
  obtain ⟨r', hr', hnil⟩ := run_cons_iff.mp hr
  obtain rfl := run_nil_iff.mp hnil
  obtain rfl := congrArg Prod.snd hr'
  decide +kernel

end SwiftTunnel
