/-
# The two server selectors

`auto_routing.rs`.  `get_best_server_for_region` gives one server of a region family,
`get_candidates_for_region` all of them, and each goes through the whitelist, the bypass flag, the
current region and the latencies by itself.  A forced server is looked at by the first only.

The second sorts the family by latency, stably, and the first takes the least, so the question is
whether head and least are one server.  Both log, and read the clock when they do; routers are
compared up to the time of that entry (`SameButTime`).

A server whose latency is not known is compared as one of `u32::MAX` milliseconds.

* `serversOf_sorted`: the candidates are the servers of the family, stably sorted.
* `server_selectors_agree`: without forced servers the first gives the head of what the second
  gives, and leaves the same router.
* `unmeasured_server_first`: a server of unknown latency before a measured one.
-/
import Mathlib.Order.WithBot
import SwiftTunnel.Lib.StableSort
import SwiftTunnel.Vpn.AutoRouting

namespace SwiftTunnel

open Rust

/-! ## 1. Events and latencies -/

/-- The event without its time. -/
def AutoRoutingEvent.undated (e : AutoRoutingEvent) : AutoRoutingEvent := { e with timestampMs := 0 }

/-- A latency, with an unknown one above all others. -/
def Server.measuredKey (s : Server) : WithTop Nat := s.latency.map UInt32.toNat

namespace AutoRouter

/-- The same router, up to the time of the newest event. -/
structure SameButTime (q r : AutoRouter) : Prop where
  fields : { q with eventLog := [] } = { r with eventLog := [] }
  log : q.eventLog = r.eventLog ∨ ∃ older e e', q.eventLog = older ++ [e] ∧
    r.eventLog = older ++ [e'] ∧ e.undated = e'.undated

theorem sameButTime_rfl (r : AutoRouter) : SameButTime r r := ⟨rfl, Or.inl rfl⟩

theorem logEvent_sameButTime (r : AutoRouter) {e e' : AutoRoutingEvent}
    (h : e.undated = e'.undated) : SameButTime (r.logEvent e) (r.logEvent e') := by
  refine ⟨rfl, Or.inr ?_⟩
  simp only [logEvent, List.length_append, List.length_singleton]
  split
  · rename_i hfull
    have hne : r.eventLog ≠ [] := by
      rintro hnil
      rw [hnil] at hfull
      exact absurd hfull (by decide)
    exact ⟨r.eventLog.tail, e, e', List.tail_append_of_ne_nil hne, List.tail_append_of_ne_nil hne, h⟩
  · exact ⟨r.eventLog, e, e', rfl, rfl, h⟩

/-! ## 2. The order of the candidates -/

/-- The available servers of a region family, as the list has them. -/
def familyServers (r : AutoRouter) (wanted : String) : List Server :=
  r.availableServers.filter fun s => inFamily wanted s.region

/-- **The servers of a family are stably sorted** by their latencies. -/
theorem serversOf_sorted (r : AutoRouter) (wanted : String) :
    ∃ chosen, StableSorted Server.latencyKey (r.familyServers wanted) chosen ∧
      r.serversOf wanted = chosen.map fun s => (s.region, s.addr) :=
  ⟨_, stableSorted_insertionSort _ _, rfl⟩

/-! ## 3. Both selectors -/

/-- Either there is no server to choose, or both choose from the same family. -/
theorem selectors_cases {r : AutoRouter} (h : r.forcedServers = ∅) (millis millis' : Nat)
    (game : RobloxRegion) :
    (∃ q q', r.getBestServerForRegion millis game = (none, q) ∧
        r.getCandidatesForRegion millis' game = (none, q') ∧ SameButTime q q') ∨
      ∃ wanted q, game.bestSwifttunnelRegion = some wanted ∧
        r.getBestServerForRegion millis game = ((r.serversOf wanted).head?, q) ∧
        r.getCandidatesForRegion millis' game =
          (if r.serversOf wanted = [] then none else some (r.serversOf wanted), q) := by
  simp only [getBestServerForRegion, getCandidatesForRegion]
  split
  · exact Or.inl ⟨r, r, rfl, rfl, sameButTime_rfl r⟩
  split
  · exact Or.inl ⟨_, _, rfl, rfl, logEvent_sameButTime _ rfl⟩
  split
  · exact Or.inl ⟨_, _, rfl, rfl, sameButTime_rfl _⟩
  rename_i wanted hwanted
  split
  · exact Or.inl ⟨_, _, rfl, rfl, sameButTime_rfl _⟩
  · refine Or.inr ⟨wanted, { r with autoRoutingBypassed := false }, hwanted, ?_, ?_⟩
    · rw [h, AList.lookup_empty, Option.bind_none]
      rfl
    · rw [apply_ite (Prod.mk · _)]
      rfl

/-- **The two selectors agree** when no server is forced, whatever time each reads. -/
theorem server_selectors_agree (r : AutoRouter) (h : r.forcedServers = ∅) (millis millis' : Nat)
    (game : RobloxRegion) :
    SameButTime (r.getBestServerForRegion millis game).2
        (r.getCandidatesForRegion millis' game).2 ∧
      ((r.getBestServerForRegion millis game).1 = none ↔
        (r.getCandidatesForRegion millis' game).1 = none) ∧
      ∀ candidates, (r.getCandidatesForRegion millis' game).1 = some candidates →
        (∃ first rest, candidates = first :: rest ∧
          (r.getBestServerForRegion millis game).1 = some first) ∧
        ∃ wanted chosen, game.bestSwifttunnelRegion = some wanted ∧
          StableSorted Server.latencyKey (r.familyServers wanted) chosen ∧
          candidates = chosen.map fun s => (s.region, s.addr) := by
  rcases selectors_cases h millis millis' game with
    ⟨q, q', hbest, hall, hsame⟩ | ⟨wanted, q, hwanted, hbest, hall⟩
  · rw [hbest, hall]
    exact ⟨hsame, iff_of_true rfl rfl, fun candidates hc => by cases hc⟩
  · rw [hbest, hall]
    obtain ⟨chosen, hsorted, hmap⟩ := r.serversOf_sorted wanted
    cases hservers : r.serversOf wanted with
    | nil => exact ⟨sameButTime_rfl q, iff_of_true rfl rfl, fun candidates hc => by cases hc⟩
    | cons first rest =>
      refine ⟨sameButTime_rfl q, iff_of_false (by simp) (by simp), fun candidates hc => ?_⟩
      obtain rfl := Option.some.inj hc
      exact ⟨⟨first, rest, rfl, rfl⟩, wanted, chosen, hwanted, hsorted, hservers ▸ hmap⟩

/-- A session in Tokyo, and two servers in America of which one is measured. -/
def tokyoRouter : AutoRouter :=
  (AutoRouter.new 0 true "tokyo").setAvailableServers
    [⟨"america-1", ⟨.v4 ⟨10, 0, 0, 1⟩, 51821⟩, none⟩,
      ⟨"america-2", ⟨.v4 ⟨10, 0, 0, 2⟩, 51821⟩, some 60⟩]

theorem tokyoRouter_selects :
    (tokyoRouter.getBestServerForRegion 0 .usEast).1 =
        some ("america-2", ⟨.v4 ⟨10, 0, 0, 2⟩, 51821⟩) ∧
      (tokyoRouter.getCandidatesForRegion 5 .usEast).1 =
        some [("america-2", ⟨.v4 ⟨10, 0, 0, 2⟩, 51821⟩), ("america-1", ⟨.v4 ⟨10, 0, 0, 1⟩, 51821⟩)] := by
  have hall : (tokyoRouter.getCandidatesForRegion 5 .usEast).1 =
      some [("america-2", ⟨.v4 ⟨10, 0, 0, 2⟩, 51821⟩),
        ("america-1", ⟨.v4 ⟨10, 0, 0, 1⟩, 51821⟩)] := by decide
  obtain ⟨first, rest, heq, hbest⟩ :=
    ((server_selectors_agree tokyoRouter rfl 0 5 .usEast).2.2 _ hall).1
  obtain ⟨rfl, -⟩ := List.cons.inj heq
  exact ⟨hbest, hall⟩

/-! ## 4. The latency that is no latency -/

/-- One server is not measured, and the other took `u32::MAX` milliseconds. -/
def slowRouter : AutoRouter :=
  tokyoRouter.setAvailableServers
    [⟨"america-1", ⟨.v4 ⟨10, 0, 0, 1⟩, 51821⟩, none⟩,
      ⟨"america-2", ⟨.v4 ⟨10, 0, 0, 2⟩, 51821⟩, some 4294967295⟩]

/-- **An unknown latency is not always last**: it ties with the greatest one. -/
theorem unmeasured_server_first :
    slowRouter.forcedServers = ∅ ∧
      (slowRouter.getCandidatesForRegion 0 .usEast).1 =
        some [("america-1", ⟨.v4 ⟨10, 0, 0, 1⟩, 51821⟩), ("america-2", ⟨.v4 ⟨10, 0, 0, 2⟩, 51821⟩)] ∧
      ¬ ∃ chosen, StableSorted Server.measuredKey (slowRouter.familyServers "america") chosen ∧
        [("america-1", ⟨.v4 ⟨10, 0, 0, 1⟩, 51821⟩), ("america-2", ⟨.v4 ⟨10, 0, 0, 2⟩, 51821⟩)] =
          chosen.map fun s => (s.region, s.addr) := by
  refine ⟨rfl, by decide, ?_⟩
  rintro ⟨chosen, hsorted, hmap⟩
  rw [hsorted.unique (stableSorted_insertionSort _ _)] at hmap
  exact absurd hmap (by decide)

end AutoRouter

end SwiftTunnel
