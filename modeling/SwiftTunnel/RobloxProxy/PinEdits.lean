/-
# What two of the pin operations leave behind

Exact statements about one call of `remove_overrides` and of `apply_bootstrap_overrides`: when it
does what its comments promise, and when it does not.

`remove_overrides` writes the file back only when the cleaned text differs from what it has read.
Cleaning also normalises: it drops carriage returns and ends the file with one line feed.  So a file
without a block is written all the same unless it is tidy (`Tidy`).  The calls to the system are
modelled one by one (`HostsCall`), since it is their absence that is promised.

* `removeMarkerBlock_eq_self_iff`: which files survive the cleaning.
* `removeOverrides_unchanged_iff`: a hosts file without a block is left alone when it cannot be read,
  or is written the way `remove_marker_block` writes files.
* `writable_ne_nil_iff`: when an allocation leaves something to write.
* `applyBootstrapOverrides_published_iff`: Route Assist publishes the addresses it allocates when
  one of them is to be written; the writer refuses an empty list, and then nothing is published.

What the relay's answers do to the file is in `PinReturns`.
-/
import SwiftTunnel.RobloxProxy.Allocation
import SwiftTunnel.RobloxProxy.Hosts
import SwiftTunnel.RobloxProxy.HostsEdits

namespace SwiftTunnel

open Rust

/-! ## 1. A removal where there is nothing to remove -/

/-- What `remove_overrides` asks of the system. -/
inductive HostsCall where
  | read
  | write (text : Text)
  | flushDnsCache
  deriving DecidableEq, Repr

/-- The calls that `remove_overrides_inner` makes, in order. -/
def removeOverridesCalls (io : HostsIo) (content : Text) : List HostsCall :=
  match io.readErr with
  | some _ => [.read]
  | none =>
    let clean := removeMarkerBlock content
    if clean ≠ content then
      match io.write with
      | .written => [.read, .write clean, .flushDnsCache]
      | .failed _ | .torn _ _ => [.read, .write clean]
    else [.read]

/-- What a call makes of the file. -/
def HostsCall.run (io : HostsIo) (content : Text) : HostsCall → Text
  | .read => content
  | .write text => io.leaves content text
  | .flushDnsCache => content

/-- The file afterwards is what the calls make of it. -/
theorem removeOverridesInner_eq_run (io : HostsIo) (content : Text) :
    (removeOverridesInner io content).2 =
      (removeOverridesCalls io content).foldl (HostsCall.run io) content := by
  obtain ⟨readErr, write⟩ := io
  unfold removeOverridesInner removeOverridesCalls
  cases readErr with
  | some e => rfl
  | none =>
    by_cases hsame : removeMarkerBlock content = content
    · simp [hsame, HostsCall.run]
    · cases write with
      | written => simp [hsame, HostsCall.run, HostsIo.leaves]
      | failed e => simp [hsame, HostsCall.run, HostsIo.leaves]
      | torn e n => simp [hsame, HostsCall.run, HostsIo.leaves]

/-- A text as `remove_marker_block` writes it: no carriage return before a line feed, and one
line feed at the end, after a line that is not blank. -/
structure Tidy (t : Text) : Prop where
  noCrlf : ¬ ['\r', '\n'] <:+: t
  ending : t = [] ∨ ∃ front c, t = front ++ [c, '\n'] ∧ c ≠ '\n'

/-- The last lines of `remove_marker_block`. -/
def oneNewline (result : Text) : Text :=
  let trimmed := result.rdropWhile (· == '\n')
  if trimmed = [] then [] else trimmed ++ ['\n']

theorem oneNewline_ending (result : Text) :
    oneNewline result = [] ∨ ∃ front c, oneNewline result = front ++ [c, '\n'] ∧ c ≠ '\n' := by
  unfold oneNewline
  dsimp only
  split
  · exact Or.inl rfl
  · rename_i hne
    obtain ⟨front, c, hfront⟩ := (List.eq_nil_or_concat _).resolve_left hne
    refine Or.inr ⟨front, c, by simp [hfront], ?_⟩
    have hlast := List.rdropWhile_last_not (· == '\n') result hne
    simpa [hfront] using hlast

theorem oneNewline_of_ending {t : Text} (h : t = [] ∨ ∃ front c, t = front ++ [c, '\n'] ∧ c ≠ '\n') :
    oneNewline t = t := by
  rcases h with rfl | ⟨front, c, rfl, hc⟩
  · rfl
  · have hdrop : (front ++ [c, '\n']).rdropWhile (· == '\n') = front ++ [c] := by
      rw [show front ++ [c, '\n'] = (front ++ [c]) ++ ['\n'] by simp,
        List.rdropWhile_concat_pos _ _ _ (by decide),
        List.rdropWhile_concat_neg _ _ _ (by simpa using hc)]
    simp [oneNewline, hdrop]

theorem keepOutside_of_noMarker {content : Text} (h : NoMarker content) :
    keepOutside false (lines content) = lines content := by
  have hkeep := keepOutside_append_of_no_marker (lines content) [] h
  rwa [List.append_nil, keepOutside, List.append_nil] at hkeep

/-- **Where there is no block, a file survives the cleaning when it is tidy.** -/
theorem removeMarkerBlock_eq_self_iff {content : Text} (h : NoMarker content) :
    removeMarkerBlock content = content ↔ Tidy content := by
  have hclean : removeMarkerBlock content = oneNewline (unlines (lines content)) := by
    rw [removeMarkerBlock, keepOutside_of_noMarker h]
    rfl
  rw [hclean]
  constructor
  · intro heq
    have hending := oneNewline_ending (unlines (lines content))
    rw [heq] at hending
    -- as many lines are left as there were, so no blank ones were taken off
    have hlen : (userLines content).length = (lines content).length := by
      rw [← hclean] at heq
      have hmap := lines_removeMarkerBlock content
      rw [heq] at hmap
      rw [hmap, List.length_map]
    have huser : userLines content = lines content := by
      have hcut := List.rdropWhile_prefix (· == []) (lines content)
      rw [userLines, keepOutside_of_noMarker h] at hlen ⊢
      exact hcut.eq_of_length hlen
    have hlines : unlines (lines content) = content := by
      rw [← huser, ← removeMarkerBlock_eq, hclean, heq]
    exact ⟨(unlines_lines_iff.mp hlines).2, hending⟩
  · intro htidy
    have hterm : Terminated content := by
      rcases htidy.ending with hnil | ⟨front, c, hfront, -⟩
      · exact Or.inl hnil
      · exact Or.inr (by simp [hfront])
    rw [unlines_lines_iff.mpr ⟨hterm, htidy.noCrlf⟩, oneNewline_of_ending htidy.ending]

/-- The file is as it was, and the system was asked neither to write nor to flush. -/
structure LeftAlone (io : HostsIo) (g : SharedState) : Prop where
  hostsFile : (removeOverrides io g).2.hostsFile = g.hostsFile
  noWrite : ∀ text, .write text ∉ removeOverridesCalls io g.hostsFile
  noFlush : .flushDnsCache ∉ removeOverridesCalls io g.hostsFile

/-- **A file without a block is left alone** when it cannot be read, or is tidy: otherwise it is
written again with its line ends changed. -/
theorem removeOverrides_unchanged_iff (io : HostsIo) (g : SharedState)
    (h : NoMarker g.hostsFile) : LeftAlone io g ↔ io.readErr ≠ none ∨ Tidy g.hostsFile := by
  have htidy := removeMarkerBlock_eq_self_iff h
  obtain ⟨readErr, write⟩ := io
  cases readErr with
  | some e =>
    have hcalls : removeOverridesCalls ⟨some e, write⟩ g.hostsFile = [.read] := rfl
    refine iff_of_true ⟨rfl, fun text => ?_, ?_⟩ (Or.inl (by simp))
    · simp [hcalls]
    · simp [hcalls]
  | none =>
    by_cases hsame : removeMarkerBlock g.hostsFile = g.hostsFile
    · have hcalls : removeOverridesCalls ⟨none, write⟩ g.hostsFile = [.read] := by
        simp [removeOverridesCalls, hsame]
      have hfile := removeOverridesInner_eq_run ⟨none, write⟩ g.hostsFile
      rw [hcalls] at hfile
      refine iff_of_true ⟨hfile, fun text => ?_, ?_⟩ (Or.inr (htidy.mp hsame))
      · simp [hcalls]
      · simp [hcalls]
    · refine iff_of_false (fun hleft => ?_) ?_
      · refine hleft.noWrite (removeMarkerBlock g.hostsFile) ?_
        cases write with
        | written => simp [removeOverridesCalls, hsame]
        | failed e => simp [removeOverridesCalls, hsame]
        | torn e n => simp [removeOverridesCalls, hsame]
      · simpa using fun hg => hsame (htidy.mpr hg)

/-- A tidy file is left alone. -/
theorem localhostFile_left_alone : LeftAlone HostsIo.ok (SharedState.fresh localhostFile) :=
  (removeOverrides_unchanged_iff HostsIo.ok (SharedState.fresh localhostFile)
    (by unfold NoMarker IsMarker; decide +kernel)).mpr
    (Or.inr ⟨by decide +kernel, Or.inr ⟨"127.0.0.1 localhos".toList, 't', by decide +kernel, by decide⟩⟩)

/-- The same file with Windows line ends. -/
def crlfFile : Text := "127.0.0.1 localhost\r\n".toList

/-- **A hosts file with Windows line ends is written again** though it holds no block. -/
theorem removeOverrides_rewrites_crlf :
    NoMarker crlfFile ∧ ¬ LeftAlone HostsIo.ok (SharedState.fresh crlfFile) ∧
      (removeOverrides HostsIo.ok (SharedState.fresh crlfFile)).2.hostsFile = localhostFile ∧
      removeOverridesCalls HostsIo.ok crlfFile =
        [.read, .write localhostFile, .flushDnsCache] := by
  refine ⟨by unfold NoMarker IsMarker; decide +kernel, fun hleft => ?_, by decide +kernel, by decide +kernel⟩
  exact hleft.noFlush (by decide +kernel)

/-! ## 2. What DNS repair publishes -/

theorem isPinnedRouteAssistDirectDomain_congr {s t : String}
    (h : toAsciiLowercase s = toAsciiLowercase t) :
    isPinnedRouteAssistDirectDomain s = isPinnedRouteAssistDirectDomain t := by
  have htrim : toAsciiLowercase (trimEndChar '.' s) = toAsciiLowercase (trimEndChar '.' t) := by
    rw [toAsciiLowercase_trimEndChar, toAsciiLowercase_trimEndChar, h]
  rw [isPinnedRouteAssistDirectDomain, isPinnedRouteAssistDirectDomain, isDirectOnlyBootstrapDomain,
    isDirectOnlyBootstrapDomain, isPinnedAssetDirectDomain, isPinnedAssetDirectDomain,
    isListed_congr _ h, isListed_congr _ htrim]

/-- **When there is something to write**: an override of a relayed host, or of a direct one that is
pinned all the same. -/
theorem writable_ne_nil_iff {es : List HostOverride} :
    (allocateRouteAssistPins es).writable ≠ [] ↔ ∃ e ∈ es,
      isRouteAssistDirectDomain e.domain = false ∨
        isPinnedRouteAssistDirectDomain e.domain = true := by
  constructor
  · intro hne
    obtain ⟨e, he⟩ := List.exists_mem_of_ne_nil _ hne
    obtain ⟨hkept, hwritten⟩ := List.mem_filter.mp he
    refine ⟨e, (mem_kept_iff.mp hkept).1, ?_⟩
    rw [Bool.or_eq_true, Bool.not_eq_true', Bool.and_eq_true] at hwritten
    exact hwritten.imp_right And.left
  · rintro ⟨e, he, hdomain⟩
    by_cases hrelay : ∃ r ∈ es, isRouteAssistDirectDomain r.domain = false
    · obtain ⟨r, hr, hrelay⟩ := hrelay
      obtain ⟨e', he', -⟩ := (allocation_consistent es).covered r hr hrelay
      exact List.ne_nil_of_mem he'
    · -- nothing is relayed, so every address that is kept is a direct one
      have hdirect : ∀ r ∈ es, isRouteAssistDirectDomain r.domain = true := by
        simpa using hrelay
      have hpinned : isPinnedRouteAssistDirectDomain e.domain = true := by
        simpa [hdirect e he] using hdomain
      obtain ⟨e', he', hsame, hkeep⟩ := exists_keep he
      have hactive : e'.ip ∉ (allocateRouteAssistPins es).active := by
        intro hmem
        obtain ⟨r, hr, -, hrelayed, -⟩ := mem_active_iff.mp hmem
        rw [hdirect r hr] at hrelayed
        cases hrelayed
      have honly : e'.ip ∈ (allocateRouteAssistPins es).directOnly :=
        mem_directOnly_iff.mpr ⟨⟨e', he', hkeep, hdirect e' he', rfl⟩, hactive⟩
      have hwritten : isWritten (allocateRouteAssistPins es) e' = true := by
        simp [isWritten, isPinnedRouteAssistDirectDomain_congr hsame, hpinned, honly]
      refine List.ne_nil_of_mem (a := e') ?_
      rw [writable_eq]
      exact List.mem_filter.mpr ⟨mem_kept_iff.mpr ⟨he', hkeep⟩, hwritten⟩

/-- The call returns `Ok`, and both sets are those of the allocation. -/
structure Published (es : List HostOverride) (result : Except String Unit × SharedState) : Prop where
  ok : result.1 = .ok ()
  active : result.2.activeBootstrapIps = (allocateRouteAssistPins es).active
  directOnly : result.2.directOnlyBootstrapIps = (allocateRouteAssistPins es).directOnly

/-- **When Route Assist publishes the addresses that it resolved**: when one of the overrides is to
be written.  The writer refuses an empty list, and nothing is published after that. -/
theorem applyBootstrapOverrides_published_iff (es : List HostOverride) (g : SharedState) :
    Published es (applyBootstrapOverrides false (.ok es) HostsIo.ok g) ↔ ∃ e ∈ es,
      isRouteAssistDirectDomain e.domain = false ∨
        isPinnedRouteAssistDirectDomain e.domain = true := by
  rw [← writable_ne_nil_iff]
  have hpins : allocatePins false es = allocateRouteAssistPins es := rfl
  rcases applyBootstrapOverrides_cases false (.ok es) HostsIo.ok g with
    ⟨es', hes, ⟨hne, -⟩, hok, heq⟩ | ⟨⟨e, herr⟩, -⟩
  · obtain rfl := Except.ok.inj hes
    refine iff_of_true ⟨hok, ?_, ?_⟩ hne
    · rw [heq, hpins]
    · rw [heq, hpins]
  · constructor
    · intro hpub
      rw [hpub.ok] at herr
      cases herr
    · intro hne
      rw [← hpins] at hne
      rw [applyBootstrapOverrides_ok hne] at herr
      cases herr

/-- Only the web site was resolved. -/
def webOnly : List HostOverride := [⟨⟨128, 116, 1, 1⟩, "www.roblox.com"⟩]

/-- **A direct address is not published**: the allocator keeps it, the call fails, and the set is
as it was. -/
theorem webOnly_not_published :
    ¬ Published webOnly (applyBootstrapOverrides false (.ok webOnly) HostsIo.ok
      (SharedState.fresh localhostFile)) ∧
    (⟨128, 116, 1, 1⟩ : Ipv4Addr) ∈ (allocateRouteAssistPins webOnly).directOnly ∧
    (applyBootstrapOverrides false (.ok webOnly) HostsIo.ok (SharedState.fresh localhostFile)).1 =
      .error "No hosts overrides to write" ∧
    (applyBootstrapOverrides false (.ok webOnly) HostsIo.ok
      (SharedState.fresh localhostFile)).2.directOnlyBootstrapIps = ∅ := by
  refine ⟨fun hpub => ?_, by decide +kernel, by decide +kernel, by decide +kernel⟩
  have hok := hpub.ok
  revert hok
  decide +kernel

end SwiftTunnel
