/-
# Pins that come back

`LAST_APPLIED_OVERRIDES` is meant to be what stands in the hosts file, so that a relay answer can
be merged into it.  `remove_overrides` takes the block out of the file and leaves the list as it
is: the next relay answer puts the pins of the list back.

The results are about runs of the three operations beside a hosts file that can be read and
written.  A pin may bring several lines into the file, or a marker, if the relay answers for a host
name with a line feed in it; so pins and file are compared through the lines inside blocks
(`blockLines`, `pinLines`), and §1 to §4 are about these.

* `tracks_pinState`: what every run keeps.  The list is empty, or the file has no block, or the
  lines inside its block are those of the list (`Tracks`).
* `no_pin_returns_iff`: from which of these states a relay answer brings a pin back.
* `removed_pin_returns`: after a removal the join host's pin does.
* `lastApplied_describes_iff`, `fresh_describes_iff`: when the list says what stands in the file
  (`Describes`).  It is a matter of the last call that did anything.  A relay answer and a repair
  that wrote a block always leave it so; after a removal, and after a repair with nothing to write,
  it is so only where the list brings no line, or the file has none left inside a block.

The proofs go by cases of one call (`tracks_apply`, `describes_apply_iff`) and from there by
induction on the run.
-/
import SwiftTunnel.RobloxProxy.PinEdits
import SwiftTunnel.Vpn.Sessions

namespace SwiftTunnel

open Rust

/-! ## 1. The lines inside blocks -/

/-- The lines that `remove_marker_block` drops, less the markers. -/
def keepInside : Bool → List Line → List Line
  | _, [] => []
  | insideBlock, line :: rest =>
    if trim line = markerStart then keepInside true rest
    else if trim line = markerEnd then keepInside false rest
    else if insideBlock then line :: keepInside insideBlock rest
    else keepInside insideBlock rest

/-- The lines of a file inside any block. -/
def blockLines (content : Text) : List Line := keepInside false (lines content)

theorem keepInside_append (b : Bool) (ls ms : List Line) :
    keepInside b (ls ++ ms) = keepInside b ls ++ keepInside (ls.foldl insideStep b) ms := by
  induction ls generalizing b with
  | nil => rfl
  | cons l ls ih =>
    rw [List.cons_append, List.foldl_cons, keepInside, keepInside, insideStep]
    split
    · exact ih true
    split
    · exact ih false
    split
    · rw [ih, List.cons_append]
    · exact ih b

theorem keepInside_sublist (b : Bool) (ls : List Line) : (keepInside b ls).Sublist ls := by
  induction ls generalizing b with
  | nil => exact List.Sublist.refl _
  | cons l ls ih =>
    rw [keepInside]
    split
    · exact (ih true).cons l
    split
    · exact (ih false).cons l
    split
    · exact (ih b).cons_cons l
    · exact (ih b).cons l

/-- Among lines that are no markers the flag stays, and decides. -/
theorem keepInside_of_no_marker (b : Bool) {ls : List Line} (h : ∀ l ∈ ls, ¬ IsMarker l) :
    keepInside b ls = (if b then ls else []) ∧ ls.foldl insideStep b = b := by
  induction ls with
  | nil => cases b <;> exact ⟨rfl, rfl⟩
  | cons l ls ih =>
    obtain ⟨hl, hls⟩ := List.forall_mem_cons.mp h
    obtain ⟨hkeep, hflag⟩ := ih hls
    have hs : trim l ≠ markerStart := fun e => hl (Or.inl e)
    have he : trim l ≠ markerEnd := fun e => hl (Or.inr e)
    rw [keepInside, if_neg hs, if_neg he, hkeep, List.foldl_cons, insideStep, if_neg hs, if_neg he]
    refine ⟨?_, hflag⟩
    cases b <;> rfl

/-- A file without markers has nothing inside a block. -/
theorem blockLines_of_noMarker {content : Text} (h : NoMarker content) : blockLines content = [] :=
  (keepInside_of_no_marker false h).1

/-! ## 2. The lines of pins -/

/-- The lines that pins bring into a file.  A domain with a line feed in it brings several. -/
def pinLines (es : List HostOverride) : List Line := lines (unlines (es.map overrideLine))

theorem pinLines_append (es fs : List HostOverride) :
    pinLines (es ++ fs) = pinLines es ++ pinLines fs := by
  rw [pinLines, List.map_append, unlines_append, lines_append (terminated_unlines _)]
  rfl

theorem pinLines_cons (e : HostOverride) (es : List HostOverride) :
    pinLines (e :: es) = pinLines [e] ++ pinLines es := pinLines_append [e] es

theorem pinLines_sublist {es fs : List HostOverride} (h : es.Sublist fs) :
    (pinLines es).Sublist (pinLines fs) := by
  induction h with
  | slnil => exact List.Sublist.refl _
  | @cons es fs e _ ih =>
    rw [pinLines_cons e fs]
    exact ih.trans (List.sublist_append_right _ _)
  | @cons_cons es fs e _ ih =>
    rw [pinLines_cons e es, pinLines_cons e fs]
    exact ih.append_left _

/-- **The lines inside the block of a written block** are those of its pins, as far as the pins do
not close it. -/
theorem blockLines_buildHostsBlock (es : List HostOverride) :
    blockLines (buildHostsBlock es) = keepInside true (pinLines es) := by
  have hstart : trim (stripCr markerStart) = markerStart := by decide
  have hend : ∀ b, keepInside b (lines (unlines [markerEnd])) = [] := by decide
  have hblock : buildHostsBlock es =
      unlines [markerStart] ++ (unlines (es.map overrideLine) ++ unlines [markerEnd]) := by
    rw [buildHostsBlock, ← unlines_append, ← unlines_append]
    rfl
  rw [blockLines, hblock, lines_marker (by decide), lines_append (terminated_unlines _),
    keepInside, if_pos hstart, keepInside_append, hend, List.append_nil]
  rfl

/-- What stands before the block adds nothing. -/
theorem blockLines_withBlock (content : Text) (es : List HostOverride) :
    blockLines (withBlock content es) = blockLines (buildHostsBlock es) := by
  have hhead : ∀ l ∈ (headLines content).map stripCr, ¬ IsMarker l := by
    intro l hl
    obtain ⟨l₀, hl₀, rfl⟩ := List.mem_map.mp hl
    rw [isMarker_stripCr]
    exact not_marker_of_mem_headLines hl₀
  obtain ⟨hkeep, hflag⟩ := keepInside_of_no_marker false hhead
  rw [blockLines, withBlock_eq, unlines_append, lines_append (terminated_unlines _),
    lines_unlines fun l hl => newline_notMem_headLines hl, keepInside_append, hkeep, hflag]
  rfl

/-! ## 3. Merging -/

/-- Merging goes through the first list first. -/
theorem mergePins_append (seen : List (String × Ipv4Addr)) (es fs : List HostOverride) :
    ∃ new, new.Sublist fs ∧ mergePins seen (es ++ fs) = mergePins seen es ++ new := by
  induction es generalizing seen with
  | nil => exact ⟨_, mergePins_sublist seen fs, rfl⟩
  | cons e es ih =>
    rw [List.cons_append, mergePins, mergePins]
    split
    · exact ih seen
    · obtain ⟨new, hnew, heq⟩ := ih ((toAsciiLowercase e.domain, e.ip) :: seen)
      exact ⟨new, hnew, by rw [heq, List.cons_append]⟩

/-- What was merged once is not changed by merging again. -/
theorem mergePins_idem (seen : List (String × Ipv4Addr)) (es : List HostOverride) :
    mergePins seen (mergePins seen es) = mergePins seen es := by
  induction es generalizing seen with
  | nil => rfl
  | cons e es ih =>
    rw [mergePins]
    split
    · exact ih seen
    · rename_i hnew
      rw [mergePins, if_neg hnew, ih]

/-- For each pin one with its domain, ignoring case, and its address is kept. -/
theorem exists_mem_mergePins {seen : List (String × Ipv4Addr)} {es : List HostOverride}
    {e : HostOverride} (he : e ∈ es) : (toAsciiLowercase e.domain, e.ip) ∈ seen ∨
      ∃ e' ∈ mergePins seen es, SameDomain e' e ∧ e'.ip = e.ip := by
  induction es generalizing seen with
  | nil => cases he
  | cons f es ih =>
    rw [mergePins]
    split
    · rename_i hold
      rcases List.mem_cons.mp he with rfl | he
      · exact Or.inl hold
      · exact ih he
    · rcases List.mem_cons.mp he with rfl | he
      · exact Or.inr ⟨e, List.mem_cons_self, rfl, rfl⟩
      · rcases ih he with hseen | ⟨e', he', hsame⟩
        · rcases List.mem_cons.mp hseen with hkey | hseen
          · obtain ⟨hdomain, hip⟩ := Prod.mk.inj hkey
            exact Or.inr ⟨f, List.mem_cons_self, hdomain.symm, hip.symm⟩
          · exact Or.inl hseen
        · exact Or.inr ⟨e', List.mem_cons_of_mem _ he', hsame⟩

/-! ## 4. Pins that DNS repair writes -/

/-- The hosts that DNS repair asks for are written as they stand in its list. -/
theorem domain_of_resolved {doh : DohRun} {es : List HostOverride}
    (h : resolveBootstrapOverrides doh = .ok es) : ∀ e ∈ es, e.domain ∈ robloxBootstrapDomains := by
  unfold resolveBootstrapOverrides at h
  split at h
  · cases h
  split at h
  · cases h
  obtain rfl := Except.ok.inj h
  intro e he
  exact (mem_of_gathered he).1

theorem eq_of_domain_of_ip {e e' : HostOverride} (hdomain : e'.domain = e.domain)
    (hip : e'.ip = e.ip) : e' = e := by
  cases e
  cases e'
  cases hdomain
  cases hip
  rfl

/-- Merging drops none of them but repeats. -/
theorem mem_mergePins {es : List HostOverride} (h : ∀ e ∈ es, e.domain ∈ robloxBootstrapDomains)
    {e : HostOverride} : e ∈ mergePins [] es ↔ e ∈ es := by
  constructor
  · exact fun he => (mergePins_sublist [] es).subset he
  · intro he
    obtain ⟨e', he', hdomain, hip⟩ := (exists_mem_mergePins he).resolve_left List.not_mem_nil
    have hmem := (mergePins_sublist [] es).subset he'
    rw [SameDomain, lower_of_bootstrap _ (h e' hmem), lower_of_bootstrap _ (h e he)] at hdomain
    rw [← eq_of_domain_of_ip hdomain hip]
    exact he'

theorem stripCr_of_lineText {l : Line} (h : lineText l = l) : stripCr l = l := by
  have hcut : (lineText (stripCr l)).length ≤ (stripCr l).length :=
    (List.rdropWhile_prefix (· == '\r') (stripCr l)).length_le
  rw [lineText_stripCr, h] at hcut
  exact (stripCr_sublist l).eq_of_length_le hcut

/-- Each is one line inside the block. -/
theorem mem_pins_of_allowed {es : List HostOverride} (h : ∀ e ∈ es, AllowedPin e) {l : Line} :
    l ∈ keepInside true (pinLines es) ↔ ∃ e ∈ es, overrideLine e = l := by
  have hclean : ∀ e ∈ es, CleanPin e := fun e he => cleanPin_of_allowed (h e he)
  have hlines : pinLines es = es.map overrideLine := by
    have hnl : ∀ l ∈ es.map overrideLine, '\n' ∉ l := by
      intro l hl
      obtain ⟨e, he, rfl⟩ := List.mem_map.mp hl
      exact (hclean e he).oneLine
    rw [pinLines, lines_unlines hnl, List.map_map]
    refine List.map_congr_left fun e he => ?_
    rw [Function.comp_apply, stripCr_of_lineText (hclean e he).noCr]
  have hmarker : ∀ l ∈ es.map overrideLine, ¬ IsMarker l := by
    intro l hl
    obtain ⟨e, he, rfl⟩ := List.mem_map.mp hl
    exact (hclean e he).notMarker
  rw [hlines, (keepInside_of_no_marker true hmarker).1, if_pos rfl, List.mem_map]

/-- Merging pins of DNS repair changes no line inside the block. -/
theorem mem_mergedLines {es : List HostOverride} (hallowed : ∀ e ∈ es, AllowedPin e)
    (hdomain : ∀ e ∈ es, e.domain ∈ robloxBootstrapDomains) {l : Line} :
    l ∈ keepInside true (pinLines (mergePins [] es)) ↔ l ∈ keepInside true (pinLines es) := by
  have hmerged : ∀ e ∈ mergePins [] es, AllowedPin e :=
    fun e he => hallowed e ((mergePins_sublist [] es).subset he)
  rw [mem_pins_of_allowed hallowed, mem_pins_of_allowed hmerged]
  simp only [mem_mergePins hdomain]

/-! ## 5. Runs -/

/-- A call of one of the three operations, where the hosts file can be read and written. -/
inductive PinCall where
  | applyBootstrap (countryBanBypass : Bool) (doh : DohRun)
  | applyRelayResolved (resolved : Map String (List Ipv4Addr))
  | remove

/-- The state after a call. -/
def PinCall.apply (g : SharedState) : PinCall → SharedState
  | .applyBootstrap ban doh =>
    (applyBootstrapOverrides ban (resolveBootstrapOverrides doh) HostsIo.ok g).2
  | .applyRelayResolved resolved => (applyRelayResolvedOverrides resolved HostsIo.ok g).2
  | .remove => (removeOverrides HostsIo.ok g).2

/-- The state after some calls, from a new process beside a hosts file. -/
def pinState (original : Text) (calls : List PinCall) : SharedState :=
  calls.foldl PinCall.apply (SharedState.fresh original)

/-- How the list of applied pins and the hosts file hang together. -/
structure Tracks (g : SharedState) : Prop where
  written : g.lastAppliedOverrides = [] ∨ NoMarker g.hostsFile ∨
    ∃ content, g.hostsFile = withBlock content g.lastAppliedOverrides
  merged : ∀ l, l ∈ keepInside true (pinLines (mergePins [] g.lastAppliedOverrides)) ↔
    l ∈ keepInside true (pinLines g.lastAppliedOverrides)

/-- An empty list goes with any file. -/
theorem tracks_of_nil {g : SharedState} (h : g.lastAppliedOverrides = []) : Tracks g := by
  refine ⟨Or.inl h, fun l => ?_⟩
  rw [h, mergePins]

/-- **One call keeps list and file together.** -/
theorem tracks_apply {g : SharedState} (h : Tracks g) (call : PinCall) : Tracks (call.apply g) := by
  cases call with
  | applyBootstrap ban doh =>
    have hlines : ∀ es, resolveBootstrapOverrides doh = .ok es → ∀ l,
        l ∈ keepInside true (pinLines (mergePins [] (allocatePins ban es).writable)) ↔
          l ∈ keepInside true (pinLines (allocatePins ban es).writable) := by
      intro es hes l
      exact mem_mergedLines (fun e he => allowed_of_resolved hes e (mem_of_mem_allocatePins he))
        fun e he => domain_of_resolved hes e (mem_of_mem_allocatePins he)
    rw [PinCall.apply]
    rcases applyBootstrapOverrides_cases ban (resolveBootstrapOverrides doh) HostsIo.ok g with
      ⟨es, hes, -, -, heq⟩ | ⟨⟨e, herr⟩, -, hfile, hlast⟩
    · rw [heq]
      exact ⟨Or.inr (Or.inr ⟨g.hostsFile, rfl⟩), hlines es hes⟩
    · have hkept : (applyBootstrapOverrides ban (resolveBootstrapOverrides doh) HostsIo.ok
          g).2.hostsFile = g.hostsFile :=
        hfile.resolve_right fun ⟨_, _, _, n, htears, _⟩ => HostsIo.not_tears_ok n htears
      rcases hlast with hlast | ⟨es, hes, hlast⟩
      · refine ⟨?_, ?_⟩
        · rw [hlast, hkept]
          exact h.written
        · rw [hlast]
          exact h.merged
      · -- the file system lets the call write, so it failed for want of pins
        have hnil : (allocatePins ban es).writable = [] := by
          by_contra hne
          rw [hes, applyBootstrapOverrides_ok hne] at herr
          cases herr
        exact tracks_of_nil (hlast.trans hnil)
  | applyRelayResolved resolved =>
    rcases applyRelayResolvedOverrides_cases resolved HostsIo.ok g with
      heq | ⟨-, n, htears, -⟩ | ⟨-, -, merged, hmerged, heq⟩
    · rw [PinCall.apply, heq]
      exact h
    · exact absurd htears (HostsIo.not_tears_ok n)
    · rw [PinCall.apply, heq]
      refine ⟨Or.inr (Or.inr ⟨g.hostsFile, rfl⟩), fun l => ?_⟩
      rw [hmerged, mergePins_idem]
  | remove =>
    refine ⟨Or.inr (Or.inl ?_), h.merged⟩
    exact (pinsCleared_of_removeOverrides (removeOverridesInner_ok g.hostsFile)).hostsFile

/-- **A run keeps list and file together.** -/
theorem tracks_pinState (original : Text) (calls : List PinCall) :
    Tracks (pinState original calls) := by
  induction calls using List.reverseRecOn with
  | nil => exact tracks_of_nil rfl
  | append_singleton calls call ih =>
    rw [pinState, List.foldl_concat]
    exact tracks_apply ih call

/-! ## 6. A relay answer after a run -/

/-- Every line inside the block afterwards is one of a pin that the relay answered, or was inside a
block before. -/
def NoPinReturns (resolved : Map String (List Ipv4Addr)) (before after : Text) : Prop :=
  ∀ l ∈ blockLines after, l ∈ blockLines before ∨ l ∈ pinLines (relayEntries resolved)

/-- Answers of the relay are written when the file system lets them. -/
theorem merged_of_applyRelayResolved {resolved : Map String (List Ipv4Addr)}
    (h : relayEntries resolved ≠ []) (g : SharedState) :
    (applyRelayResolvedOverrides resolved HostsIo.ok g).2.hostsFile = withBlock g.hostsFile
      (mergePins [] (g.lastAppliedOverrides ++ relayEntries resolved)) ∧
    (applyRelayResolvedOverrides resolved HostsIo.ok g).2.lastAppliedOverrides =
      mergePins [] (g.lastAppliedOverrides ++ relayEntries resolved) := by
  have hmerged : mergePins [] (g.lastAppliedOverrides ++ relayEntries resolved) ≠ [] := by
    obtain ⟨e, he⟩ := List.exists_mem_of_ne_nil _ h
    obtain ⟨e', he', -⟩ := (exists_mem_mergePins (List.mem_append_right g.lastAppliedOverrides he)
      ).resolve_left List.not_mem_nil
    exact List.ne_nil_of_mem he'
  simp only [applyRelayResolvedOverrides, if_neg h, writeOverrides, if_neg hmerged, HostsIo.ok,
    and_self]

/-- What a merge writes is the pins of the list, and then answers of the relay. -/
theorem noPinReturns_merge_iff {g : SharedState} (h : Tracks g)
    (resolved : Map String (List Ipv4Addr)) (content : Text) :
    NoPinReturns resolved g.hostsFile (withBlock content
      (mergePins [] (g.lastAppliedOverrides ++ relayEntries resolved))) ↔
    ∀ l ∈ blockLines (buildHostsBlock g.lastAppliedOverrides),
      l ∈ blockLines g.hostsFile ∨ l ∈ pinLines (relayEntries resolved) := by
  obtain ⟨new, hnew, hmerge⟩ :=
    mergePins_append [] g.lastAppliedOverrides (relayEntries resolved)
  rw [NoPinReturns, blockLines_withBlock, blockLines_buildHostsBlock, blockLines_buildHostsBlock,
    hmerge, pinLines_append, keepInside_append]
  constructor
  · intro hall l hl
    exact hall l (List.mem_append_left _ ((h.merged l).mpr hl))
  · intro hall l hl
    rcases List.mem_append.mp hl with hl | hl
    · exact hall l ((h.merged l).mp hl)
    · exact Or.inr ((pinLines_sublist hnew).subset ((keepInside_sublist _ _).subset hl))

/-- **Which relay answers bring no pin back**: those without an address, those that come while a
block is in the file, and those that name every pin of the list again.  After a removal the list
still holds the pins of the block that was removed. -/
theorem no_pin_returns_iff (original : Text) (calls : List PinCall)
    (resolved : Map String (List Ipv4Addr)) :
    NoPinReturns resolved (pinState original calls).hostsFile
        (PinCall.apply (pinState original calls) (.applyRelayResolved resolved)).hostsFile ↔
      relayEntries resolved = [] ∨ ¬ NoMarker (pinState original calls).hostsFile ∨
        ∀ l ∈ blockLines (buildHostsBlock (pinState original calls).lastAppliedOverrides),
          l ∈ pinLines (relayEntries resolved) := by
  have htracks := tracks_pinState original calls
  generalize pinState original calls = g at htracks
  rw [PinCall.apply]
  by_cases hnil : relayEntries resolved = []
  · refine iff_of_true ?_ (Or.inl hnil)
    have hsame : (applyRelayResolvedOverrides resolved HostsIo.ok g).2 = g := by
      rw [applyRelayResolvedOverrides, if_pos hnil]
    rw [hsame]
    exact fun l hl => Or.inl hl
  · rw [(merged_of_applyRelayResolved hnil _).1, noPinReturns_merge_iff htracks, or_iff_right hnil]
    rcases htracks.written with hlast | hclean | ⟨content, hfile⟩
    · -- the list is empty, and so is its block
      have hempty : blockLines (buildHostsBlock g.lastAppliedOverrides) = [] := by
        rw [hlast]
        decide
      simp [hempty]
    · simp [blockLines_of_noMarker hclean, hclean]
    · have hmarker : ¬ NoMarker g.hostsFile := by
        rw [hfile]
        exact not_noMarker_withBlock content _
      refine iff_of_true (fun l hl => Or.inl ?_) (Or.inl hmarker)
      rw [hfile, blockLines_withBlock]
      exact hl

/-- DNS repair pins the join host, the block is removed, and the relay answers for the sign-in
host. -/
def removedThenRelayed : List PinCall := [.applyBootstrap false openDoh, .remove]

def authAnswer : Map String (List Ipv4Addr) :=
  (∅ : Map String (List Ipv4Addr)).insert "auth.roblox.com" [⟨128, 116, 1, 2⟩]

/-- **The pin of the join host comes back** after its removal. -/
theorem removed_pin_returns :
    ¬ NoPinReturns authAnswer (pinState localhostFile removedThenRelayed).hostsFile
      (PinCall.apply (pinState localhostFile removedThenRelayed)
        (.applyRelayResolved authAnswer)).hostsFile ∧
    (pinState localhostFile removedThenRelayed).hostsFile = localhostFile ∧
    blockLines (PinCall.apply (pinState localhostFile removedThenRelayed)
        (.applyRelayResolved authAnswer)).hostsFile =
      ["128.116.1.1 gamejoin.roblox.com".toList, "128.116.1.2 auth.roblox.com".toList] := by
  have hfile : (pinState localhostFile removedThenRelayed).hostsFile = localhostFile := by
    decide +kernel
  have hblock : blockLines (PinCall.apply (pinState localhostFile removedThenRelayed)
      (.applyRelayResolved authAnswer)).hostsFile =
        ["128.116.1.1 gamejoin.roblox.com".toList, "128.116.1.2 auth.roblox.com".toList] := by
    decide +kernel
  refine ⟨fun hreturns => ?_, hfile, hblock⟩
  rcases hreturns "128.116.1.1 gamejoin.roblox.com".toList (by rw [hblock]; decide) with h | h
  · rw [hfile] at h
    revert h
    decide +kernel
  · revert h
    decide +kernel

/-! ## 7. What the list says about the file -/

/-- The list of applied pins is what stands in the file: a block of it has the lines that are inside
blocks. -/
def Describes (g : SharedState) : Prop :=
  blockLines g.hostsFile = blockLines (buildHostsBlock g.lastAppliedOverrides)

/-- The call changes neither the list nor the file: nothing was resolved. -/
def PinCall.Idle : PinCall → Prop
  | .applyBootstrap _ doh => ∃ e, resolveBootstrapOverrides doh = .error e
  | .applyRelayResolved resolved => relayEntries resolved = []
  | .remove => False

/-- What must hold before a call that is not idle for the list to describe the file after it.  A
repair that has nothing to write empties the list and leaves the file; a removal empties the file
of blocks and leaves the list. -/
def PinCall.Agrees (g : SharedState) : PinCall → Prop
  | .applyBootstrap ban doh => ∀ es, resolveBootstrapOverrides doh = .ok es →
      (allocatePins ban es).writable = [] → blockLines g.hostsFile = []
  | .applyRelayResolved _ => True
  | .remove => blockLines (buildHostsBlock g.lastAppliedOverrides) = []

theorem PinCall.Idle.kept {call : PinCall} (h : call.Idle) (g : SharedState) :
    (call.apply g).hostsFile = g.hostsFile ∧
      (call.apply g).lastAppliedOverrides = g.lastAppliedOverrides := by
  cases call with
  | applyBootstrap ban doh =>
    obtain ⟨e, herr⟩ := h
    rw [PinCall.apply, herr]
    cases ban
    · exact ⟨rfl, rfl⟩
    · exact ⟨rfl, rfl⟩
  | applyRelayResolved resolved =>
    have hnil : relayEntries resolved = [] := h
    rw [PinCall.apply, applyRelayResolvedOverrides, if_pos hnil]
    exact ⟨rfl, rfl⟩
  | remove => exact h.elim

/-- A repair with nothing to write publishes the empty list before the writer refuses it. -/
theorem applyBootstrapOverrides_nil {ban : Bool} {es : List HostOverride}
    (h : (allocatePins ban es).writable = []) (io : HostsIo) (g : SharedState) :
    (applyBootstrapOverrides ban (.ok es) io g).2.hostsFile = g.hostsFile ∧
      (applyBootstrapOverrides ban (.ok es) io g).2.lastAppliedOverrides = [] := by
  simp only [applyBootstrapOverrides, writeOverrides, if_pos h]
  cases ban
  · exact ⟨rfl, h⟩
  · exact ⟨rfl, h⟩

/-- **One call**, whatever was before it. -/
theorem describes_apply_iff {call : PinCall} (h : ¬ call.Idle) (g : SharedState) :
    Describes (call.apply g) ↔ call.Agrees g := by
  have hempty : blockLines (buildHostsBlock []) = [] := by decide
  cases call with
  | applyBootstrap ban doh =>
    cases hdoh : resolveBootstrapOverrides doh with
    | error e => exact absurd ⟨e, hdoh⟩ h
    | ok es =>
      by_cases hnil : (allocatePins ban es).writable = []
      · obtain ⟨hfile, hlast⟩ := applyBootstrapOverrides_nil hnil HostsIo.ok g
        rw [PinCall.apply, hdoh, Describes, hfile, hlast, hempty, PinCall.Agrees]
        constructor
        · exact fun hblock _ _ _ => hblock
        · exact fun hall => hall es hdoh hnil
      · refine iff_of_true ?_ fun es' hes' hnil' => ?_
        · rcases applyBootstrapOverrides_cases ban (.ok es) HostsIo.ok g with
            ⟨es', hes', -, -, heq⟩ | ⟨⟨e, herr⟩, -⟩
          · rw [PinCall.apply, hdoh, heq]
            exact blockLines_withBlock _ _
          · rw [applyBootstrapOverrides_ok hnil] at herr
            cases herr
        · obtain rfl := Except.ok.inj (hdoh.symm.trans hes')
          exact absurd hnil' hnil
  | applyRelayResolved resolved =>
    obtain ⟨hfile, hlast⟩ := merged_of_applyRelayResolved h g
    refine iff_of_true ?_ trivial
    rw [PinCall.apply, Describes, hfile, hlast]
    exact blockLines_withBlock _ _
  | remove =>
    have hclean := (pinsCleared_of_removeOverrides (removeOverridesInner_ok g.hostsFile)).hostsFile
    rw [PinCall.apply, Describes, blockLines_of_noMarker hclean]
    exact eq_comm

/-- Calls that do nothing change nothing of it. -/
theorem describes_idle_iff {calls : List PinCall} (h : ∀ call ∈ calls, call.Idle) (g : SharedState) :
    Describes (calls.foldl PinCall.apply g) ↔ Describes g := by
  induction calls generalizing g with
  | nil => exact Iff.rfl
  | cons call calls ih =>
    obtain ⟨hcall, hcalls⟩ := List.forall_mem_cons.mp h
    obtain ⟨hfile, hlist⟩ := hcall.kept g
    rw [List.foldl_cons, ih hcalls, Describes, Describes, hfile, hlist]

/-- **When `LAST_APPLIED_OVERRIDES` says what stands in the file.**  It is a matter of the last call
of the run that was not idle: after a relay answer and after a repair that wrote it always does,
after a removal only when the list had no lines, and after a repair with nothing to write only
when the file had no block. -/
theorem lastApplied_describes_iff (original : Text) (before : List PinCall) {call : PinCall}
    (hcall : ¬ call.Idle) {after : List PinCall} (hafter : ∀ later ∈ after, later.Idle) :
    Describes (pinState original (before ++ call :: after)) ↔
      call.Agrees (pinState original before) := by
  rw [pinState, List.foldl_append, List.foldl_cons, describes_idle_iff hafter,
    describes_apply_iff hcall, pinState]

/-- Where no call did anything, it is a matter of the file that was there. -/
theorem fresh_describes_iff (original : Text) {calls : List PinCall}
    (h : ∀ call ∈ calls, call.Idle) :
    Describes (pinState original calls) ↔ blockLines original = [] := by
  have hempty : blockLines (buildHostsBlock []) = [] := by decide
  rw [pinState, describes_idle_iff h, Describes, SharedState.fresh, hempty]

/-- After the removal of a pin the list is out of date. -/
example : ¬ Describes (pinState localhostFile removedThenRelayed) := by
  unfold Describes
  decide +kernel

end SwiftTunnel
