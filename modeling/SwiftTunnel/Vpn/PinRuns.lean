/-
# Which lines reach the hosts file

Runs of the three operations that write the hosts file.  DNS repair filters what it pins; the
relay's answers reach the same writer as they come, so whether a run adds allowed lines only is
a matter of those answers.

`write_overrides` and `remove_overrides` replace the whole text by `std::fs::write`, which truncates
first: a write that fails may leave any first part of the new text, cut inside a line or even
inside a character.  A fragment such as `128.116.1.1 gamej` is neither a line of the user nor an
allowed one, so `HostsOp.Meets` asks of a torn write that it stops between two lines.

The file is compared line by line.  `FileInv` is what a run keeps of it: the lines of the user that
are left, in order, and then allowed lines; and outside any block lines of the user only, which is
what a removal leaves.  Both halves hold of the first lines of such a file again
(`FileInv.firstLines`), so a write that stops between two lines keeps them.

* `pinInv_step`: one call keeps the invariant, with its write complete, torn or not begun.
* `pinRun_allowed`: in a run whose relay pins may all be written, whose hosts file is never blank
  when a block is added, and whose torn writes stop between two lines, the file is lines of the
  user and allowed lines, and a removal leaves lines of the user only.
* `pinRun_injected`: one relay answer that puts a line of its own into the file, which a removal
  then keeps.

Lines are compared without their terminators: the code writes line feeds where the user had
carriage returns too.
-/
import SwiftTunnel.Lib.Run
import SwiftTunnel.RobloxProxy.Hosts
import SwiftTunnel.Vpn.Resolve

namespace SwiftTunnel

open Rust

/-! ## 1. Runs -/

/-- A call of one of the three operations, with what the network and the file system answer. -/
inductive HostsOp where
  | applyBootstrap (countryBanBypass : Bool) (doh : DohRun) (io : HostsIo)
  | applyRelayResolved (answer : RelayAnswer) (io : HostsIo)
  | remove (io : HostsIo)

def HostsOp.apply (g : SharedState) : HostsOp → Except String Unit × SharedState
  | .applyBootstrap ban doh io => applyBootstrapOverrides ban (resolveBootstrapOverrides doh) io g
  | .applyRelayResolved answer io => applyRelayResolvedOverrides answer.resolved io g
  | .remove io => removeOverrides io g

/-- One call. -/
def HostsStep (g : SharedState) (op : HostsOp) (r : Except String Unit) (g' : SharedState) : Prop :=
  op.apply g = (r, g')

/-- A block goes into a file that has a line of the user, and a write that is torn stops between two
lines. -/
def WritesBlock (g : SharedState) (io : HostsIo) (pins : List HostOverride) : Prop :=
  removeMarkerBlock g.hostsFile ≠ [] ∧ io.WholeLines (withBlock g.hostsFile pins)

/-- Where the call writes: the relay's pins may be written, and the file can take them. -/
def HostsOp.Meets (g : SharedState) : HostsOp → Prop
  | .applyBootstrap ban doh io =>
    ∀ es, resolveBootstrapOverrides doh = .ok es → (allocatePins ban es).writable ≠ [] →
      io.Writes → WritesBlock g io (allocatePins ban es).writable
  | .applyRelayResolved answer io =>
    relayEntries answer.resolved ≠ [] → io.Writes →
      (∀ e ∈ relayEntries answer.resolved, AllowedPin e) ∧
        WritesBlock g io (mergePins [] (g.lastAppliedOverrides ++ relayEntries answer.resolved))
  | .remove io =>
    removeMarkerBlock g.hostsFile ≠ g.hostsFile → io.WholeLines (removeMarkerBlock g.hostsFile)

/-! ## 2. The invariant -/

/-- A line that DNS repair may add: a marker, or `<ipv4> <domain>` for an allowed pin. -/
def AllowedLine (l : Line) : Prop :=
  l = markerStart ∨ l = markerEnd ∨ ∃ e, AllowedPin e ∧ l = overrideLine e

/-- The file is lines of the original, in order, and then lines that may be added. -/
def OnlyAllowedAdded (original content : Text) : Prop :=
  ∃ kept added, textLines content = kept ++ added ∧ kept.Sublist (textLines original) ∧
    ∀ l ∈ added, AllowedLine l

/-- What the file keeps: lines of the user and lines that may be added, and outside any block lines
of the user only. -/
structure FileInv (original content : Text) : Prop where
  added : OnlyAllowedAdded original content
  outside : (outsideLines content).Sublist (textLines original)

/-- What a run keeps: the file, and the pins that a later call merges may be written. -/
structure PinInv (original : Text) (g : SharedState) : Prop where
  file : FileInv original g.hostsFile
  lastApplied : ∀ e ∈ g.lastAppliedOverrides, AllowedPin e

theorem allowedLine_of_block {overrides : List HostOverride} (h : ∀ e ∈ overrides, AllowedPin e)
    {l : Line} (hl : l ∈ markerStart :: overrides.map overrideLine ++ [markerEnd]) :
    AllowedLine l := by
  simp only [List.cons_append, List.mem_cons, List.mem_append, List.mem_map, List.not_mem_nil,
    or_false] at hl
  rcases hl with rfl | ⟨e, he, rfl⟩ | rfl
  · exact Or.inl rfl
  · exact Or.inr (Or.inr ⟨e, h e he, rfl⟩)
  · exact Or.inr (Or.inl rfl)

section Edit

variable {original content : Text} {overrides : List HostOverride}

/-- Writing a block of allowed pins. -/
theorem withBlock_added (h : ∀ e ∈ overrides, AllowedPin e) (hc : removeMarkerBlock content ≠ [])
    (ho : (outsideLines content).Sublist (textLines original)) :
    FileInv original (withBlock content overrides) := by
  have hclean : ∀ e ∈ overrides, CleanPin e := fun e he => cleanPin_of_allowed (h e he)
  have huser := (userLines_sublist content).trans ho
  constructor
  · exact ⟨_, _, textLines_withBlock hclean hc, huser, fun l hl => allowedLine_of_block h hl⟩
  · rw [outsideLines_withBlock hclean hc]
    exact huser

/-- Cleaning. -/
theorem removeMarkerBlock_added (ho : (outsideLines content).Sublist (textLines original)) :
    FileInv original (removeMarkerBlock content) := by
  have hlines := (textLines_removeMarkerBlock content).trans ho
  constructor
  · exact ⟨_, [], (List.append_nil _).symm, hlines, fun l hl => absurd hl List.not_mem_nil⟩
  · exact (outsideLines_sublist _).trans hlines

/-- The first lines of a file keep what the file keeps. -/
theorem FileInv.firstLines {content' : Text} (h : FileInv original content)
    (hpre : textLines content' <+: textLines content) : FileInv original content' := by
  refine ⟨?_, (outsideLines_firstLines hpre).sublist.trans h.outside⟩
  obtain ⟨kept, added, hlines, hkept, hadded⟩ := h.added
  rw [hlines] at hpre
  refine ⟨kept.take (textLines content').length,
    added.take ((textLines content').length - kept.length), ?_, ?_, ?_⟩
  · rw [← List.take_append]
    exact List.prefix_iff_eq_take.mp hpre
  · exact (List.take_sublist _ _).trans hkept
  · exact fun l hl => hadded l ((List.take_sublist _ _).subset hl)

end Edit

theorem pinInv_fresh (original : Text) : PinInv original (SharedState.fresh original) := by
  refine ⟨⟨?_, outsideLines_sublist original⟩, fun e he => absurd he List.not_mem_nil⟩
  exact ⟨_, [], (List.append_nil _).symm, List.Sublist.refl _,
    fun l hl => absurd hl List.not_mem_nil⟩

/-- Writing a block, to the end or torn between two lines. -/
theorem FileInv.leaves {original : Text} {g : SharedState} {io : HostsIo} {pins : List HostOverride}
    (h : FileInv original g.hostsFile) (hpins : ∀ e ∈ pins, AllowedPin e)
    (hw : WritesBlock g io pins) : FileInv original (withBlock g.hostsFile pins) ∧
      ∀ n, io.Tears n → FileInv original (cutBytes n (withBlock g.hostsFile pins)) := by
  have hfile := withBlock_added hpins hw.1 h.outside
  exact ⟨hfile, fun n htears => hfile.firstLines (hw.2 n htears)⟩

theorem pinInv_applyBootstrap {original : Text} {g : SharedState} (hinv : PinInv original g)
    {ban : Bool} {doh : DohRun} {io : HostsIo} (hm : (HostsOp.applyBootstrap ban doh io).Meets g) :
    PinInv original (applyBootstrapOverrides ban (resolveBootstrapOverrides doh) io g).2 := by
  have hallowed : ∀ es, resolveBootstrapOverrides doh = .ok es →
      ∀ e ∈ (allocatePins ban es).writable, AllowedPin e := by
    intro es hes e he
    exact allowed_of_resolved hes e (mem_of_mem_allocatePins he)
  rcases applyBootstrapOverrides_cases ban (resolveBootstrapOverrides doh) io g with
    ⟨es, hes, ⟨hne, hio⟩, -, heq⟩ | ⟨-, -, hfile, hlast⟩
  · have hw := hm es hes hne (HostsIo.writes_iff.mpr (Or.inl hio))
    rw [heq]
    exact ⟨(hinv.file.leaves (hallowed es hes) hw).1, hallowed es hes⟩
  · refine ⟨?_, ?_⟩
    · rcases hfile with hfile | ⟨es, hes, hne, n, htears, hfile⟩
      · rw [hfile]
        exact hinv.file
      · have hw := hm es hes hne (HostsIo.writes_iff.mpr (Or.inr ⟨n, htears⟩))
        rw [hfile]
        exact (hinv.file.leaves (hallowed es hes) hw).2 n htears
    · rcases hlast with hlast | ⟨es, hes, hlast⟩
      · rw [hlast]
        exact hinv.lastApplied
      · rw [hlast]
        exact hallowed es hes

theorem pinInv_applyRelayResolved {original : Text} {g : SharedState} (hinv : PinInv original g)
    {answer : RelayAnswer} {io : HostsIo} (hm : (HostsOp.applyRelayResolved answer io).Meets g) :
    PinInv original (applyRelayResolvedOverrides answer.resolved io g).2 := by
  have hallowed : (∀ e ∈ relayEntries answer.resolved, AllowedPin e) →
      ∀ e ∈ mergePins [] (g.lastAppliedOverrides ++ relayEntries answer.resolved), AllowedPin e := by
    intro hpins e he
    rcases List.mem_append.mp ((mergePins_sublist _ _).subset he) with he | he
    · exact hinv.lastApplied e he
    · exact hpins e he
  rcases applyRelayResolvedOverrides_cases answer.resolved io g with
    heq | ⟨hne, n, htears, heq⟩ | ⟨⟨hne, hio⟩, -, merged, hmerged, heq⟩
  · rw [heq]
    exact hinv
  · obtain ⟨hpins, hw⟩ := hm hne (HostsIo.writes_iff.mpr (Or.inr ⟨n, htears⟩))
    rw [heq]
    exact ⟨(hinv.file.leaves (hallowed hpins) hw).2 n htears, hinv.lastApplied⟩
  · obtain ⟨hpins, hw⟩ := hm hne (HostsIo.writes_iff.mpr (Or.inl hio))
    rw [heq, hmerged]
    exact ⟨(hinv.file.leaves (hallowed hpins) hw).1, hallowed hpins⟩

theorem pinInv_removeOverrides {original : Text} {g : SharedState} (hinv : PinInv original g)
    {io : HostsIo} (hm : (HostsOp.remove io).Meets g) :
    PinInv original (removeOverrides io g).2 := by
  have hclean := removeMarkerBlock_added hinv.file.outside
  refine ⟨?_, hinv.lastApplied⟩
  change FileInv original (removeOverridesInner io g.hostsFile).2
  rcases removeOverridesInner_cases io g.hostsFile with
    ⟨-, htext⟩ | ⟨-, hsame | ⟨hne, n, htears, htext⟩⟩
  · rw [htext]
    exact hclean
  · rw [hsame]
    exact hinv.file
  · rw [htext]
    exact hclean.firstLines (hm hne n htears)

/-- **One call keeps the invariant.** -/
theorem pinInv_step {original : Text} {g g' : SharedState} {op : HostsOp} {r : Except String Unit}
    (hm : op.Meets g) (hstep : HostsStep g op r g') (hinv : PinInv original g) :
    PinInv original g' := by
  have hg' : g' = (op.apply g).2 := by
    rw [hstep]
  rw [hg']
  cases op with
  | applyBootstrap ban doh io => exact pinInv_applyBootstrap hinv hm
  | applyRelayResolved answer io => exact pinInv_applyRelayResolved hinv hm
  | remove io => exact pinInv_removeOverrides hinv hm

/-! ## 3. The runs that add allowed lines only -/

/-- **Only allowed pins reach the hosts file**, in every run whose relay pins are allowed and
whose file is not blank when a block is added; and a removal that returns `Ok` afterwards
leaves lines of the original file only. -/
theorem pinRun_allowed (original : Text) (es : List (HostsOp × Except String Unit))
    (g : SharedState)
    (hrun : Run (fun g op r g' => op.Meets g ∧ HostsStep g op r g') (SharedState.fresh original) es g) :
    OnlyAllowedAdded original g.hostsFile ∧
      ∀ io, (removeOverrides io g).1 = .ok () →
        (textLines (removeOverrides io g).2.hostsFile).Sublist (textLines original) := by
  have hinv : PinInv original g := by
    refine hrun.preserves ?_ (pinInv_fresh original)
    intro s op r s' hs hinv
    exact pinInv_step hs.1 hs.2 hinv
  refine ⟨hinv.file.added, ?_⟩
  intro io hok
  rcases removeOverridesInner_cases io g.hostsFile with ⟨-, htext⟩ | ⟨⟨e, herr⟩, -⟩
  · change (textLines (removeOverridesInner io g.hostsFile).2).Sublist _
    rw [htext]
    exact (textLines_removeMarkerBlock _).trans hinv.file.outside
  · change (removeOverridesInner io g.hostsFile).1 = .ok () at hok
    rw [herr] at hok
    exact nomatch hok

/-! ## 4. A relay answer with a line of its own -/

/-- A host name with two line breaks and an end marker in it. -/
def injectingAnswers : ResolveAnswers :=
  [("x\n# SwiftTunnel Roblox Proxy - END\n6.6.6.6 evil_host.example", [⟨1, 2, 3, 4⟩])]

/-- The line that it brings along. -/
def injectedLine : Line := "6.6.6.6 evil_host.example".toList

def injectingOp : HostsOp := .applyRelayResolved (relayReplying injectingAnswers) HostsIo.ok

/-- The state after that call. -/
def injectedState : SharedState := (injectingOp.apply (SharedState.fresh localhostFile)).2

theorem injectedLine_not_allowed : ¬ AllowedLine injectedLine := by
  have hchar : '_' ∈ injectedLine := by decide +kernel
  rintro (h | h | ⟨e, he, h⟩)
  · exact absurd h (by decide +kernel)
  · exact absurd h (by decide +kernel)
  · rw [h] at hchar
    exact notMem_overrideLine (notMem_allowedDomain he (by decide)) (by decide) (by decide)
      (by decide) hchar

/-- **A relay answer puts a line of its own into the hosts file**, and `remove_overrides` keeps
the line there. -/
theorem pinRun_injected :
    Run HostsStep (SharedState.fresh localhostFile) [(injectingOp, .ok ())] injectedState ∧
      injectedLine ∈ textLines injectedState.hostsFile ∧ ¬ AllowedLine injectedLine ∧
      injectedLine ∉ textLines localhostFile ∧
      (removeOverrides HostsIo.ok injectedState).1 = .ok () ∧
      injectedLine ∈ textLines (removeOverrides HostsIo.ok injectedState).2.hostsFile := by
  refine ⟨?_, by decide +kernel, injectedLine_not_allowed, by decide +kernel, by decide +kernel,
    by decide +kernel⟩
  have hok : (injectingOp.apply (SharedState.fresh localhostFile)).1 = .ok () := by decide +kernel
  exact Run.cons (Prod.ext hok rfl) (Run.nil _)

/-- A call with an answer that may be pinned. -/
def gamejoinOp : HostsOp :=
  .applyRelayResolved (relayReplying [("gamejoin.roblox.com", [⟨128, 116, 1, 1⟩])]) HostsIo.ok

/-- The runs that `pinRun_allowed` is about include those that pin an answer of the relay. -/
theorem pinRun_gamejoin :
    OnlyAllowedAdded localhostFile (gamejoinOp.apply (SharedState.fresh localhostFile)).2.hostsFile ∧
      ∀ io, (removeOverrides io (gamejoinOp.apply (SharedState.fresh localhostFile)).2).1 = .ok () →
        (textLines (removeOverrides io
          (gamejoinOp.apply (SharedState.fresh localhostFile)).2).2.hostsFile).Sublist
            (textLines localhostFile) := by
  have hentries : relayEntries (relayReplying [("gamejoin.roblox.com", [⟨128, 116, 1, 1⟩])]).resolved =
      [⟨⟨128, 116, 1, 1⟩, "gamejoin.roblox.com"⟩] := by decide +kernel
  have hmeets : gamejoinOp.Meets (SharedState.fresh localhostFile) := by
    intro _ _
    refine ⟨?_, by decide +kernel, fun n htears => absurd htears (HostsIo.not_tears_ok n)⟩
    intro e he
    rw [hentries, List.mem_singleton] at he
    subst he
    exact ⟨by decide +kernel, by decide⟩
  exact pinRun_allowed localhostFile
    [(gamejoinOp, (gamejoinOp.apply (SharedState.fresh localhostFile)).1)]
    (gamejoinOp.apply (SharedState.fresh localhostFile)).2
    (Run.cons ⟨hmeets, rfl⟩ (Run.nil _))

end SwiftTunnel
