/-
# Applying and removing overrides, one edit after the other

`HostsFile` says what one edit does to the lines of a file.  Here two edits follow each other,
and the file may hold anything: markers without a partner, blocks in blocks, a last line without
a terminator.  That a line stands outside every block is said without the loop of
`remove_marker_block`: it is no marker, and no start marker stands before it without an end marker in
between (`InBlock`).  The loop is proved to find those lines (`keepOutside_eq`), with its flag saying
whether a block is open.

Two edits in a row come down to one equation each: the user's lines of a file with a block, and of a
cleaned file, are the user's lines of the file (`userLines_withBlock`, `userLines_removeMarkerBlock`).

* `hosts_edits_clean`: a block that is written is taken out without a trace, blocks do not pile
  up, cleaning twice is cleaning once, and a cleaned file is the lines outside blocks.

The edits are complete here.  What a write leaves that fails half way is in `PinRuns`.
-/
import SwiftTunnel.RobloxProxy.HostsFile

namespace SwiftTunnel

open Rust

/-! ## 1. The lines outside blocks -/

/-- After the lines `before` a block is open: one of them is a start marker, and no end marker
stands after it. -/
def InBlock (before : List Line) : Prop :=
  ∃ a m b, before = a ++ m :: b ∧ trim m = markerStart ∧ ∀ l ∈ b, trim l ≠ markerEnd

/-- The line at an index is no marker and no block is open before it. -/
def Outside (ls : List Line) (p : Line × Nat) : Prop := ¬ IsMarker p.1 ∧ ¬ InBlock (ls.take p.2)

open Classical in
/-- The lines outside every block, in order. -/
noncomputable def linesOutsideBlocks (ls : List Line) : List Line :=
  (ls.zipIdx.filter fun p => decide (Outside ls p)).map Prod.fst

theorem inBlock_nil : ¬ InBlock [] := by
  rintro ⟨a, m, b, h, -⟩
  simp at h

/-- One more line opens a block, closes it, or leaves it as it was. -/
theorem inBlock_concat (ls : List Line) (l : Line) :
    InBlock (ls ++ [l]) ↔ trim l = markerStart ∨ (trim l ≠ markerEnd ∧ InBlock ls) := by
  constructor
  · rintro ⟨a, m, b, h, hm, hb⟩
    rcases List.eq_nil_or_concat b with rfl | ⟨b, l', rfl⟩
    · obtain ⟨-, heq⟩ := List.append_inj' h rfl
      obtain rfl := List.singleton_inj.mp heq
      exact Or.inl hm
    · rw [List.concat_eq_append, ← List.cons_append, ← List.append_assoc] at h
      obtain ⟨rfl, heq⟩ := List.append_inj' h rfl
      obtain rfl := List.singleton_inj.mp heq
      exact Or.inr ⟨hb l (by simp), a, m, b, rfl, hm, fun x hx => hb x (by simp [hx])⟩
  · rintro (hl | ⟨hl, a, m, b, rfl, hm, hb⟩)
    · exact ⟨ls, l, [], rfl, hl, fun x hx => absurd hx List.not_mem_nil⟩
    · refine ⟨a, m, b ++ [l], by simp, hm, fun x hx => ?_⟩
      rcases List.mem_append.mp hx with hx | hx
      · exact hb x hx
      · rw [List.mem_singleton.mp hx]
        exact hl

open Classical in
/-- One more line is outside when it is no marker and no block is open. -/
theorem linesOutsideBlocks_concat (ls : List Line) (l : Line) :
    linesOutsideBlocks (ls ++ [l]) =
      linesOutsideBlocks ls ++ if ¬ IsMarker l ∧ ¬ InBlock ls then [l] else [] := by
  have hold : (ls.zipIdx.filter fun p => decide (Outside (ls ++ [l]) p)) =
      ls.zipIdx.filter fun p => decide (Outside ls p) := by
    refine List.filter_congr fun p hp => decide_eq_decide.mpr ?_
    have hlt : p.2 < ls.length := by simpa using (List.mem_zipIdx hp).2.1
    rw [Outside, Outside, List.take_append_of_le_length hlt.le]
  have hnew : Outside (ls ++ [l]) (l, ls.length) ↔ ¬ IsMarker l ∧ ¬ InBlock ls := by
    rw [Outside, List.take_left]
  rw [linesOutsideBlocks, linesOutsideBlocks, List.zipIdx_append, List.filter_append, hold,
    List.map_append]
  congr 1
  rw [List.zipIdx_singleton, Nat.zero_add]
  simp only [List.filter_cons, List.filter_nil, decide_eq_true_iff, hnew]
  split
  · rfl
  · rfl

/-! ## 2. The loop -/

theorem markerEnd_ne_markerStart : markerEnd ≠ markerStart := by decide

/-- The flag `inside_block` after a line. -/
def insideStep (insideBlock : Bool) (line : Line) : Bool :=
  if trim line = markerStart then true else if trim line = markerEnd then false else insideBlock

theorem keepOutside_cons (b : Bool) (l : Line) (ls : List Line) :
    keepOutside b (l :: ls) = keepOutside b [l] ++ keepOutside (insideStep b l) ls := by
  rw [keepOutside, keepOutside, insideStep]
  split
  · rfl
  split
  · rfl
  split
  · rfl
  · rfl

theorem keepOutside_concat (l : Line) : ∀ (b : Bool) (ls : List Line),
    keepOutside b (ls ++ [l]) = keepOutside b ls ++ keepOutside (ls.foldl insideStep b) [l]
  | b, [] => rfl
  | b, m :: ls => by
    rw [List.cons_append, keepOutside_cons b m, keepOutside_cons b m ls, keepOutside_concat l,
      List.foldl_cons, List.append_assoc]

/-- **The flag says whether a block is open.** -/
theorem insideBlock_iff (ls : List Line) : ls.foldl insideStep false = true ↔ InBlock ls := by
  induction ls using List.reverseRecOn with
  | nil => exact ⟨(nomatch ·), fun h => absurd h inBlock_nil⟩
  | append_singleton ls l ih =>
    rw [List.foldl_concat, inBlock_concat, insideStep]
    split
    · rename_i hs
      simp [hs]
    split
    · rename_i he
      simp [he, markerEnd_ne_markerStart]
    · rename_i hs he
      simp [hs, he, ih]

/-- **The loop finds the lines outside blocks.** -/
theorem keepOutside_eq (ls : List Line) : keepOutside false ls = linesOutsideBlocks ls := by
  induction ls using List.reverseRecOn with
  | nil => rfl
  | append_singleton ls l ih =>
    rw [keepOutside_concat, linesOutsideBlocks_concat, ih]
    congr 1
    by_cases hm : IsMarker l
    · rw [if_neg fun h => h.1 hm]
      rcases hm with hs | he
      · rw [keepOutside, if_pos hs, keepOutside]
      · have hs : trim l ≠ markerStart := he ▸ markerEnd_ne_markerStart
        rw [keepOutside, if_neg hs, if_pos he, keepOutside]
    · rw [keepOutside_cons_of_not_marker hm]
      by_cases hopen : InBlock ls
      · rw [if_pos ((insideBlock_iff ls).mpr hopen), if_neg fun h => h.2 hopen, keepOutside]
      · rw [if_neg fun h => hopen ((insideBlock_iff ls).mp h), if_pos ⟨hm, hopen⟩, keepOutside]

/-! ## 3. Two edits in a row -/

/-- What `write_overrides` stores in a file, if it stores anything: it refuses an empty list. -/
def storedOverrides (overrides : List HostOverride) (content : Text) : Option Text :=
  match writeOverrides overrides HostsIo.ok content with
  | (.ok (), stored) => some stored
  | (.error _, _) => none

theorem storedOverrides_eq (overrides : List HostOverride) (content : Text) :
    storedOverrides overrides content =
      if overrides = [] then none else some (withBlock content overrides) := by
  rw [storedOverrides, writeOverrides]
  split
  · rename_i h
    split at h
    · exact nomatch h
    · rename_i hne
      rw [if_neg hne, ← (Prod.mk.inj h).2]
  · rename_i h
    split at h
    · rename_i hnil
      rw [if_pos hnil]
    · exact nomatch h

/-- Under a carriage return only in terminators, the user's lines have none. -/
theorem map_stripCr_userLines {content : Text} (h : SingleCrlf content) :
    (userLines content).map stripCr = userLines content := by
  have hcr : ∀ l ∈ userLines content, stripCr l = l := by
    intro l hl
    have hmem := (keepOutside_sublist _ _).subset ((userLines_sub content).subset hl)
    exact if_neg fun hlast => cr_notMem_lines h hmem (List.mem_of_getLast? hlast)
  rw [List.map_congr_left hcr, List.map_id']

theorem userLines_idem (content : Text) :
    (userLines content).rdropWhile (· == []) = userLines content :=
  List.rdropWhile_idempotent _ _

/-- The head of a written file is the user's lines, and blank lines. -/
theorem headLines_rdropWhile {content : Text} (h : SingleCrlf content) :
    ((headLines content).map stripCr).rdropWhile (· == []) = userLines content := by
  unfold headLines
  split
  · rename_i hnil
    rw [hnil]
    rfl
  · rw [map_stripCr_userLines h, userLines_idem]

/-- **A block that is written leaves the user's lines as they are.** -/
theorem userLines_withBlock {overrides : List HostOverride}
    (ho : ∀ e ∈ overrides, '\n' ∉ e.domain.toList) {content : Text} (h : SingleCrlf content) :
    userLines (withBlock content overrides) = userLines content := by
  have hline : ∀ e ∈ overrides, '\n' ∉ overrideLine e := fun e he =>
    notMem_overrideLine (ho e he) (by decide) (by decide) (by decide)
  rw [userLines, keepOutside_withBlock hline, headLines_rdropWhile h]

/-- Cleaning leaves the user's lines as they are. -/
theorem userLines_removeMarkerBlock {content : Text} (h : SingleCrlf content) :
    userLines (removeMarkerBlock content) = userLines content := by
  have hkeep := keepOutside_append_of_no_marker (userLines content) []
    fun l hl => not_marker_of_mem_userLines hl
  rw [List.append_nil, keepOutside, List.append_nil] at hkeep
  rw [userLines, lines_removeMarkerBlock, map_stripCr_userLines h, hkeep, userLines_idem]

/-- **Edits of the hosts file leave nothing behind.**  For a file whose carriage returns all stand
in line terminators, and domains without a line feed: taking out what was written gives what
cleaning gives, a second write gives what it would have given alone, cleaning twice is cleaning
once, and a cleaned file is the lines outside blocks without the blank ones at the end. -/
theorem hosts_edits_clean {content : Text} (hcontent : SingleCrlf content) :
    (∀ overrides stored, (∀ e ∈ overrides, '\n' ∉ e.domain.toList) →
      storedOverrides overrides content = some stored →
      removeMarkerBlock stored = removeMarkerBlock content) ∧
    (∀ overrides₁ overrides₂ stored, (∀ e ∈ overrides₁, '\n' ∉ e.domain.toList) →
      storedOverrides overrides₁ content = some stored →
      storedOverrides overrides₂ stored = storedOverrides overrides₂ content) ∧
    removeMarkerBlock (removeMarkerBlock content) = removeMarkerBlock content ∧
    lines (removeMarkerBlock content) =
      (linesOutsideBlocks (lines content)).rdropWhile (· == []) := by
  have hremove : ∀ overrides stored, (∀ e ∈ overrides, '\n' ∉ e.domain.toList) →
      storedOverrides overrides content = some stored →
      removeMarkerBlock stored = removeMarkerBlock content := by
    intro overrides stored ho hstored
    rw [storedOverrides_eq] at hstored
    split at hstored
    · exact nomatch hstored
    · obtain rfl := Option.some.inj hstored
      rw [removeMarkerBlock_eq, removeMarkerBlock_eq, userLines_withBlock ho hcontent]
  refine ⟨hremove, ?_, ?_, ?_⟩
  · intro overrides₁ overrides₂ stored ho hstored
    -- what is written depends on the cleaned file only
    have hclean := hremove overrides₁ stored ho hstored
    rw [storedOverrides_eq, storedOverrides_eq, withBlock, withBlock, hclean]
  · rw [removeMarkerBlock_eq (removeMarkerBlock content), userLines_removeMarkerBlock hcontent,
      ← removeMarkerBlock_eq]
  · rw [lines_removeMarkerBlock, map_stripCr_userLines hcontent, userLines, keepOutside_eq]

/-- A file with Windows line ends, a block that was never closed inside another, and a last line
without a terminator. -/
def staleFile : Text :=
  ("127.0.0.1 localhost\r\n# SwiftTunnel Roblox Proxy - START\r\n1.2.3.4 auth.roblox.com\r\n" ++
    "# SwiftTunnel Roblox Proxy - START\n# SwiftTunnel Roblox Proxy - END\n::1 localhost").toList

/-- Nothing of it is left over after a write and a removal. -/
theorem staleFile_edits :
    removeMarkerBlock (withBlock staleFile [⟨⟨128, 116, 44, 33⟩, "games.roblox.com"⟩]) =
      removeMarkerBlock staleFile :=
  (hosts_edits_clean (by decide +kernel)).1 [⟨⟨128, 116, 44, 33⟩, "games.roblox.com"⟩] _
    (by decide) rfl

end SwiftTunnel
