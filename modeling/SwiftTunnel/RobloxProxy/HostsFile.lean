/-
# The marker block in the Windows hosts file

The part of `hosts.rs` that edits the file: taking the SwiftTunnel block out, building a new
one, and the two operations that read the file, edit it and write it back.

The results are about the lines of the file, as `str::lines` gives them.  `remove_marker_block`
drops whatever stands between two markers and cuts line feeds off the end; what it keeps are the
lines of the user (`userLines`), so a cleaned file is determined by its lines.

* `lines_removeMarkerBlock`: a cleaned file has the user's lines and no others;
* `noMarker_removeMarkerBlock`: in particular it has no marker;
* `keepOutside_withBlock`: cleaning a file with a block gives back what stood before the block;
* `textLines_withBlock`: up to line terminators it is the user's lines and then the block, each
  pin on its own line, when the pins may be written (`cleanPin_of_allowed`).

A hosts operation can fail to read the file or to write it.  `fs::write` empties the file before it
writes, so a write that fails leaves the file as it was when the file could not be opened, and
otherwise the first bytes of the new text, which may end inside a line (`HostsIo.Tears`).  The
`_cases` lemmas of the two operations list these ends.  A write that stops between two lines leaves
the first lines of the new text, and of its lines outside blocks the first (`outsideLines_firstLines`):
the loop decides about a line before it reads the next.

Pins that come from the relay are not bound to be one line each; what they do to the file is in
`PinRuns` and `PinReturns`.
-/
import SwiftTunnel.Shared
import SwiftTunnel.RobloxProxy.Domains

namespace SwiftTunnel

open Rust

/-! ## 1. The block -/

/-- `MARKER_START`. -/
def markerStart : Line := "# SwiftTunnel Roblox Proxy - START".toList

/-- `MARKER_END`. -/
def markerEnd : Line := "# SwiftTunnel Roblox Proxy - END".toList

/-- The loop of `remove_marker_block`; the flag is `inside_block`. -/
def keepOutside : Bool → List Line → List Line
  | _, [] => []
  | insideBlock, line :: rest =>
    if trim line = markerStart then keepOutside true rest
    else if trim line = markerEnd then keepOutside false rest
    else if insideBlock then keepOutside insideBlock rest
    else line :: keepOutside insideBlock rest

/-- `remove_marker_block`. -/
def removeMarkerBlock (content : Text) : Text :=
  let result := unlines (keepOutside false (lines content))
  let trimmed := result.rdropWhile (· == '\n')
  if trimmed = [] then [] else trimmed ++ ['\n']

/-- `format!("{} {}", entry.ip, entry.domain)`. -/
def overrideLine (e : HostOverride) : Line := (e.ip.toText ++ " " ++ e.domain).toList

/-- `build_hosts_block`. -/
def buildHostsBlock (overrides : List HostOverride) : Text :=
  unlines (markerStart :: overrides.map overrideLine ++ [markerEnd])

/-! ## 2. The two operations -/

/-- What the system answers to a read and to a write of the hosts file.  A torn write leaves that
many bytes of the new text; a read of a file that ends inside a character fails. -/
structure HostsIo where
  readErr : Option String
  write : FileWrite Nat

/-- No error. -/
def HostsIo.ok : HostsIo := ⟨none, .written⟩

/-- A call that writes a text over another leaves this. -/
def HostsIo.leaves (io : HostsIo) (old new : Text) : Text :=
  match io.write with
  | .written => new
  | .failed _ => old
  | .torn _ n => cutBytes n new

/-- The text that `write_overrides` writes. -/
def withBlock (content : Text) (overrides : List HostOverride) : Text :=
  let clean := removeMarkerBlock content
  (if clean.getLast? = some '\n' then clean else clean ++ ['\n']) ++ buildHostsBlock overrides

/-- `write_overrides`: the result, and the file afterwards. -/
def writeOverrides (overrides : List HostOverride) (io : HostsIo) (content : Text) :
    Except String Unit × Text :=
  if overrides = [] then (.error "No hosts overrides to write", content)
  else match io.readErr with
    | some e => (.error ("Failed to read hosts file: " ++ e), content)
    | none =>
      let out := withBlock content overrides
      match io.write with
      | .written => (.ok (), out)
      | .failed e | .torn e _ => (.error ("Failed to write hosts file: " ++ e), io.leaves content out)

/-- `remove_overrides_inner`. -/
def removeOverridesInner (io : HostsIo) (content : Text) : Except String Unit × Text :=
  match io.readErr with
  | some e => (.error ("Failed to read hosts file: " ++ e), content)
  | none =>
    let clean := removeMarkerBlock content
    if clean ≠ content then
      match io.write with
      | .written => (.ok (), clean)
      | .failed e | .torn e _ =>
        (.error ("Failed to write hosts file: " ++ e), io.leaves content clean)
    else (.ok (), content)

namespace HostsIo

/-- The write is torn after this many bytes. -/
def Tears (io : HostsIo) (n : Nat) : Prop := io.readErr = none ∧ ∃ e, io.write = .torn e n

/-- The file is opened for writing. -/
def Writes (io : HostsIo) : Prop := io.readErr = none ∧ ∀ e, io.write ≠ .failed e

/-- All of a text gets into the file. -/
def WritesAll (io : HostsIo) (text : Text) : Prop :=
  io.readErr = none ∧ (io.write = .written ∨ ∃ e n, io.write = .torn e n ∧ cutBytes n text = text)

/-- What is left of a text that is written are its first lines. -/
def WholeLines (io : HostsIo) (text : Text) : Prop :=
  ∀ n, io.Tears n → (lines (cutBytes n text)).map lineText <+: (lines text).map lineText

theorem not_tears_ok (n : Nat) : ¬ HostsIo.ok.Tears n := by
  rintro ⟨-, e, h⟩
  cases h

theorem Tears.unique {io : HostsIo} {n m : Nat} (hn : io.Tears n) (hm : io.Tears m) : n = m := by
  obtain ⟨-, e, hn⟩ := hn
  obtain ⟨-, e', hm⟩ := hm
  cases hn.symm.trans hm
  rfl

theorem Tears.leaves {io : HostsIo} {n : Nat} (h : io.Tears n) (old new : Text) :
    io.leaves old new = cutBytes n new := by
  obtain ⟨-, e, h⟩ := h
  rw [HostsIo.leaves, h]

theorem writes_iff {io : HostsIo} : io.Writes ↔ io = HostsIo.ok ∨ ∃ n, io.Tears n := by
  obtain ⟨readErr, write⟩ := io
  constructor
  · rintro ⟨hread, hwrite⟩
    obtain rfl : readErr = none := hread
    cases write with
    | written => exact Or.inl rfl
    | failed e => exact absurd rfl (hwrite e)
    | torn e n => exact Or.inr ⟨n, rfl, e, rfl⟩
  · rintro (h | ⟨n, hread, e, hwrite⟩)
    · rw [h]
      exact ⟨rfl, fun e he => nomatch he⟩
    · refine ⟨hread, fun e' he' => ?_⟩
      rw [hwrite] at he'
      cases he'

end HostsIo

/-- A write that succeeds puts the block into the file, one that fails leaves the file alone or a
part of what was to be written. -/
theorem writeOverrides_cases (overrides : List HostOverride) (io : HostsIo) (content : Text) :
    ((writeOverrides overrides io content).1 = .ok () ∧ (overrides ≠ [] ∧ io = HostsIo.ok) ∧
      (writeOverrides overrides io content).2 = withBlock content overrides) ∨
    ((∃ e, (writeOverrides overrides io content).1 = .error e) ∧
      ((writeOverrides overrides io content).2 = content ∨ overrides ≠ [] ∧
        ∃ n, io.Tears n ∧
          (writeOverrides overrides io content).2 = cutBytes n (withBlock content overrides))) := by
  obtain ⟨readErr, write⟩ := io
  unfold writeOverrides
  split
  · exact Or.inr ⟨⟨_, rfl⟩, Or.inl rfl⟩
  · rename_i hne
    cases readErr with
    | some e => exact Or.inr ⟨⟨_, rfl⟩, Or.inl rfl⟩
    | none =>
      cases write with
      | written => exact Or.inl ⟨rfl, ⟨hne, rfl⟩, rfl⟩
      | failed e => exact Or.inr ⟨⟨_, rfl⟩, Or.inl rfl⟩
      | torn e n => exact Or.inr ⟨⟨_, rfl⟩, Or.inr ⟨hne, n, ⟨rfl, e, rfl⟩, rfl⟩⟩

/-- A removal that succeeds leaves a cleaned file, one that fails leaves the file alone or a part of
the cleaned text. -/
theorem removeOverridesInner_cases (io : HostsIo) (content : Text) :
    ((removeOverridesInner io content).1 = .ok () ∧
      (removeOverridesInner io content).2 = removeMarkerBlock content) ∨
    ((∃ e, (removeOverridesInner io content).1 = .error e) ∧
      ((removeOverridesInner io content).2 = content ∨ removeMarkerBlock content ≠ content ∧
        ∃ n, io.Tears n ∧
          (removeOverridesInner io content).2 = cutBytes n (removeMarkerBlock content))) := by
  obtain ⟨readErr, write⟩ := io
  unfold removeOverridesInner
  cases readErr with
  | some e => exact Or.inr ⟨⟨_, rfl⟩, Or.inl rfl⟩
  | none =>
    simp only
    split
    · rename_i hne
      cases write with
      | written => exact Or.inl ⟨rfl, rfl⟩
      | failed e => exact Or.inr ⟨⟨_, rfl⟩, Or.inl rfl⟩
      | torn e n => exact Or.inr ⟨⟨_, rfl⟩, Or.inr ⟨hne, n, ⟨rfl, e, rfl⟩, rfl⟩⟩
    · rename_i hsame
      exact Or.inl ⟨rfl, (not_not.mp hsame).symm⟩

/-- With no error from the system the removal succeeds. -/
theorem removeOverridesInner_ok (content : Text) :
    (removeOverridesInner HostsIo.ok content).1 = .ok () := by
  unfold removeOverridesInner HostsIo.ok
  simp only
  split
  · rfl
  · rfl

/-- A hosts file with one entry of its own. -/
def localhostFile : Text := "127.0.0.1 localhost\n".toList

/-! ## 3. The lines of a cleaned file -/

/-- A line that is one of the two markers, up to white space. -/
def IsMarker (l : Line) : Prop := trim l = markerStart ∨ trim l = markerEnd

/-- A file without marker lines. -/
def NoMarker (content : Text) : Prop := ∀ l ∈ lines content, ¬ IsMarker l

theorem keepOutside_sublist : ∀ (b : Bool) (ls : List Line), (keepOutside b ls).Sublist ls
  | _, [] => List.Sublist.refl _
  | b, l :: ls => by
    unfold keepOutside
    split
    · exact (keepOutside_sublist true ls).cons l
    · split
      · exact (keepOutside_sublist false ls).cons l
      · split
        · exact (keepOutside_sublist b ls).cons l
        · exact (keepOutside_sublist b ls).cons_cons l

theorem not_marker_of_mem_keepOutside : ∀ (b : Bool) (ls : List Line),
    ∀ l ∈ keepOutside b ls, ¬ IsMarker l
  | _, [], l, hl => by simp [keepOutside] at hl
  | b, m :: ls, l, hl => by
    unfold keepOutside at hl
    split at hl
    · exact not_marker_of_mem_keepOutside true ls l hl
    · rename_i hs
      split at hl
      · exact not_marker_of_mem_keepOutside false ls l hl
      · rename_i he
        split at hl
        · exact not_marker_of_mem_keepOutside b ls l hl
        · rcases List.mem_cons.mp hl with rfl | hl
          · rintro (h | h)
            · exact hs h
            · exact he h
          · exact not_marker_of_mem_keepOutside b ls l hl

theorem keepOutside_cons_of_not_marker {l : Line} (h : ¬ IsMarker l) (b : Bool) (ls : List Line) :
    keepOutside b (l :: ls) = if b then keepOutside b ls else l :: keepOutside b ls := by
  rw [keepOutside, if_neg (fun e => h (Or.inl e)), if_neg (fun e => h (Or.inr e))]

/-- Outside a block, lines that are no markers are all kept. -/
theorem keepOutside_append_of_no_marker : ∀ (ls ms : List Line), (∀ l ∈ ls, ¬ IsMarker l) →
    keepOutside false (ls ++ ms) = ls ++ keepOutside false ms
  | [], ms, _ => rfl
  | l :: ls, ms, h => by
    have hl := h l List.mem_cons_self
    have ih := keepOutside_append_of_no_marker ls ms (fun m hm => h m (List.mem_cons_of_mem _ hm))
    rw [List.cons_append, keepOutside_cons_of_not_marker hl, if_neg (by decide), ih,
      List.cons_append]

/-- Inside a block, lines that are no markers are all dropped. -/
theorem keepOutside_true_append : ∀ (ls ms : List Line), (∀ l ∈ ls, ¬ IsMarker l) →
    keepOutside true (ls ++ ms) = keepOutside true ms
  | [], ms, _ => rfl
  | l :: ls, ms, h => by
    have hl := h l List.mem_cons_self
    have ih := keepOutside_true_append ls ms (fun m hm => h m (List.mem_cons_of_mem _ hm))
    rw [List.cons_append, keepOutside_cons_of_not_marker hl, if_pos rfl, ih]

/-- The lines of the user, without blank ones at the end. -/
def userLines (content : Text) : List Line :=
  (keepOutside false (lines content)).rdropWhile (· == [])

theorem userLines_sub (content : Text) :
    (userLines content).Sublist (keepOutside false (lines content)) := by
  have h := List.rdropWhile_prefix (fun x : Line => x == []) (keepOutside false (lines content))
  exact h.sublist

theorem not_marker_of_mem_userLines {content : Text} {l : Line} (h : l ∈ userLines content) :
    ¬ IsMarker l :=
  not_marker_of_mem_keepOutside _ _ l ((userLines_sub content).subset h)

theorem newline_notMem_userLines {content : Text} {l : Line} (h : l ∈ userLines content) :
    '\n' ∉ l :=
  newline_notMem_lines ((keepOutside_sublist _ _).subset ((userLines_sub content).subset h))

/-- The last of the user's lines is not blank. -/
theorem userLines_concat_ne {content : Text} {q : List Line} {l : Line}
    (h : userLines content = q ++ [l]) : l ≠ [] := by
  rintro rfl
  have hidem := List.rdropWhile_idempotent (fun x : Line => x == [])
    (keepOutside false (lines content))
  change (userLines content).rdropWhile _ = userLines content at hidem
  rw [h, List.rdropWhile_concat_pos _ _ _ (by simp)] at hidem
  have hlen := congrArg List.length hidem
  have hpre := List.rdropWhile_prefix (fun x : Line => x == []) q
  have hle := hpre.length_le
  rw [List.length_append, List.length_singleton] at hlen
  omega

/-- **A cleaned file is the user's lines, written out.** -/
theorem removeMarkerBlock_eq (content : Text) :
    removeMarkerBlock content = unlines (userLines content) := by
  have hnl : ∀ l ∈ keepOutside false (lines content), '\n' ∉ l :=
    fun l hl => newline_notMem_lines ((keepOutside_sublist _ _).subset hl)
  unfold removeMarkerBlock
  simp only [rdropWhile_unlines _ hnl]
  change (if (match (userLines content).getLast? with
      | none => []
      | some l => unlines (userLines content).dropLast ++ l) = [] then [] else _) = _
  rcases List.eq_nil_or_concat (userLines content) with hu | ⟨q, l, hu⟩
  · rw [hu]
    rfl
  · rw [List.concat_eq_append] at hu
    have hl : l ≠ [] := userLines_concat_ne hu
    change (if _ then _ else (match (userLines content).getLast? with
      | none => []
      | some l => unlines (userLines content).dropLast ++ l) ++ ['\n']) = _
    simp [hu, hl, unlines]

theorem lines_removeMarkerBlock (content : Text) :
    lines (removeMarkerBlock content) = (userLines content).map stripCr := by
  rw [removeMarkerBlock_eq]
  exact lines_unlines (fun l hl => newline_notMem_userLines hl)

/-- **No marker survives the cleaning.** -/
theorem noMarker_removeMarkerBlock (content : Text) : NoMarker (removeMarkerBlock content) := by
  intro l hl
  rw [lines_removeMarkerBlock] at hl
  obtain ⟨l0, hl0, rfl⟩ := List.mem_map.mp hl
  have h0 := not_marker_of_mem_userLines hl0
  unfold IsMarker at h0 ⊢
  rw [trim_stripCr]
  exact h0

/-- A file with a marker line is cleaned when, and only when, all of the cleaned text is written. -/
theorem removeOverridesInner_clean_iff {io : HostsIo} {content : Text} (h : ¬ NoMarker content) :
    (removeOverridesInner io content).2 = removeMarkerBlock content ↔
      io.WritesAll (removeMarkerBlock content) := by
  obtain ⟨readErr, write⟩ := io
  have hne : removeMarkerBlock content ≠ content := by
    intro heq
    have hclean := noMarker_removeMarkerBlock content
    rw [heq] at hclean
    exact h hclean
  cases readErr with
  | some e =>
    refine iff_of_false hne.symm ?_
    rintro ⟨hread, -⟩
    cases hread
  | none =>
    simp only [removeOverridesInner, if_pos hne]
    cases write with
    | written => exact iff_of_true rfl ⟨rfl, Or.inl rfl⟩
    | failed e =>
      refine iff_of_false hne.symm ?_
      rintro ⟨-, hwrite | ⟨e', n, hwrite, -⟩⟩
      · cases hwrite
      · cases hwrite
    | torn e n =>
      constructor
      · intro hfile
        exact ⟨rfl, Or.inr ⟨e, n, rfl, hfile⟩⟩
      · rintro ⟨-, hwrite | ⟨e', n', hwrite, hfile⟩⟩
        · cases hwrite
        · obtain ⟨-, rfl⟩ := FileWrite.torn.inj hwrite
          exact hfile

/-! ## 4. The lines of a written file -/

/-- What stands before the block: the user's lines, or one blank line when there are none. -/
def headLines (content : Text) : List Line :=
  if userLines content = [] then [[]] else userLines content

theorem blank_not_marker : ¬ IsMarker [] := by
  unfold IsMarker
  decide

theorem not_marker_of_mem_headLines {content : Text} {l : Line} (h : l ∈ headLines content) :
    ¬ IsMarker l := by
  unfold headLines at h
  split at h
  · obtain rfl := List.mem_singleton.mp h
    exact blank_not_marker
  · exact not_marker_of_mem_userLines h

theorem newline_notMem_headLines {content : Text} {l : Line} (h : l ∈ headLines content) :
    '\n' ∉ l := by
  unfold headLines at h
  split at h
  · obtain rfl := List.mem_singleton.mp h
    exact List.not_mem_nil
  · exact newline_notMem_userLines h

/-- **A written file is the head and the block, written out.** -/
theorem withBlock_eq (content : Text) (overrides : List HostOverride) :
    withBlock content overrides =
      unlines (headLines content ++ (markerStart :: overrides.map overrideLine ++ [markerEnd])) := by
  unfold withBlock buildHostsBlock
  simp only [removeMarkerBlock_eq, unlines_append (headLines content)]
  congr 1
  unfold headLines
  rcases List.eq_nil_or_concat (userLines content) with hu | ⟨q, l, hu⟩
  · simp [hu, unlines]
  · rw [List.concat_eq_append] at hu
    simp [hu, unlines]

/-- An override whose line is one line of the file, and not a marker. -/
structure CleanPin (e : HostOverride) : Prop where
  oneLine : '\n' ∉ overrideLine e
  notMarker : ¬ IsMarker (overrideLine e)
  noCr : lineText (overrideLine e) = overrideLine e

/-- Trimming keeps a first character that is no white space. -/
theorem trim_cons {c : Char} (hc : isWhitespace c = false) (l : Line) :
    ∃ l', trim (c :: l) = c :: l' := by
  have hdrop : (c :: l).dropWhile isWhitespace = c :: l :=
    List.dropWhile_cons_of_neg (by simp [hc])
  rw [trim, hdrop]
  have hpre := List.rdropWhile_prefix isWhitespace (c :: l)
  cases ht : (c :: l).rdropWhile isWhitespace with
  | nil =>
    have hwhite := List.rdropWhile_eq_nil_iff.mp ht c List.mem_cons_self
    rw [hc] at hwhite
    cases hwhite
  | cons c' l' =>
    rw [ht] at hpre
    obtain ⟨rfl, -⟩ := List.cons_prefix_cons.mp hpre
    exact ⟨l', rfl⟩

/-- **No override is written as a marker**: its line starts with a digit. -/
theorem overrideLine_not_marker (e : HostOverride) : ¬ IsMarker (overrideLine e) := by
  have hdigits : ∃ l, overrideLine e = Nat.toDigits 10 e.ip.a.toNat ++ l := by
    rw [overrideLine, Ipv4Addr.toText]
    simp only [String.toList_append, Nat.toString_eq_repr, Nat.toList_repr, List.append_assoc]
    exact ⟨_, rfl⟩
  obtain ⟨c, l, hline, hdigit⟩ : ∃ c l, overrideLine e = c :: l ∧ c.isDigit = true := by
    obtain ⟨l, hl⟩ := hdigits
    cases hd : Nat.toDigits 10 e.ip.a.toNat with
    | nil => exact absurd hd Nat.toDigits_ne_nil
    | cons c l' =>
      have hmem : c ∈ Nat.toDigits 10 e.ip.a.toNat := by
        rw [hd]
        exact List.mem_cons_self
      rw [hd, List.cons_append] at hl
      exact ⟨c, l' ++ l, hl, Nat.isDigit_of_mem_toDigits (by decide) (by decide) hmem⟩
  have hwhite : isWhitespace c = false := by
    rw [Char.isDigit, Bool.and_eq_true, decide_eq_true_iff, decide_eq_true_iff] at hdigit
    have hlow : 48 ≤ c.toNat := hdigit.1
    have hhigh : c.toNat ≤ 57 := hdigit.2
    simp only [isWhitespace]
    grind
  obtain ⟨l', htrim⟩ := trim_cons hwhite l
  have hhash : c ≠ '#' := by
    rintro rfl
    exact absurd hdigit (by decide)
  rw [IsMarker, hline, htrim]
  rintro (heq | heq)
  · exact hhash (List.cons_eq_cons.mp heq).1
  · exact hhash (List.cons_eq_cons.mp heq).1

theorem lines_withBlock {overrides : List HostOverride} (h : ∀ e ∈ overrides, '\n' ∉ overrideLine e)
    (content : Text) : lines (withBlock content overrides) =
      (headLines content ++ (markerStart :: overrides.map overrideLine ++ [markerEnd])).map stripCr := by
  rw [withBlock_eq]
  refine lines_unlines ?_
  intro l hl
  simp only [List.mem_append, List.mem_cons, List.mem_map, List.not_mem_nil, or_false] at hl
  rcases hl with hl | (rfl | ⟨e, he, rfl⟩) | rfl
  · exact newline_notMem_headLines hl
  · decide
  · exact h e he
  · decide

theorem isMarker_stripCr {l : Line} : IsMarker (stripCr l) ↔ IsMarker l := by
  unfold IsMarker
  rw [trim_stripCr]

theorem lines_marker {marker : Line} (h : '\n' ∉ marker) (t : Text) :
    lines (unlines [marker] ++ t) = stripCr marker :: lines t := by
  have hline : ∀ l ∈ [marker], '\n' ∉ l := by simpa using h
  simpa using lines_unlines_append t hline

/-- A written file has a marker line, whatever its pins are. -/
theorem not_noMarker_withBlock (content : Text) (overrides : List HostOverride) :
    ¬ NoMarker (withBlock content overrides) := by
  have hmem : stripCr markerStart ∈ lines (withBlock content overrides) := by
    rw [withBlock_eq, unlines_append, lines_append (terminated_unlines _), List.cons_append,
      ← List.singleton_append, unlines_append, lines_marker (by decide)]
    simp
  have hstart : IsMarker markerStart := Or.inl (by decide)
  exact fun hm => hm _ hmem (isMarker_stripCr.mpr hstart)

/-- Cleaning a written file gives back its head. -/
theorem keepOutside_withBlock {overrides : List HostOverride}
    (h : ∀ e ∈ overrides, '\n' ∉ overrideLine e) (content : Text) :
    keepOutside false (lines (withBlock content overrides)) =
      (headLines content).map stripCr := by
  have hhead : ∀ l ∈ (headLines content).map stripCr, ¬ IsMarker l := by
    intro l hl
    obtain ⟨l0, hl0, rfl⟩ := List.mem_map.mp hl
    rw [isMarker_stripCr]
    exact not_marker_of_mem_headLines hl0
  have hpins : ∀ l ∈ (overrides.map overrideLine).map stripCr, ¬ IsMarker l := by
    intro l hl
    obtain ⟨l0, hl0, rfl⟩ := List.mem_map.mp hl
    obtain ⟨e, he, rfl⟩ := List.mem_map.mp hl0
    rw [isMarker_stripCr]
    exact overrideLine_not_marker e
  have hstart : trim (stripCr markerStart) = markerStart := by decide
  have hend : trim (stripCr markerEnd) = markerEnd := by decide
  have hne : markerEnd ≠ markerStart := by decide
  rw [lines_withBlock h, List.map_append, keepOutside_append_of_no_marker _ _ hhead,
    List.map_append, List.map_cons, List.cons_append, keepOutside, if_pos hstart,
    keepOutside_true_append _ _ hpins, List.map_cons, keepOutside, if_neg (by rw [hend]; exact hne),
    if_pos hend]
  simp [keepOutside]

/-! ## 5. What an edit does to the lines -/

/-- The lines of a file without their terminators. -/
def textLines (content : Text) : List Line := (lines content).map lineText

/-- The lines of a file outside any block. -/
def outsideLines (content : Text) : List Line := (keepOutside false (lines content)).map lineText

theorem outsideLines_sublist (content : Text) :
    (outsideLines content).Sublist (textLines content) :=
  (keepOutside_sublist _ _).map lineText

/-- The loop reads a line without its terminator. -/
theorem keepOutside_map_lineText : ∀ (b : Bool) (ls : List Line),
    keepOutside b (ls.map lineText) = (keepOutside b ls).map lineText
  | _, [] => rfl
  | b, l :: ls => by
    rw [List.map_cons, keepOutside, keepOutside, trim_lineText, keepOutside_map_lineText true ls,
      keepOutside_map_lineText false ls, keepOutside_map_lineText b ls]
    split
    · rfl
    split
    · rfl
    split
    · rfl
    · rfl

/-- The loop decides about a line before it reads the next. -/
theorem keepOutside_firstLines : ∀ (b : Bool) {ls ms : List Line}, ls <+: ms →
    keepOutside b ls <+: keepOutside b ms
  | _, [], ms, _ => List.nil_prefix
  | b, l :: ls, [], h => absurd (List.prefix_nil.mp h) (List.cons_ne_nil l ls)
  | b, l :: ls, m :: ms, h => by
    obtain ⟨rfl, hrest⟩ := List.cons_prefix_cons.mp h
    rw [keepOutside, keepOutside]
    split
    · exact keepOutside_firstLines true hrest
    split
    · exact keepOutside_firstLines false hrest
    split
    · exact keepOutside_firstLines b hrest
    · exact List.cons_prefix_cons.mpr ⟨rfl, keepOutside_firstLines b hrest⟩

/-- **The first lines of a file have the first of its lines outside blocks**, whether or not a block
is cut in two. -/
theorem outsideLines_firstLines {content content' : Text}
    (h : textLines content' <+: textLines content) :
    outsideLines content' <+: outsideLines content := by
  have hpre := keepOutside_firstLines false h
  rwa [textLines, textLines, keepOutside_map_lineText, keepOutside_map_lineText] at hpre

theorem map_lineText_stripCr (ls : List Line) : (ls.map stripCr).map lineText = ls.map lineText := by
  rw [List.map_map]
  exact List.map_congr_left (fun l _ => lineText_stripCr l)

theorem userLines_sublist (content : Text) :
    ((userLines content).map lineText).Sublist (outsideLines content) :=
  (userLines_sub content).map lineText

/-- Cleaning keeps lines of the user. -/
theorem textLines_removeMarkerBlock (content : Text) :
    (textLines (removeMarkerBlock content)).Sublist (outsideLines content) := by
  unfold textLines
  rw [lines_removeMarkerBlock, map_lineText_stripCr]
  exact userLines_sublist content

theorem headLines_of_clean {content : Text} (h : removeMarkerBlock content ≠ []) :
    headLines content = userLines content := by
  unfold headLines
  rw [if_neg]
  intro hu
  rw [removeMarkerBlock_eq, hu] at h
  exact h rfl

/-- **A written file is lines of the user, and the block.** -/
theorem textLines_withBlock {overrides : List HostOverride} (h : ∀ e ∈ overrides, CleanPin e)
    {content : Text} (hc : removeMarkerBlock content ≠ []) :
    textLines (withBlock content overrides) =
      (userLines content).map lineText ++ (markerStart :: overrides.map overrideLine ++ [markerEnd]) := by
  have hpins : (overrides.map overrideLine).map lineText = overrides.map overrideLine := by
    rw [List.map_map]
    refine List.map_congr_left ?_
    intro e he
    rw [Function.comp_apply, (h e he).noCr]
  have hstart : lineText markerStart = markerStart := by decide +kernel
  have hend : lineText markerEnd = markerEnd := by decide +kernel
  unfold textLines
  rw [lines_withBlock fun e he => (h e he).oneLine, map_lineText_stripCr, headLines_of_clean hc,
    List.map_append, List.map_append, List.map_cons, hpins, List.map_singleton, hstart, hend]

theorem outsideLines_withBlock {overrides : List HostOverride} (h : ∀ e ∈ overrides, CleanPin e)
    {content : Text} (hc : removeMarkerBlock content ≠ []) :
    outsideLines (withBlock content overrides) = (userLines content).map lineText := by
  unfold outsideLines
  rw [keepOutside_withBlock fun e he => (h e he).oneLine, map_lineText_stripCr,
    headLines_of_clean hc]

/-! ## 6. Pins that may be written -/

/-- An override that DNS repair may write: a listed host at a public address. -/
structure AllowedPin (e : HostOverride) : Prop where
  listed : isListed robloxBootstrapDomains e.domain = true
  usable : isUsablePublicIpv4 e.ip = true

/-- The characters of a host name. -/
def isHostChar (c : Char) : Bool := c.isAlphanum || c == '.' || c == '-'

theorem hostChars_of_bootstrap :
    ∀ n ∈ robloxBootstrapDomains, ∀ c ∈ n.toList, c.toLower = c ∧ isHostChar c = true := by
  have hall : (robloxBootstrapDomains.all fun n =>
      n.toList.all fun c => decide (c.toLower = c ∧ isHostChar c = true)) = true := by
    decide +kernel
  intro n hn c hc
  exact of_decide_eq_true (List.all_eq_true.mp (List.all_eq_true.mp hall n hn) c hc)

/-- The hosts that may be pinned are listed in lower case. -/
theorem lower_of_bootstrap : ∀ n ∈ robloxBootstrapDomains, toAsciiLowercase n = n := by
  intro n hn
  have hsame : n.toList.map Char.toLower = n.toList :=
    (List.map_congr_left fun c hc => (hostChars_of_bootstrap n hn c hc).1).trans (List.map_id _)
  rw [toAsciiLowercase, hsame, String.ofList_toList]

theorem isHostChar_of_listed {domain : String} (h : isListed robloxBootstrapDomains domain = true)
    {c : Char} (hc : c ∈ domain.toList) : isHostChar c.toLower = true := by
  obtain ⟨n, hn, he⟩ := List.any_eq_true.mp h
  rw [eqIgnoreAsciiCase_iff, toAsciiLowercase, toAsciiLowercase, String.ofList_inj] at he
  have hmem : c.toLower ∈ n.toList.map Char.toLower := by
    rw [← he]
    exact List.mem_map_of_mem hc
  obtain ⟨c', hc', hlow⟩ := List.mem_map.mp hmem
  obtain ⟨hlower, hhost⟩ := hostChars_of_bootstrap n hn c' hc'
  rw [← hlow, hlower]
  exact hhost

theorem notMem_allowedDomain {e : HostOverride} (h : AllowedPin e) {c : Char}
    (hhost : isHostChar c.toLower = false) : c ∉ e.domain.toList := by
  intro hc
  rw [isHostChar_of_listed h.listed hc] at hhost
  exact nomatch hhost

/-- The line of an override holds the characters of an address, a space, and those of the
domain. -/
theorem notMem_overrideLine {e : HostOverride} {c : Char} (hdomain : c ∉ e.domain.toList)
    (hdigit : c.isDigit = false) (hdot : c ≠ '.') (hspace : c ≠ ' ') : c ∉ overrideLine e := by
  have hnum : ∀ n : Nat, c ∉ (toString n).toList := by
    intro n hc
    rw [Nat.toString_eq_repr, Nat.toList_repr] at hc
    rw [Nat.isDigit_of_mem_toDigits (by decide) (by decide) hc] at hdigit
    exact nomatch hdigit
  have hdotText : ".".toList = ['.'] := rfl
  have hspaceText : " ".toList = [' '] := rfl
  unfold overrideLine Ipv4Addr.toText
  simp only [String.toList_append, List.mem_append, hdotText, hspaceText, List.mem_singleton,
    hnum, hdomain, hdot, hspace, or_self, not_false_eq_true]

/-- **A pin that may be written is one line of the file.** -/
theorem cleanPin_of_allowed {e : HostOverride} (h : AllowedPin e) : CleanPin e := by
  have hnl : '\n' ∉ overrideLine e :=
    notMem_overrideLine (notMem_allowedDomain h (by decide)) (by decide) (by decide) (by decide)
  have hcr : '\r' ∉ overrideLine e :=
    notMem_overrideLine (notMem_allowedDomain h (by decide)) (by decide) (by decide) (by decide)
  refine ⟨hnl, overrideLine_not_marker e, ?_⟩
  unfold lineText
  rw [List.rdropWhile_eq_self_iff]
  intro hne hlast
  have hr : (overrideLine e).getLast hne = '\r' := by simpa using hlast
  exact hcr (hr ▸ List.getLast_mem hne)

end SwiftTunnel
