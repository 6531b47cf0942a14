/-
# The string operations of the Rust standard library that the code calls

Rust's `str` is a sequence of Unicode scalar values, as `String` is here, so each operation is
given on the list of characters.  A file's contents are kept as that list (`Text`), because
everything done to a text file is done line by line.

The second half is the theory of `lines`.  A text made by writing each line of a list with a
line feed after it (`unlines`) reads back as that list, up to one carriage return per line:
`str::lines` takes a carriage return before the line feed as part of the terminator.

* `lines_unlines_append`, `lines_append`: the lines of a text that begins with written lines.
* `trim_lineText`: what `trim` sees of a line does not depend on its terminator, so a loop that
  trims each line treats both kinds alike.
* `cr_notMem_lines`: a text whose carriage returns all stand in terminators has lines without any.
* `unlines_lines_iff`: which texts are the same when they are cut into lines and written out again.

The last section is about files.  `std::fs::write` opens a file, which empties it, and then writes;
it may fail at either, so a failed write leaves the file alone or leaves a first part of what was
to be written (`FileWrite`).  That part is counted in bytes and may end inside a character
(`cutBytes`), which then stands as a replacement character.  A read of such a file fails in Rust;
whether a read fails is an input of its own wherever this is used.
-/
import Mathlib.Data.List.Basic
import Mathlib.Data.List.DropRight
import Mathlib.Data.List.Infix

namespace Rust

/-! ## 1. ASCII case, and trimming -/

/-- `str::to_ascii_lowercase`. -/
def toAsciiLowercase (s : String) : String := String.ofList (s.toList.map Char.toLower)

/-- `str::eq_ignore_ascii_case`. -/
def eqIgnoreAsciiCase (s t : String) : Bool := toAsciiLowercase s == toAsciiLowercase t

theorem eqIgnoreAsciiCase_iff {s t : String} :
    eqIgnoreAsciiCase s t = true ↔ toAsciiLowercase s = toAsciiLowercase t := by
  simp [eqIgnoreAsciiCase]

/-- `str::trim_end_matches` with a character. -/
def trimEndChar (c : Char) (s : String) : String := String.ofList (s.toList.rdropWhile (· == c))

/-- `str::starts_with`. -/
def startsWith (s t : String) : Bool := t.toList.isPrefixOf s.toList

/-- `str::ends_with`. -/
def endsWith (s t : String) : Bool := t.toList.isSuffixOf s.toList

/-- `str::contains` with a string. -/
def contains (s t : String) : Bool := decide (t.toList <:+: s.toList)

/-- `str::trim_end_matches` with a string: the pattern is taken off the end as often as it
stands there.  `n` bounds the number of times and the length of the text is enough. -/
def trimEndText (pat : List Char) : Nat → List Char → List Char
  | 0, l => l
  | n + 1, l => if pat ≠ [] ∧ pat <:+ l then trimEndText pat n (l.take (l.length - pat.length)) else l

def trimEndMatches (pat s : String) : String :=
  String.ofList (trimEndText pat.toList s.toList.length s.toList)

/-- `str::find` with a string: where it first stands, in characters. -/
def find (pat : List Char) : List Char → Option Nat
  | [] => if pat = [] then some 0 else none
  | c :: t => if pat <+: c :: t then some 0 else (find pat t).map (· + 1)

/-- What is found is the first occurrence. -/
theorem find_some {pat t : List Char} {i : Nat} (h : find pat t = some i) :
    pat <+: t.drop i ∧ ∀ j, pat <+: t.drop j → i ≤ j := by
  induction t generalizing i with
  | nil =>
    rw [find] at h
    split at h
    · rename_i hnil
      obtain rfl := Option.some.inj h
      exact ⟨by simp [hnil], fun j _ => Nat.zero_le j⟩
    · cases h
  | cons c t ih =>
    rw [find] at h
    split at h
    · rename_i hpre
      obtain rfl := Option.some.inj h
      exact ⟨hpre, fun j _ => Nat.zero_le j⟩
    · rename_i hpre
      obtain ⟨k, hk, rfl⟩ := Option.map_eq_some_iff.mp h
      obtain ⟨hat, hleft⟩ := ih hk
      refine ⟨hat, fun j hj => ?_⟩
      cases j with
      | zero => exact absurd hj hpre
      | succ j => exact Nat.succ_le_succ (hleft j hj)

/-- Where nothing is found there is no occurrence. -/
theorem find_none {pat t : List Char} (h : find pat t = none) (j : Nat) : ¬ pat <+: t.drop j := by
  induction t generalizing j with
  | nil =>
    rw [find] at h
    split at h
    · cases h
    · rename_i hne
      simpa using hne
  | cons c t ih =>
    rw [find] at h
    split at h
    · cases h
    · rename_i hpre
      cases j with
      | zero => exact hpre
      | succ j => exact ih (Option.map_eq_none_iff.mp h) j

/-- `char::is_whitespace`: the Unicode property `White_Space`. -/
def isWhitespace (c : Char) : Bool :=
  let n := c.toNat
  (0x09 ≤ n ∧ n ≤ 0x0D) || n = 0x20 || n = 0x85 || n = 0xA0 || n = 0x1680 ||
    (0x2000 ≤ n ∧ n ≤ 0x200A) || n = 0x2028 || n = 0x2029 || n = 0x202F || n = 0x205F || n = 0x3000

/-! ## 2. Texts and their lines -/

abbrev Text := List Char

abbrev Line := List Char

/-- `str::trim`. -/
def trim (l : Line) : Line := (l.dropWhile isWhitespace).rdropWhile isWhitespace

/-- `str::split_inclusive('\n')`: every piece but the last ends with the line feed. -/
def splitInclusive : Text → List Text
  | [] => []
  | c :: cs =>
    if c = '\n' then [c] :: splitInclusive cs
    else match splitInclusive cs with
      | [] => [[c]]
      | l :: ls => (c :: l) :: ls

/-- One carriage return less at the end. -/
def stripCr (l : Line) : Line := if l.getLast? = some '\r' then l.dropLast else l

/-- A piece without its terminator: a line feed and then one carriage return.  A piece that
does not end with a line feed is left as it is, carriage return included. -/
def stripTerminator (l : Text) : Line :=
  if l.getLast? = some '\n' then stripCr l.dropLast else l

/-- `str::lines`. -/
def lines (t : Text) : List Line := (splitInclusive t).map stripTerminator

/-- The lines, each followed by a line feed. -/
def unlines (ls : List Line) : Text := ls.flatMap (fun l => l ++ ['\n'])

@[simp] theorem unlines_nil : unlines [] = [] := rfl

theorem unlines_cons (l : Line) (ls : List Line) : unlines (l :: ls) = l ++ '\n' :: unlines ls := by
  simp [unlines]

theorem unlines_append (ls ms : List Line) : unlines (ls ++ ms) = unlines ls ++ unlines ms := by
  simp [unlines]

/-- A line that a line feed ends is the first piece of the split. -/
theorem splitInclusive_line : ∀ {l : Line} (t : Text), '\n' ∉ l →
    splitInclusive (l ++ '\n' :: t) = (l ++ ['\n']) :: splitInclusive t
  | [], t, _ => by simp [splitInclusive]
  | c :: l, t, h => by
    have hc : c ≠ '\n' := fun e => h (by simp [e])
    have hl : '\n' ∉ l := fun e => h (List.mem_cons_of_mem _ e)
    simp only [List.cons_append, splitInclusive, if_neg hc, splitInclusive_line t hl]

/-- **The first line of a text.** -/
theorem lines_line {l : Line} (t : Text) (h : '\n' ∉ l) :
    lines (l ++ '\n' :: t) = stripCr l :: lines t := by
  simp [lines, splitInclusive_line t h, stripTerminator]

/-- **Written lines read back**, up to a carriage return at the end of each. -/
theorem lines_unlines_append : ∀ {ls : List Line} (t : Text), (∀ l ∈ ls, '\n' ∉ l) →
    lines (unlines ls ++ t) = ls.map stripCr ++ lines t
  | [], t, _ => by simp
  | l :: ls, t, h => by
    have hl : '\n' ∉ l := h l List.mem_cons_self
    have ih := lines_unlines_append t (fun m hm => h m (List.mem_cons_of_mem _ hm))
    rw [unlines_cons, List.append_assoc, List.cons_append, lines_line _ hl, ih]
    simp

theorem lines_unlines {ls : List Line} (h : ∀ l ∈ ls, '\n' ∉ l) :
    lines (unlines ls) = ls.map stripCr := by
  have := lines_unlines_append [] h
  simpa [lines, splitInclusive] using this

/-! ## 3. No line holds a line feed -/

/-- Only the last character of a piece can be a line feed. -/
theorem splitInclusive_dropLast : ∀ (t : Text), ∀ p ∈ splitInclusive t, '\n' ∉ p.dropLast
  | [], p, hp => by simp [splitInclusive] at hp
  | c :: cs, p, hp => by
    have ih := splitInclusive_dropLast cs
    simp only [splitInclusive] at hp
    split at hp
    · rcases List.mem_cons.mp hp with rfl | hp
      · simp
      · exact ih p hp
    · rename_i hc
      split at hp
      · simp only [List.mem_singleton] at hp
        subst hp
        simp
      · rename_i l ls heq
        rw [heq] at ih
        rcases List.mem_cons.mp hp with rfl | hp
        · cases l with
          | nil => simp
          | cons d l =>
            simp only [List.dropLast_cons_cons, List.mem_cons, not_or]
            exact ⟨fun e => hc e.symm, ih _ List.mem_cons_self⟩
        · exact ih p (List.mem_cons_of_mem _ hp)

theorem stripCr_sublist (l : Line) : (stripCr l).Sublist l := by
  unfold stripCr
  split
  · exact List.dropLast_sublist l
  · exact List.Sublist.refl l

theorem newline_notMem_lines {t : Text} {l : Line} (h : l ∈ lines t) : '\n' ∉ l := by
  obtain ⟨p, hp, rfl⟩ := List.mem_map.mp h
  have hd := splitInclusive_dropLast t p hp
  unfold stripTerminator
  split
  · exact fun e => hd ((stripCr_sublist _).subset e)
  · rename_i hlast
    intro e
    rcases List.eq_nil_or_concat p with rfl | ⟨q, c, rfl⟩
    · simp at e
    · simp only [List.concat_eq_append, List.getLast?_append, List.getLast?_singleton,
        Option.some_or, Option.some.injEq, List.dropLast_concat, List.mem_append,
        List.mem_singleton] at *
      rcases e with e | e
      · exact hd e
      · exact hlast e.symm

/-! ## 4. Trimming sees through a line terminator -/

/-- A carriage return is white space, so `trim` does not see it. -/
theorem trim_concat_cr (q : Line) : trim (q ++ ['\r']) = trim q := by
  have hcr : isWhitespace '\r' = true := by decide
  simp only [trim]
  by_cases hq : ∀ x ∈ q, isWhitespace x = true
  · rw [List.dropWhile_append_of_pos hq, List.dropWhile_eq_nil_iff.mpr hq]
    simp [List.dropWhile, hcr, List.rdropWhile]
  · have hne : q.dropWhile isWhitespace ≠ [] := fun e => hq (List.dropWhile_eq_nil_iff.mp e)
    rw [List.dropWhile_append, if_neg (by simpa using hne)]
    exact List.rdropWhile_concat_pos _ _ _ hcr

theorem trim_stripCr (l : Line) : trim (stripCr l) = trim l := by
  unfold stripCr
  split
  · rename_i hlast
    obtain ⟨q, rfl⟩ := List.getLast?_eq_some_iff.mp hlast
    rw [List.dropLast_concat, trim_concat_cr]
  · rfl

/-- A line without its terminator, however many carriage returns it ends with. -/
def lineText (l : Line) : Line := l.rdropWhile (· == '\r')

theorem lineText_stripCr (l : Line) : lineText (stripCr l) = lineText l := by
  unfold stripCr lineText
  split
  · rename_i hlast
    obtain ⟨q, rfl⟩ := List.getLast?_eq_some_iff.mp hlast
    simp
  · rfl

theorem trim_lineText (l : Line) : trim (lineText l) = trim l := by
  induction l using List.reverseRecOn with
  | nil => rfl
  | append_singleton q c ih =>
    by_cases hc : c = '\r'
    · subst hc
      rw [lineText, List.rdropWhile_concat_pos _ _ _ (by decide), trim_concat_cr]
      exact ih
    · rw [lineText, List.rdropWhile_concat_neg _ _ _ (by simpa using hc)]

/-- `trim_end_matches('\n')` on written lines takes off the blank lines at the end and the last
line feed. -/
theorem rdropWhile_unlines (ls : List Line) (h : ∀ l ∈ ls, '\n' ∉ l) :
    (unlines ls).rdropWhile (· == '\n') =
      match (ls.rdropWhile (· == [])).getLast? with
      | none => []
      | some l => unlines (ls.rdropWhile (· == [])).dropLast ++ l := by
  induction ls using List.reverseRecOn with
  | nil => rfl
  | append_singleton ls l ih =>
    have hl : '\n' ∉ l := h l (by simp)
    have ihs := ih (fun m hm => h m (by simp [hm]))
    have hu : unlines (ls ++ [l]) = (unlines ls ++ l) ++ ['\n'] := by
      simp [unlines]
    rw [hu, List.rdropWhile_concat_pos _ _ _ (by decide)]
    rcases List.eq_nil_or_concat l with rfl | ⟨q, c, rfl⟩
    · rw [List.append_nil, ihs, List.rdropWhile_concat]
      simp
    · have hc : c ≠ '\n' := fun e => hl (by simp [e])
      rw [List.concat_eq_append, ← List.append_assoc,
        List.rdropWhile_concat_neg _ _ _ (by simpa using hc),
        List.rdropWhile_concat_neg _ _ _ (by simp)]
      simp

/-! ## 5. Texts whose carriage returns all stand in line terminators -/

/-- Every carriage return is half of a line terminator. -/
def SingleCrlf (t : Text) : Prop := ∀ i < t.length, t[i]? = some '\r' → t[i + 1]? = some '\n'

instance (t : Text) : Decidable (SingleCrlf t) := inferInstanceAs (Decidable (∀ i < _, _))

theorem SingleCrlf.next {t before after : Text} (h : SingleCrlf t)
    (ht : t = before ++ '\r' :: after) : after.head? = some '\n' := by
  subst ht
  have hnext := h before.length (by simp) (by simp)
  rw [List.getElem?_append_right (Nat.le_succ _)] at hnext
  simpa [List.head?_eq_getElem?] using hnext

/-- A text is terminated lines and a rest. -/
theorem exists_eq_unlines_append : ∀ t : Text,
    ∃ ls last, t = unlines ls ++ last ∧ (∀ l ∈ ls, '\n' ∉ l) ∧ '\n' ∉ last
  | [] => ⟨[], [], rfl, by simp, by simp⟩
  | c :: t => by
    obtain ⟨ls, last, rfl, hls, hlast⟩ := exists_eq_unlines_append t
    by_cases hc : c = '\n'
    · subst hc
      exact ⟨[] :: ls, last, by simp [unlines], List.forall_mem_cons.mpr ⟨List.not_mem_nil, hls⟩,
        hlast⟩
    · cases ls with
      | nil => exact ⟨[], c :: last, rfl, hls, by simpa [Ne.symm hc] using hlast⟩
      | cons l ls =>
        obtain ⟨hl, hls⟩ := List.forall_mem_cons.mp hls
        exact ⟨(c :: l) :: ls, last, by simp [unlines],
          List.forall_mem_cons.mpr ⟨by simpa [Ne.symm hc] using hl, hls⟩, hlast⟩

theorem splitInclusive_of_no_newline : ∀ {t : Text}, t ≠ [] → '\n' ∉ t → splitInclusive t = [t]
  | [], hne, _ => absurd rfl hne
  | [c], _, h => by
    have hc : c ≠ '\n' := fun e => h (by simp [e])
    rw [splitInclusive, if_neg hc, splitInclusive]
  | c :: d :: t, _, h => by
    have hc : c ≠ '\n' := fun e => h (by simp [e])
    have ht : '\n' ∉ d :: t := fun e => h (List.mem_cons_of_mem _ e)
    rw [splitInclusive, if_neg hc, splitInclusive_of_no_newline (List.cons_ne_nil d t) ht]

/-- A text without a line feed is its own only line. -/
theorem eq_of_mem_lines {t : Text} (h : '\n' ∉ t) {l : Line} (hl : l ∈ lines t) : l = t := by
  cases t with
  | nil => simp [lines, splitInclusive] at hl
  | cons c t =>
    rw [lines, splitInclusive_of_no_newline (List.cons_ne_nil c t) h, List.map_singleton,
      List.mem_singleton, stripTerminator, if_neg fun e => h (List.mem_of_getLast? e)] at hl
    exact hl

/-- **The lines of such a text hold no carriage return.** -/
theorem cr_notMem_lines {t : Text} (h : SingleCrlf t) {l : Line} (hl : l ∈ lines t) : '\r' ∉ l := by
  obtain ⟨ls, last, rfl, hls, hlast⟩ := exists_eq_unlines_append t
  rw [lines_unlines_append last hls] at hl
  rcases List.mem_append.mp hl with hl | hl
  · obtain ⟨l, hmem, rfl⟩ := List.mem_map.mp hl
    have hnl := hls l hmem
    obtain ⟨ls₁, ls₂, rfl⟩ := List.append_of_mem hmem
    -- a carriage return of `l` is its last character
    have hend : ∀ a b, l = a ++ '\r' :: b → b = [] := by
      rintro a b rfl
      have htext : unlines (ls₁ ++ (a ++ '\r' :: b) :: ls₂) ++ last =
          (unlines ls₁ ++ a) ++ '\r' :: (b ++ '\n' :: (unlines ls₂ ++ last)) := by
        simp [unlines]
      have hnext := h.next htext
      cases b with
      | nil => rfl
      | cons c b =>
        obtain rfl := Option.some.inj hnext
        exact absurd (by simp) hnl
    unfold stripCr
    split
    · rename_i hlast'
      obtain ⟨q, rfl⟩ := List.getLast?_eq_some_iff.mp hlast'
      rw [List.dropLast_concat]
      intro hcr
      obtain ⟨a, b, rfl⟩ := List.append_of_mem hcr
      have hnil := hend a (b ++ ['\r']) (by simp)
      simp at hnil
    · rename_i hlast'
      intro hcr
      obtain ⟨a, b, rfl⟩ := List.append_of_mem hcr
      obtain rfl := hend a b rfl
      simp at hlast'
  · obtain rfl := eq_of_mem_lines hlast hl
    intro hcr
    obtain ⟨a, b, rfl⟩ := List.append_of_mem hcr
    have hnext := h.next (List.append_assoc _ _ _).symm
    exact hlast (List.mem_append_right _ (List.mem_cons_of_mem _ (List.mem_of_head? hnext)))

/-! ## 6. Texts that end with a line feed -/

/-- Nothing, or lines that are all terminated. -/
def Terminated (t : Text) : Prop := t = [] ∨ t.getLast? = some '\n'

theorem terminated_unlines (ls : List Line) : Terminated (unlines ls) := by
  rcases List.eq_nil_or_concat ls with rfl | ⟨ls, l, rfl⟩
  · exact Or.inl rfl
  · refine Or.inr ?_
    simp [unlines]

/-- Terminated lines, written out. -/
theorem Terminated.exists_eq_unlines {t : Text} (h : Terminated t) :
    ∃ ls, t = unlines ls ∧ ∀ l ∈ ls, '\n' ∉ l := by
  obtain ⟨ls, last, rfl, hls, hlast⟩ := exists_eq_unlines_append t
  rcases List.eq_nil_or_concat last with rfl | ⟨q, c, rfl⟩
  · exact ⟨ls, List.append_nil _, hls⟩
  · rcases h with h | h
    · simp at h
    · rw [List.concat_eq_append, ← List.append_assoc, List.getLast?_concat] at h
      obtain rfl := Option.some.inj h
      exact absurd (by simp) hlast

/-- **The lines of a text after another** that is terminated. -/
theorem lines_append {a : Text} (h : Terminated a) (t : Text) :
    lines (a ++ t) = lines a ++ lines t := by
  obtain ⟨ls, rfl, hls⟩ := h.exists_eq_unlines
  rw [lines_unlines_append t hls, lines_unlines hls]

theorem length_unlines_map_stripCr_le (ls : List Line) :
    (unlines (ls.map stripCr)).length ≤ (unlines ls).length := by
  induction ls with
  | nil => exact le_rfl
  | cons l ls ih =>
    have hl := (stripCr_sublist l).length_le
    simp only [List.map_cons, unlines_cons, List.length_append, List.length_cons]
    omega

/-- Writing the lines out again takes no more characters than the text had. -/
theorem length_unlines_lines_le {t : Text} (h : Terminated t) :
    (unlines (lines t)).length ≤ t.length := by
  obtain ⟨ls, rfl, hls⟩ := h.exists_eq_unlines
  rw [lines_unlines hls]
  exact length_unlines_map_stripCr_le ls

/-- A carriage return before a line feed is lost. -/
theorem length_unlines_lines_lt {a b : Text} (h : Terminated (a ++ '\r' :: '\n' :: b)) :
    (unlines (lines (a ++ '\r' :: '\n' :: b))).length < (a ++ '\r' :: '\n' :: b).length := by
  have hb : Terminated b := by
    rcases h with h | h
    · simp at h
    · rcases List.eq_nil_or_concat b with rfl | ⟨q, c, rfl⟩
      · exact Or.inl rfl
      · refine Or.inr ?_
        simpa [List.getLast?_append, List.getLast?_cons] using h
  obtain ⟨ls, last, rfl, hls, hlast⟩ := exists_eq_unlines_append a
  have hline : '\n' ∉ last ++ ['\r'] := by simpa using hlast
  have hlines : lines ((unlines ls ++ last) ++ '\r' :: '\n' :: b) =
      lines (unlines ls) ++ last :: lines b := by
    have hcons := lines_line b hline
    rw [stripCr, List.getLast?_concat, if_pos rfl, List.dropLast_concat] at hcons
    rw [List.append_assoc, lines_append (terminated_unlines ls), ← hcons]
    simp
  have hfront := length_unlines_lines_le (terminated_unlines ls)
  have hback := length_unlines_lines_le hb
  rw [hlines, unlines_append, unlines_cons]
  simp only [List.length_append, List.length_cons]
  omega

/-- **Which texts are their lines, written out again**: those without a carriage return before a
line feed whose last line is terminated. -/
theorem unlines_lines_iff {t : Text} :
    unlines (lines t) = t ↔ Terminated t ∧ ¬ ['\r', '\n'] <:+: t := by
  constructor
  · intro h
    have hterm : Terminated t := h ▸ terminated_unlines (lines t)
    refine ⟨hterm, ?_⟩
    rintro ⟨a, b, rfl⟩
    have hsplit : a ++ ['\r', '\n'] ++ b = a ++ '\r' :: '\n' :: b := by simp
    rw [hsplit] at h hterm
    have hlt := length_unlines_lines_lt hterm
    rw [h] at hlt
    exact lt_irrefl _ hlt
  · rintro ⟨hterm, hcrlf⟩
    obtain ⟨ls, rfl, hls⟩ := hterm.exists_eq_unlines
    have hkeep : ∀ l ∈ ls, stripCr l = l := by
      intro l hl
      refine if_neg fun hlast => hcrlf ?_
      obtain ⟨q, rfl⟩ := List.getLast?_eq_some_iff.mp hlast
      obtain ⟨ls₁, ls₂, rfl⟩ := List.append_of_mem hl
      exact ⟨unlines ls₁ ++ q, unlines ls₂, by simp [unlines]⟩
    rw [lines_unlines hls, List.map_congr_left hkeep, List.map_id']

/-! ## 7. Writing a file -/

/-- How `fs::write` ends; `κ` is what can be left of a file that was begun. -/
inductive FileWrite (κ : Type) where
  | written
  /-- The file could not be opened, and is as it was. -/
  | failed (error : String)
  /-- The file was opened, which empties it, and was not written to the end. -/
  | torn (error : String) (left : κ)
  deriving DecidableEq, Repr

/-- The first bytes of a text.  A character that is cut in two stands as U+FFFD. -/
def cutBytes : Nat → Text → Text
  | 0, _ => []
  | _ + 1, [] => []
  | n + 1, c :: cs =>
    if c.utf8Size ≤ n + 1 then c :: cutBytes (n + 1 - c.utf8Size) cs else [Char.ofNat 0xFFFD]

end Rust
