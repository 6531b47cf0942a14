/-
# Texts cut at delimiters

A text is often taken apart by searching for a delimiter and keeping one side.  Where the
delimiter is searched in a text made of parts, it is found in the first part that holds it:
`afterFirst_append` says when the front can be passed over, `afterFirst_mark` when it is the
delimiter's own.

A text joined with delimiters and split at them again (`splitText`) has the parts for its pieces as
long as no part holds the delimiter and the delimiter does not begin inside itself: the first piece
is what the first part gives (`beforeFirst_mark`), the last is the last part (`getLast?_splitText`).
The last occurrence of a character is `rfindChar`.

The last section is about `trim` on a text made of parts: what is trimmed stands at the two ends
(`exists_trim`), so white space around a word that has none at its own ends is all that goes
(`trim_around`).
-/
import SwiftTunnel.Lib.Text

namespace Rust

/-! ## 1. The first occurrence -/

theorem find_eq_none_iff {pat t : Text} : find pat t = none ↔ ¬ pat <:+: t := by
  constructor
  · rintro h ⟨a, b, rfl⟩
    exact find_none h a.length (by simp)
  · intro h
    cases hfind : find pat t with
    | none => rfl
    | some i =>
      obtain ⟨rest, hrest⟩ := (find_some hfind).1
      refine absurd ⟨t.take i, rest, ?_⟩ h
      rw [List.append_assoc, hrest, List.take_append_drop]

/-- A front in which no occurrence begins is passed over. -/
theorem find_append {pat front t : Text}
    (h : ∀ i < front.length, ¬ pat <+: (front ++ t).drop i) :
    find pat (front ++ t) = (find pat t).map (· + front.length) := by
  induction front with
  | nil => simp
  | cons c front ih =>
    have hhead : ¬ pat <+: c :: (front ++ t) := h 0 (Nat.zero_lt_succ _)
    have htail := ih fun i hi => h (i + 1) (Nat.succ_lt_succ hi)
    rw [List.cons_append, find, if_neg hhead, htail, Option.map_map]
    rfl

/-- What follows the first occurrence of a text, or everything when there is none. -/
def afterFirst (pat t : Text) : Text :=
  match find pat t with
  | some idx => t.drop (idx + pat.length)
  | none => t

theorem afterFirst_append {pat front t : Text}
    (h : ∀ i < front.length, ¬ pat <+: (front ++ t).drop i) :
    afterFirst pat (front ++ t) = if pat <:+: t then afterFirst pat t else front ++ t := by
  rw [afterFirst, find_append h]
  split
  · rename_i idx hidx
    obtain ⟨i, hi, rfl⟩ := Option.map_eq_some_iff.mp hidx
    have hin : pat <:+: t := by
      by_contra hnot
      rw [find_eq_none_iff.mpr hnot] at hi
      exact nomatch hi
    rw [if_pos hin, afterFirst, hi, Nat.add_right_comm, Nat.add_comm, ← List.drop_drop,
      List.drop_left]
  · rename_i hnone
    rw [if_neg (find_eq_none_iff.mp (Option.map_eq_none_iff.mp hnone))]

/-- A front without the first character of the text that is searched is passed over. -/
theorem not_prefix_of_notMem {c : Char} {pat front : Text} (h : c ∉ front) (t : Text) :
    ∀ i < front.length, ¬ c :: pat <+: (front ++ t).drop i := by
  rintro i hi ⟨rest, hrest⟩
  rw [List.drop_append_of_le_length hi.le] at hrest
  have hhead := congrArg List.head? hrest
  rw [List.cons_append, List.head?_cons, List.head?_append, List.head?_drop,
    List.getElem?_eq_getElem hi, Option.some_or] at hhead
  exact h (Option.some.inj hhead ▸ List.getElem_mem hi)

/-- **A delimiter that is found where it was put.** -/
theorem afterFirst_mark {c : Char} {pat front : Text} (h : c ∉ front) (rest : Text) :
    afterFirst (c :: pat) (front ++ (c :: pat ++ rest)) = rest := by
  have hfind : find (c :: pat) (c :: pat ++ rest) = some 0 :=
    if_pos (List.prefix_append (c :: pat) rest)
  rw [afterFirst_append (not_prefix_of_notMem h _), if_pos (List.prefix_append _ _).isInfix,
    afterFirst, hfind]
  exact List.drop_left' (Nat.zero_add _).symm

/-! ## 2. Pieces between delimiters -/

/-- What precedes the first occurrence of a text, or everything when there is none. -/
def beforeFirst (pat t : Text) : Text :=
  match find pat t with
  | some idx => t.take idx
  | none => t

theorem find_eq_some_iff {pat t : Text} {i : Nat} :
    find pat t = some i ↔ pat <+: t.drop i ∧ ∀ j < i, ¬ pat <+: t.drop j := by
  constructor
  · intro h
    obtain ⟨hat, hleft⟩ := find_some h
    exact ⟨hat, fun j hj hpre => Nat.not_lt.mpr (hleft j hpre) hj⟩
  · rintro ⟨hat, hfirst⟩
    cases hfind : find pat t with
    | none => exact absurd hat (find_none hfind i)
    | some k =>
      obtain ⟨hk, hleft⟩ := find_some hfind
      have hle := hleft i hat
      rcases hle.lt_or_eq with hlt | heq
      · exact absurd hk (hfirst k hlt)
      · rw [heq]

theorem lt_length_of_prefix_drop {c : Char} {pat t : Text} {i : Nat} (h : c :: pat <+: t.drop i) :
    i < t.length := by
  by_contra hge
  rw [List.drop_eq_nil_iff.mpr (Nat.not_lt.mp hge)] at h
  exact absurd (List.prefix_nil.mp h) (List.cons_ne_nil c pat)

/-- Before a delimiter whose first character does not come back in it, only what stands there whole
is an occurrence of it. -/
theorem prefix_drop_mark {c : Char} {pat front back : Text} (hc : c ∉ pat) {j : Nat}
    (hj : j < front.length) :
    c :: pat <+: (front ++ (c :: pat ++ back)).drop j ↔ c :: pat <+: front.drop j := by
  rw [List.drop_append_of_le_length hj.le]
  constructor
  · intro h
    by_contra hnot
    rcases le_or_gt (c :: pat).length (front.drop j).length with hlen | hlen
    · exact hnot (List.prefix_of_prefix_length_le h (List.prefix_append _ _) hlen)
    · -- the occurrence reaches into the delimiter
      obtain ⟨e, he⟩ := List.prefix_of_prefix_length_le (List.prefix_append _ _) h hlen.le
      have hrest : e <+: c :: pat ++ back := by
        refine (List.prefix_append_right_inj (front.drop j)).mp ?_
        rwa [he]
      have hne : e ≠ [] := by
        rintro rfl
        rw [← he, List.append_nil] at hlen
        exact absurd hlen (lt_irrefl _)
      have hdrop : front.drop j ≠ [] := by
        rw [ne_eq, List.drop_eq_nil_iff]
        omega
      obtain ⟨d, ds, hd⟩ := List.exists_cons_of_ne_nil hdrop
      obtain ⟨x, xs, rfl⟩ := List.exists_cons_of_ne_nil hne
      rw [hd, List.cons_append, List.cons.injEq] at he
      obtain rfl : x = c := (List.cons_prefix_cons.mp hrest).1
      exact hc (he.2 ▸ List.mem_append_right ds List.mem_cons_self)
  · intro h
    exact h.trans (List.prefix_append _ _)

/-- **The first occurrence in a text made of parts** is in the first part, or the delimiter
itself. -/
theorem find_mark {c : Char} {pat : Text} (hc : c ∉ pat) (front back : Text) :
    find (c :: pat) (front ++ (c :: pat ++ back)) =
      some ((find (c :: pat) front).getD front.length) := by
  refine find_eq_some_iff.mpr ?_
  cases hfind : find (c :: pat) front with
  | some i =>
    obtain ⟨hat, hfirst⟩ := find_eq_some_iff.mp hfind
    have hi := lt_length_of_prefix_drop hat
    exact ⟨(prefix_drop_mark hc hi).mpr hat, fun j hj hpre =>
      hfirst j hj ((prefix_drop_mark hc (hj.trans hi)).mp hpre)⟩
  | none =>
    refine ⟨?_, fun j hj hpre => find_none hfind j ((prefix_drop_mark hc hj).mp hpre)⟩
    rw [Option.getD_none, List.drop_left]
    exact List.prefix_append _ _

/-- **The first piece.** -/
theorem beforeFirst_mark {c : Char} {pat : Text} (hc : c ∉ pat) (front back : Text) :
    beforeFirst (c :: pat) (front ++ (c :: pat ++ back)) = beforeFirst (c :: pat) front := by
  rw [beforeFirst, find_mark hc, beforeFirst]
  cases hfind : find (c :: pat) front with
  | some i => exact List.take_append_of_le_length (lt_length_of_prefix_drop (find_some hfind).1).le
  | none => exact List.take_left

/-- `str::split` with a string: the pieces between its occurrences.  `n` bounds their number, and
the length of the text is enough. -/
def splitText (pat : Text) : Nat → Text → List Text
  | 0, t => [t]
  | n + 1, t => match find pat t with
    | some i => t.take i :: splitText pat n (t.drop (i + pat.length))
    | none => [t]

theorem head?_splitText (pat : Text) {n : Nat} (hn : n ≠ 0) (t : Text) :
    (splitText pat n t).head? = some (beforeFirst pat t) := by
  obtain ⟨n, rfl⟩ := Nat.exists_eq_succ_of_ne_zero hn
  rw [splitText, beforeFirst]
  cases find pat t with
  | some i => rfl
  | none => rfl

theorem splitText_ne_nil (pat : Text) (n : Nat) (t : Text) : splitText pat n t ≠ [] := by
  cases n with
  | zero => exact List.cons_ne_nil _ _
  | succ n =>
    rw [splitText]
    cases find pat t with
    | some i => exact List.cons_ne_nil _ _
    | none => exact List.cons_ne_nil _ _

theorem splitText_of_notMem {c : Char} {pat t : Text} (h : c ∉ t) (n : Nat) :
    splitText (c :: pat) n t = [t] := by
  cases n with
  | zero => rfl
  | succ n =>
    have hnone : find (c :: pat) t = none :=
      find_eq_none_iff.mpr fun hin => h (hin.subset List.mem_cons_self)
    rw [splitText, hnone]

/-- **The last piece**, behind a delimiter whose first character is in no part of it. -/
theorem getLast?_splitText {c : Char} {pat back : Text} (hc : c ∉ pat) (hback : c ∉ back) (n : Nat)
    (front : Text) (hn : front.length < n) :
    (splitText (c :: pat) n (front ++ (c :: pat ++ back))).getLast? = some back := by
  induction n generalizing front with
  | zero => exact absurd hn (Nat.not_lt_zero _)
  | succ n ih =>
    rw [splitText, find_mark hc]
    dsimp only
    rw [List.getLast?_cons_of_ne_nil (splitText_ne_nil _ _ _)]
    cases hfind : find (c :: pat) front with
    | none =>
      rw [Option.getD_none, ← List.append_assoc, ← List.length_append, List.drop_left,
        splitText_of_notMem hback]
      rfl
    | some i =>
      -- the whole occurrence stands in front
      have hlen := (find_some hfind).1.length_le
      have hi := lt_length_of_prefix_drop (find_some hfind).1
      rw [List.length_drop] at hlen
      rw [Option.getD_some, List.drop_append_of_le_length (by omega)]
      refine ih _ ?_
      rw [List.length_drop, List.length_cons]
      omega

/-! ## 3. The last occurrence -/

/-- `str::rfind` with a character: where it last stands, in characters. -/
def rfindChar (c : Char) : Text → Option Nat
  | [] => none
  | d :: t => match rfindChar c t with
    | some i => some (i + 1)
    | none => if d = c then some 0 else none

theorem rfindChar_eq_none {c : Char} {t : Text} : rfindChar c t = none ↔ c ∉ t := by
  induction t with
  | nil => simp [rfindChar]
  | cons d t ih =>
    rw [rfindChar, List.mem_cons, not_or, ← ih]
    cases rfindChar c t with
    | some i => simp
    | none => simp [eq_comm]

theorem rfindChar_append {c : Char} {rest : Text} (h : c ∉ rest) (front : Text) :
    rfindChar c (front ++ c :: rest) = some front.length := by
  induction front with
  | nil => simp [rfindChar, rfindChar_eq_none.mpr h]
  | cons d front ih => simp [rfindChar, ih]

theorem rfindChar_some {c : Char} {t : Text} {i : Nat} (h : rfindChar c t = some i) :
    t = t.take i ++ c :: t.drop (i + 1) := by
  induction t generalizing i with
  | nil => exact nomatch h
  | cons d t ih =>
    rw [rfindChar] at h
    split at h
    · rename_i j hj
      obtain rfl := Option.some.inj h
      rw [List.take_succ_cons, List.drop_succ_cons, List.cons_append, ← ih hj]
    · split at h
      · rename_i hd
        obtain rfl := Option.some.inj h
        rw [hd]
        rfl
      · exact nomatch h

/-! ## 4. Trimming a text made of parts -/

theorem dropWhile_append_head {p : Char → Bool} {b : Text} (h : ∀ ch ∈ b.head?, p ch = false)
    (a : Text) : (a ++ b).dropWhile p = a.dropWhile p ++ b := by
  induction a with
  | nil =>
    cases b with
    | nil => rfl
    | cons ch b => simp [h ch rfl]
  | cons ch a ih =>
    rw [List.cons_append, List.dropWhile_cons, List.dropWhile_cons, ih]
    split <;> rfl

theorem rdropWhile_append_last {p : Char → Bool} {a : Text} (h : ∀ ch ∈ a.getLast?, p ch = false)
    (b : Text) : (a ++ b).rdropWhile p = a ++ b.rdropWhile p := by
  have hhead : ∀ ch ∈ a.reverse.head?, p ch = false := by
    rwa [List.head?_reverse]
  rw [List.rdropWhile, List.reverse_append, dropWhile_append_head hhead, List.reverse_append,
    List.reverse_reverse, List.rdropWhile]

/-- **Trimming around a word.** -/
theorem trim_around {word : Text} (hne : word ≠ []) (hword : ∀ ch ∈ word, isWhitespace ch = false)
    (front back : Text) :
    trim (front ++ (word ++ back)) =
      front.dropWhile isWhitespace ++ (word ++ back.rdropWhile isWhitespace) := by
  have hhead : ∀ ch ∈ (word ++ back).head?, isWhitespace ch = false := by
    intro ch hch
    rw [List.head?_append_of_ne_nil _ hne] at hch
    exact hword ch (List.mem_of_head? hch)
  have hlast : ∀ ch ∈ (front.dropWhile isWhitespace ++ word).getLast?, isWhitespace ch = false := by
    intro ch hch
    rw [List.getLast?_append_of_ne_nil _ hne] at hch
    exact hword ch (List.mem_of_getLast? hch)
  rw [trim, dropWhile_append_head hhead, ← List.append_assoc, rdropWhile_append_last hlast,
    List.append_assoc]

/-- What is trimmed away is white space. -/
theorem exists_trim (t : Text) : ∃ front back, t = front ++ (trim t ++ back) ∧
    (∀ ch ∈ front, isWhitespace ch = true) ∧ ∀ ch ∈ back, isWhitespace ch = true := by
  refine ⟨t.takeWhile isWhitespace, (t.dropWhile isWhitespace).rtakeWhile isWhitespace, ?_, ?_, ?_⟩
  · rw [trim, List.rdropWhile_append_rtakeWhile, List.takeWhile_append_dropWhile]
  · exact fun ch hch => List.mem_takeWhile_imp hch
  · exact fun ch hch => List.mem_rtakeWhile_imp hch

theorem rdropWhile_append_all {p : Char → Bool} {b : Text} (h : ∀ ch ∈ b, p ch = true) (a : Text) :
    (a ++ b).rdropWhile p = a.rdropWhile p := by
  have hrev : ∀ ch ∈ b.reverse, p ch = true := fun ch hch => h ch (List.mem_reverse.mp hch)
  rw [List.rdropWhile, List.reverse_append, List.dropWhile_append_of_pos hrev, List.rdropWhile]

/-- White space around a text does not count. -/
theorem trim_surrounded {front back : Text} (hfront : ∀ ch ∈ front, isWhitespace ch = true)
    (hback : ∀ ch ∈ back, isWhitespace ch = true) (t : Text) :
    trim (front ++ (t ++ back)) = trim t := by
  rw [trim, List.dropWhile_append_of_pos hfront, List.dropWhile_append]
  split
  · rename_i hempty
    rw [List.isEmpty_iff] at hempty
    rw [List.dropWhile_eq_nil_iff.mpr hback, trim, hempty]
  · rw [rdropWhile_append_all hback, trim]

/-- A text without white space. -/
theorem trim_of_printable {t : Text} (h : ∀ ch ∈ t, isWhitespace ch = false) : trim t = t := by
  by_cases hne : t = []
  · rw [hne]
    rfl
  · have haround := trim_around hne h [] []
    simpa using haround

end Rust
