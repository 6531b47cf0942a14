/-
# Patterns in which a star stands for any text

A pattern is a list of letters, one of which, the star, may be replaced by any list.  Cut at its
stars a pattern is a list of literal parts, and a text matches when the parts stand in it one
after the other with gaps between them (`gapped_splitOn`).

The parts need not be looked for with backtracking.  After a star a longer text matches whenever
a shorter one does (`Floating.prepend`), so the first place where a part occurs is as good as any
other (`floating_leftmost`).  The first part and the last one have no choice: they stand at the two
ends (`splitOn_of_mem`, `floating_singleton`).

Letters are of any type, so nothing here is about characters.
-/
import Mathlib.Data.List.Basic

namespace Wildcard

variable {α : Type}

/-! ## 1. Patterns -/

/-- The text is the pattern with each star replaced by some text. -/
inductive Expands (star : α) : List α → List α → Prop
  | nil : Expands star [] []
  | letter {c : α} {pattern text : List α} (hc : c ≠ star) (h : Expands star pattern text) :
      Expands star (c :: pattern) (c :: text)
  | fill {pattern text : List α} (gap : List α) (h : Expands star pattern text) :
      Expands star (star :: pattern) (gap ++ text)

@[simp] theorem expands_nil {star : α} {text : List α} : Expands star [] text ↔ text = [] := by
  constructor
  · rintro ⟨⟩
    rfl
  · rintro rfl
    exact .nil

theorem expands_letter {star c : α} (hc : c ≠ star) {pattern text : List α} :
    Expands star (c :: pattern) text ↔ ∃ rest, text = c :: rest ∧ Expands star pattern rest := by
  constructor
  · intro h
    cases h with
    | letter _ h => exact ⟨_, rfl, h⟩
    | fill gap h => exact absurd rfl hc
  · rintro ⟨rest, rfl, h⟩
    exact .letter hc h

theorem expands_star {star : α} {pattern text : List α} :
    Expands star (star :: pattern) text ↔
      ∃ gap rest, text = gap ++ rest ∧ Expands star pattern rest := by
  constructor
  · intro h
    cases h with
    | letter hc h => exact absurd rfl hc
    | fill gap h => exact ⟨gap, _, rfl, h⟩
  · rintro ⟨gap, rest, rfl, h⟩
    exact .fill gap h

/-- A pattern without a star is matched by itself alone. -/
theorem expands_of_notMem {star : α} {pattern : List α} (h : star ∉ pattern) {text : List α} :
    Expands star pattern text ↔ text = pattern := by
  induction pattern generalizing text with
  | nil => simp
  | cons c pattern ih =>
    obtain ⟨hc, hrest⟩ := not_or.mp (mt List.mem_cons.mpr h)
    rw [expands_letter (Ne.symm hc)]
    simp [ih hrest]

/-! ## 2. Parts with gaps between them -/

/-- The text begins with the first part and ends with the last one, and what stands between two
parts is arbitrary. -/
def Gapped : List (List α) → List α → Prop
  | [], _ => False
  | [part], text => text = part
  | part :: next :: parts, text =>
    ∃ gap rest, text = part ++ (gap ++ rest) ∧ Gapped (next :: parts) rest

/-- The same after a star: the first part may float. -/
def Floating (parts : List (List α)) (text : List α) : Prop :=
  ∃ gap rest, text = gap ++ rest ∧ Gapped parts rest

@[simp] theorem gapped_singleton {part text : List α} : Gapped [part] text ↔ text = part := Iff.rfl

theorem gapped_cons {part : List α} {parts : List (List α)} (hparts : parts ≠ []) {text : List α} :
    Gapped (part :: parts) text ↔ ∃ rest, text = part ++ rest ∧ Floating parts rest := by
  obtain ⟨next, parts, rfl⟩ := List.exists_cons_of_ne_nil hparts
  constructor
  · rintro ⟨gap, rest, rfl, h⟩
    exact ⟨gap ++ rest, rfl, gap, rest, rfl, h⟩
  · rintro ⟨_, rfl, gap, rest, rfl, h⟩
    exact ⟨gap, rest, rfl, h⟩

/-- The same by position: the others float in what the first part leaves. -/
theorem gapped_cons_drop {part : List α} {parts : List (List α)} (hparts : parts ≠ [])
    {text : List α} : Gapped (part :: parts) text ↔
      part <+: text ∧ Floating parts (text.drop part.length) := by
  rw [gapped_cons hparts]
  constructor
  · rintro ⟨rest, rfl, h⟩
    rw [List.drop_left]
    exact ⟨⟨rest, rfl⟩, h⟩
  · rintro ⟨⟨rest, rfl⟩, h⟩
    rw [List.drop_left] at h
    exact ⟨rest, rfl, h⟩

/-- A letter in front of the text is one in front of its first part. -/
theorem gapped_modifyHead {c : α} {parts : List (List α)} {text : List α} :
    Gapped (parts.modifyHead (c :: ·)) text ↔ ∃ rest, text = c :: rest ∧ Gapped parts rest := by
  match parts with
  | [] => simp [Gapped]
  | [part] => simp
  | part :: next :: parts =>
    constructor
    · rintro ⟨gap, rest, rfl, h⟩
      exact ⟨part ++ (gap ++ rest), rfl, gap, rest, rfl, h⟩
    · rintro ⟨_, rfl, gap, rest, rfl, h⟩
      exact ⟨gap, rest, rfl, h⟩

/-- **A pattern is its parts with gaps between them.** -/
theorem gapped_splitOn [DecidableEq α] {star : α} {pattern text : List α} :
    Gapped (pattern.splitOn star) text ↔ Expands star pattern text := by
  induction pattern generalizing text with
  | nil => simp
  | cons c pattern ih =>
    have hne : pattern.splitOn star ≠ [] := List.splitOn_ne_nil star pattern
    rw [List.splitOn_eq_splitOnP, List.splitOnP_cons_eq_if_modifyHead,
      ← List.splitOn_eq_splitOnP]
    by_cases hc : c = star
    · subst hc
      rw [if_pos (beq_self_eq_true c), gapped_cons hne, expands_star]
      simp [Floating, ih]
    · rw [if_neg (by simpa using hc), gapped_modifyHead, expands_letter hc]
      simp [ih]

/-- A pattern with a star has a first part and another last one. -/
theorem splitOn_of_mem [DecidableEq α] {star : α} {pattern : List α} (h : star ∈ pattern) :
    ∃ first parts last, pattern.splitOn star = first :: (parts ++ [last]) := by
  obtain ⟨front, back, rfl⟩ := List.append_of_mem h
  obtain ⟨first, parts, hfront⟩ := List.exists_cons_of_ne_nil (List.splitOn_ne_nil star front)
  obtain ⟨parts', last, hback⟩ :=
    List.eq_nil_or_concat (back.splitOn star) |>.resolve_left (List.splitOn_ne_nil star back)
  refine ⟨first, parts ++ parts', last, ?_⟩
  rw [List.splitOn_append_cons_self, hfront, hback]
  simp

/-! ## 3. The first place is good enough -/

/-- More text in front of a floating part does no harm. -/
theorem Floating.prepend {parts : List (List α)} {text : List α} (h : Floating parts text)
    (front : List α) : Floating parts (front ++ text) := by
  obtain ⟨gap, rest, rfl, h⟩ := h
  exact ⟨front ++ gap, rest, (List.append_assoc _ _ _).symm, h⟩

/-- The last part is a suffix. -/
theorem floating_singleton {part text : List α} : Floating [part] text ↔ part <:+ text := by
  constructor
  · rintro ⟨gap, rest, rfl, rfl⟩
    exact ⟨gap, rfl⟩
  · rintro ⟨gap, rfl⟩
    exact ⟨gap, part, rfl, rfl⟩

/-- A floating part that is not the last occurs somewhere, and the rest floats behind it. -/
theorem floating_cons {part : List α} {parts : List (List α)} (hparts : parts ≠ [])
    {text : List α} : Floating (part :: parts) text ↔
      ∃ i, part <+: text.drop i ∧ Floating parts (text.drop (i + part.length)) := by
  constructor
  · rintro ⟨gap, _, rfl, h⟩
    obtain ⟨rest, rfl, hrest⟩ := (gapped_cons hparts).mp h
    refine ⟨gap.length, by simp, ?_⟩
    rw [← List.drop_drop, List.drop_left, List.drop_left]
    exact hrest
  · rintro ⟨i, ⟨rest, hrest⟩, h⟩
    have hdrop : text.drop (i + part.length) = rest := by
      rw [← List.drop_drop, ← hrest, List.drop_left]
    refine ⟨text.take i, part ++ rest, ?_, (gapped_cons hparts).mpr ⟨rest, rfl, hdrop ▸ h⟩⟩
    rw [hrest, List.take_append_drop]

/-- **The first place of a part is as good as any**: what follows a later place is a suffix of
what follows the first. -/
theorem floating_leftmost {part : List α} {parts : List (List α)} (hparts : parts ≠ [])
    {text : List α} {i : Nat} (hi : part <+: text.drop i)
    (hleft : ∀ j, part <+: text.drop j → i ≤ j) :
    Floating (part :: parts) text ↔ Floating parts (text.drop (i + part.length)) := by
  rw [floating_cons hparts]
  constructor
  · rintro ⟨j, hj, h⟩
    have hle : i + part.length ≤ j + part.length := Nat.add_le_add_right (hleft j hj) _
    have hsplit := List.take_append_drop (j + part.length - (i + part.length))
      (text.drop (i + part.length))
    rw [List.drop_drop, Nat.add_sub_cancel' hle] at hsplit
    rw [← hsplit]
    exact h.prepend _
  · intro h
    exact ⟨i, hi, h⟩

end Wildcard
