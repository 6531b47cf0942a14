/-
# Tickets: who draws a number, and who uses it

Many parties draw consecutive numbers from one counter, in the order of the list `drawn`, and
use them later, in the order of the list `used`.  The number of a party is its place in `drawn`.
`lastNumber` is the number used last, 0 before the first.

* `sublist_iff_increasing`: the parties use their numbers in the order in which they drew them
  exactly when the numbers used go up.
* `lastNumber_le`, `increasing_concat`: the numbers used go up exactly when the one used last never
  falls; one direction for a list, the other for one number more.

A party draws once and uses its number once.  What they use it for does not matter here.
-/
import Mathlib.Data.List.Induction
import Mathlib.Data.List.Sort

universe u

variable {α : Type u} [DecidableEq α]

/-- The place at which a party drew, from 1; a party that has not drawn is behind the others. -/
def ticket (drawn : List α) (a : α) : Nat := drawn.idxOf a + 1

/-- The number used last. -/
def lastNumber (drawn used : List α) : Nat := (used.getLast?.map (ticket drawn)).getD 0

/-- The numbers used go up. -/
def Increasing (drawn used : List α) : Prop :=
  used.Pairwise fun a b => ticket drawn a < ticket drawn b

@[simp] theorem ticket_append {drawn : List α} {a : α} (h : a ∈ drawn) (more : List α) :
    ticket (drawn ++ more) a = ticket drawn a := by
  simp [ticket, List.idxOf_append_of_mem h]

theorem ticket_new {drawn : List α} {a : α} (h : a ∉ drawn) :
    ticket (drawn ++ [a]) a = drawn.length + 1 := by
  simp [ticket, List.idxOf_append_of_notMem h]

theorem ticket_le {drawn : List α} {a : α} (h : a ∈ drawn) : ticket drawn a ≤ drawn.length :=
  List.idxOf_lt_length_iff.mpr h

theorem ticket_inj {drawn : List α} {a b : α} (ha : a ∈ drawn)
    (h : ticket drawn a = ticket drawn b) : a = b :=
  (List.idxOf_inj ha).mp (Nat.succ.inj h)

@[simp] theorem lastNumber_nil (drawn : List α) : lastNumber drawn [] = 0 := rfl

@[simp] theorem lastNumber_concat (drawn used : List α) (a : α) :
    lastNumber drawn (used ++ [a]) = ticket drawn a := by
  simp [lastNumber]

/-- The numbers used do not change when others draw. -/
theorem lastNumber_append {drawn used : List α} (h : used ⊆ drawn) (more : List α) :
    lastNumber (drawn ++ more) used = lastNumber drawn used := by
  induction used using List.reverseRecOn with
  | nil => rfl
  | append_singleton used a _ =>
    rw [lastNumber_concat, lastNumber_concat, ticket_append (h (by simp))]

theorem lastNumber_le_length {drawn used : List α} (h : used ⊆ drawn) :
    lastNumber drawn used ≤ drawn.length := by
  induction used using List.reverseRecOn with
  | nil => simp
  | append_singleton used a _ =>
    rw [lastNumber_concat]
    exact ticket_le (h (by simp))

theorem increasing_drawn {drawn : List α} (h : drawn.Nodup) : Increasing drawn drawn := by
  rw [Increasing, List.pairwise_iff_getElem]
  intro i j hi hj hij
  rw [ticket, ticket, h.idxOf_getElem, h.idxOf_getElem]
  omega

/-- **Numbers go up exactly when they are used in the order in which they were drawn.** -/
theorem sublist_iff_increasing {drawn used : List α} (hdrawn : drawn.Nodup) (hused : used.Nodup)
    (h : used ⊆ drawn) : used.Sublist drawn ↔ Increasing drawn used := by
  constructor
  · intro hsub
    exact (increasing_drawn hdrawn).sublist hsub
  · intro hinc
    have : Std.Antisymm fun a b => ticket drawn a < ticket drawn b :=
      ⟨fun a b hab hba => absurd (hab.trans hba) (lt_irrefl _)⟩
    exact List.sublist_of_subperm_of_pairwise (List.subperm_of_subset hused h) hinc
      (increasing_drawn hdrawn)

/-- The number used last is no smaller than any used before it. -/
theorem ticket_le_lastNumber {drawn used : List α} (h : Increasing drawn used) {a : α}
    (ha : a ∈ used) : ticket drawn a ≤ lastNumber drawn used := by
  induction used using List.reverseRecOn with
  | nil => simp at ha
  | append_singleton used b _ =>
    rw [lastNumber_concat]
    obtain ⟨-, -, hlast⟩ := List.pairwise_append.mp h
    rcases List.mem_append.mp ha with ha | ha
    · exact (hlast a ha b (by simp)).le
    · simp only [List.mem_singleton] at ha
      rw [ha]

/-- Where the numbers go up, the one used last never falls. -/
theorem lastNumber_le {drawn used more : List α} (h : Increasing drawn (used ++ more)) :
    lastNumber drawn used ≤ lastNumber drawn (used ++ more) := by
  induction used using List.reverseRecOn with
  | nil => simp
  | append_singleton used a _ =>
    rw [lastNumber_concat]
    exact ticket_le_lastNumber h (by simp)

/-- A further number goes up when the one used last does not fall. -/
theorem increasing_concat {drawn used : List α} {a : α} (h : Increasing drawn used)
    (hused : used ⊆ drawn) (ha : a ∉ used)
    (hle : lastNumber drawn used ≤ ticket drawn a) : Increasing drawn (used ++ [a]) := by
  refine List.pairwise_append.mpr ⟨h, List.pairwise_singleton _ _, ?_⟩
  intro b hb c hc
  simp only [List.mem_singleton] at hc
  subst hc
  have hb' : ticket drawn b ≤ ticket drawn c := (ticket_le_lastNumber h hb).trans hle
  refine lt_of_le_of_ne hb' fun he => ha ?_
  rw [← ticket_inj (hused hb) he]
  exact hb
