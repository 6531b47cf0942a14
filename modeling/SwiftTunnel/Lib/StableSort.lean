/-
# Stable sorting

What a stable sort by a key promises of its result (`StableSorted`): the items of the list, in the
order of their keys, and those of one key in the order that the list has them.  Insertion sort
keeps the promise (`stableSorted_insertionSort`), and no two lists do (`StableSorted.unique`).
-/
import Mathlib.Data.List.Sort

namespace Rust

variable {α κ : Type} [LinearOrder κ] {f : α → κ} {l l' : List α}

/-- `l'` is `l`, sorted by the key `f`. -/
structure StableSorted (f : α → κ) (l l' : List α) : Prop where
  perm : l'.Perm l
  sorted : l'.Pairwise fun a b => f a ≤ f b
  ties : ∀ k, (l'.filter fun a => f a = k) = l.filter fun a => f a = k

theorem stableSorted_insertionSort (f : α → κ) (l : List α) :
    StableSorted f l (l.insertionSort fun a b => f a ≤ f b) where
  perm := List.perm_insertionSort _ l
  sorted := by
    have : Std.Total fun a b : α => f a ≤ f b := ⟨fun a b => le_total (f a) (f b)⟩
    have : IsTrans α fun a b => f a ≤ f b := ⟨fun _ _ _ => le_trans⟩
    exact List.pairwise_insertionSort _ l
  ties k := by
    -- the items of one key are a sorted part of the list, which the sort does not change
    have hclass : (l.filter fun a => f a = k).Pairwise fun a b => f a ≤ f b := by
      refine List.pairwise_of_forall_mem_list fun a ha b hb => ?_
      rw [List.mem_filter, decide_eq_true_eq] at ha hb
      rw [ha.2, hb.2]
    have hsub := List.sublist_insertionSort hclass List.filter_sublist
    have hkept := hsub.filter fun a => f a = k
    simp only [List.filter_filter, Bool.and_self] at hkept
    exact (hkept.eq_of_length ((List.perm_insertionSort _ l).filter _).length_eq.symm).symm

/-- **Only one list is the sorted one.** -/
theorem StableSorted.unique {l₁ l₂ : List α} (h₁ : StableSorted f l l₁) (h₂ : StableSorted f l l₂) :
    l₁ = l₂ := by
  have hties := fun k => (h₁.ties k).trans (h₂.ties k).symm
  have hperm := h₁.perm.trans h₂.perm.symm
  have hs₁ := h₁.sorted
  have hs₂ := h₂.sorted
  clear h₁ h₂
  induction l₁ generalizing l₂ with
  | nil => exact hperm.nil_eq
  | cons a l₁ ih =>
    cases l₂ with
    | nil => exact absurd hperm.length_eq (Nat.succ_ne_zero _)
    | cons b l₂ =>
      rw [List.pairwise_cons] at hs₁ hs₂
      have hab : f a ≤ f b := by
        rcases List.mem_cons.mp (hperm.mem_iff.mpr List.mem_cons_self) with rfl | hmem
        · exact le_rfl
        · exact hs₁.1 b hmem
      have hba : f b ≤ f a := by
        rcases List.mem_cons.mp (hperm.mem_iff.mp List.mem_cons_self) with rfl | hmem
        · exact le_rfl
        · exact hs₂.1 a hmem
      have hkey : f b = f a := le_antisymm hba hab
      -- the two heads are the first items of one key
      have hheads := hties (f a)
      rw [List.filter_cons_of_pos (by simp), List.filter_cons_of_pos (by simp [hkey])] at hheads
      obtain rfl := (List.cons.inj hheads).1
      refine congrArg (a :: ·) (ih (fun k => ?_) hperm.cons_inv hs₁.2 hs₂.2)
      have hk := hties k
      by_cases hak : f a = k
      · rw [List.filter_cons_of_pos (by simpa using hak),
          List.filter_cons_of_pos (by simpa using hak)] at hk
        exact (List.cons.inj hk).2
      · rwa [List.filter_cons_of_neg (by simpa using hak),
          List.filter_cons_of_neg (by simpa using hak)] at hk

end Rust
