/-
# Codes that tell where they end

A code is self-delimiting when what follows a code word never changes how it is read: of a buffer
that begins with a code word, the word and the rest are determined.  Codes of one length have this
(`selfDelimiting_of_length`), such codes go one behind the other (`SelfDelimiting.flatMap`), and a
buffer of one code word alone is read in one way (`SelfDelimiting.injective`).
-/
import SwiftTunnel.Lib.Layout

namespace Rust

universe u v

section

variable {α : Type u} {β : Type v} {P : α → Prop} {f : α → List β}

/-- On the values with `P`, the code word and what follows it can be told apart. -/
def SelfDelimiting (P : α → Prop) (f : α → List β) : Prop :=
  ∀ ⦃x y : α⦄ ⦃s t : List β⦄, P x → P y → f x ++ s = f y ++ t → x = y ∧ s = t

theorem SelfDelimiting.injective (h : SelfDelimiting P f) {x y : α} (hx : P x) (hy : P y)
    (heq : f x = f y) : x = y :=
  (h hx hy (congrArg (· ++ []) heq)).1

/-- Code words of one length. -/
theorem selfDelimiting_of_length {n : Nat} (hlen : ∀ x, P x → (f x).length = n)
    (hinj : ∀ x y, P x → P y → f x = f y → x = y) : SelfDelimiting P f := by
  intro x y s t hx hy heq
  obtain ⟨hword, hrest⟩ := List.append_inj heq ((hlen x hx).trans (hlen y hy).symm)
  exact ⟨hinj x y hx hy hword, hrest⟩

/-- **A known number of code words**, one behind the other. -/
theorem SelfDelimiting.flatMap (h : SelfDelimiting P f) (n : Nat) :
    SelfDelimiting (fun xs : List α => xs.length = n ∧ ∀ x ∈ xs, P x) fun xs => xs.flatMap f := by
  intro xs ys s t hxs hys heq
  induction xs generalizing ys n with
  | nil =>
    obtain ⟨rfl, -⟩ := hxs
    obtain rfl := List.length_eq_zero_iff.mp hys.1
    exact ⟨rfl, heq⟩
  | cons x xs ih =>
    obtain ⟨rfl, hxs⟩ := hxs
    obtain ⟨hlen, hys⟩ := hys
    cases ys with
    | nil => cases hlen
    | cons y ys =>
      obtain ⟨hx, hxs'⟩ := List.forall_mem_cons.mp hxs
      obtain ⟨hy, hys'⟩ := List.forall_mem_cons.mp hys
      simp only [List.flatMap_cons, List.append_assoc] at heq
      obtain ⟨rfl, hrest⟩ := h hx hy heq
      obtain ⟨rfl, hst⟩ := ih xs.length ⟨rfl, hxs'⟩ ⟨Nat.succ.inj hlen, hys'⟩ hrest
      exact ⟨rfl, hst⟩

end

theorem selfDelimiting_wordBytes : SelfDelimiting (fun _ : UInt16 => True) wordBytes := by
  refine selfDelimiting_of_length (n := 2) ?_ ?_
  · intro x _
    exact length_wordBytes x
  · intro x y _ _
    exact wordBytes_inj.mp

/-- Bytes behind their number, which is a byte. -/
def countedBytes (bs : Bytes) : Bytes := UInt8.ofNat bs.length :: bs

/-- **A number of bytes and the bytes.** -/
theorem selfDelimiting_countedBytes :
    SelfDelimiting (fun bs : Bytes => bs.length ≤ 255) countedBytes := by
  intro x y s t hx hy heq
  simp only [countedBytes, List.cons_append, List.cons.injEq] at heq
  obtain ⟨hcount, hrest⟩ := heq
  have hlen : x.length = y.length := by
    have hnat := congrArg UInt8.toNat hcount
    rwa [UInt8.toNat_ofNat_of_lt' (Nat.lt_succ_of_le hx),
      UInt8.toNat_ofNat_of_lt' (Nat.lt_succ_of_le hy)] at hnat
  exact List.append_inj hrest hlen

end Rust
