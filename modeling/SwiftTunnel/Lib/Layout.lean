/-
# What stands where in a buffer

`HoldsAt bs i xs` says that the list `xs` stands in `bs` from place `i` on, all of it inside.  A
format is described by what it writes, a parser reads at places, and `HoldsAt` is what the two
have in common: it takes apart along `++` and `::` (`holdsAt_append`, `holdsAt_cons`), and it
survives when more is written behind (`HoldsAt.append`).
-/
import SwiftTunnel.Lib.Slice

namespace Rust

/-! ## 1. Lists in a list -/

section

variable {α : Type}

/-- The list stands in the buffer from a place on. -/
def HoldsAt (bs : List α) (i : Nat) (xs : List α) : Prop := i ≤ bs.length ∧ xs <+: bs.drop i

theorem holdsAt_nil {bs : List α} {i : Nat} : HoldsAt bs i [] ↔ i ≤ bs.length := by
  simp [HoldsAt]

theorem holdsAt_zero {bs xs : List α} : HoldsAt bs 0 xs ↔ xs <+: bs := by
  simp [HoldsAt]

/-- It stands inside. -/
theorem HoldsAt.le_length {bs xs : List α} {i : Nat} (h : HoldsAt bs i xs) :
    i + xs.length ≤ bs.length := by
  obtain ⟨hi, hpre⟩ := h
  have hle := hpre.length_le
  rw [List.length_drop] at hle
  omega

/-- **By position**: it is the part of the buffer that has its length. -/
theorem holdsAt_iff {bs xs : List α} {i : Nat} : HoldsAt bs i xs ↔
    i + xs.length ≤ bs.length ∧ (bs.take (i + xs.length)).drop i = xs := by
  constructor
  · intro h
    have hpre := List.prefix_iff_eq_take.mp h.2
    refine ⟨h.le_length, ?_⟩
    rw [List.drop_take, Nat.add_sub_cancel_left]
    exact hpre.symm
  · rintro ⟨hle, heq⟩
    refine ⟨by omega, ?_⟩
    rw [List.drop_take, Nat.add_sub_cancel_left] at heq
    exact List.prefix_iff_eq_take.mpr heq.symm

/-- Something that stands behind a place is inside by itself. -/
theorem holdsAt_of_ne_nil {bs xs : List α} (h : xs ≠ []) {i : Nat} :
    HoldsAt bs i xs ↔ xs <+: bs.drop i := by
  refine ⟨And.right, fun hpre => ⟨?_, hpre⟩⟩
  by_contra hlt
  rw [List.drop_of_length_le (by omega)] at hpre
  exact h (List.prefix_nil.mp hpre)

/-- **Two parts stand one behind the other.** -/
theorem holdsAt_append {bs xs ys : List α} {i : Nat} :
    HoldsAt bs i (xs ++ ys) ↔ HoldsAt bs i xs ∧ HoldsAt bs (i + xs.length) ys := by
  constructor
  · intro h
    have hle := h.le_length
    obtain ⟨hi, rest, hrest⟩ := h
    rw [List.append_assoc] at hrest
    refine ⟨⟨hi, _, hrest⟩, by simp at hle; omega, rest, ?_⟩
    rw [← List.drop_drop, ← hrest, List.drop_left]
  · rintro ⟨⟨hi, rest, hrest⟩, -, hys⟩
    rw [← List.drop_drop, ← hrest, List.drop_left] at hys
    obtain ⟨rest', rfl⟩ := hys
    exact ⟨hi, rest', by rw [← hrest, List.append_assoc]⟩

theorem holdsAt_cons {bs ys : List α} {y : α} {i : Nat} :
    HoldsAt bs i (y :: ys) ↔ bs[i]? = some y ∧ HoldsAt bs (i + 1) ys := by
  rw [← List.singleton_append, holdsAt_append]
  refine and_congr_left fun _ => ?_
  constructor
  · rintro ⟨-, rest, hrest⟩
    have hhead := congrArg List.head? hrest
    rw [List.head?_drop] at hhead
    exact hhead.symm
  · intro h
    obtain ⟨hlt, rfl⟩ := List.getElem?_eq_some_iff.mp h
    exact ⟨Nat.le_of_lt hlt, _, (List.drop_eq_getElem_cons hlt).symm⟩

theorem holdsAt_singleton {bs : List α} {y : α} {i : Nat} : HoldsAt bs i [y] ↔ bs[i]? = some y := by
  rw [holdsAt_cons, holdsAt_nil]
  refine ⟨And.left, fun h => ⟨h, ?_⟩⟩
  obtain ⟨hlt, -⟩ := List.getElem?_eq_some_iff.mp h
  exact hlt

/-- What is written behind does not matter. -/
theorem HoldsAt.append {bs xs : List α} {i : Nat} (h : HoldsAt bs i xs) (more : List α) :
    HoldsAt (bs ++ more) i xs := by
  obtain ⟨hi, hpre⟩ := h
  refine ⟨by simp; omega, ?_⟩
  rw [List.drop_append_of_le_length hi]
  exact hpre.trans (List.prefix_append _ _)

theorem HoldsAt.take {bs xs : List α} {i n : Nat} (h : HoldsAt bs i xs) (hn : i + xs.length ≤ n) :
    HoldsAt (bs.take n) i xs := by
  obtain ⟨hle, heq⟩ := holdsAt_iff.mp h
  rw [holdsAt_iff, List.take_take, Nat.min_eq_left hn, List.length_take]
  exact ⟨by omega, heq⟩

/-- At one place stands one list of a length. -/
theorem HoldsAt.unique {bs xs ys : List α} {i : Nat} (hx : HoldsAt bs i xs) (hy : HoldsAt bs i ys)
    (hlen : xs.length = ys.length) : xs = ys := by
  rw [← (holdsAt_iff.mp hx).2, ← (holdsAt_iff.mp hy).2, hlen]

end

/-! ## 2. Bytes and words -/

theorem holdsAt_byte {bs ys : Bytes} {b : UInt8} {i : Nat} :
    HoldsAt bs i (b :: ys) ↔ i < bs.length ∧ byteAt bs i = b ∧ HoldsAt bs (i + 1) ys := by
  rw [holdsAt_cons, ← and_assoc]
  refine and_congr_left fun _ => ?_
  constructor
  · intro h
    obtain ⟨hlt, rfl⟩ := List.getElem?_eq_some_iff.mp h
    exact ⟨hlt, by simp [byteAt, hlt]⟩
  · rintro ⟨hlt, rfl⟩
    simp [byteAt, hlt]

/-- A word in big-endian order. -/
def wordBytes (x : UInt16) : Bytes := [hiByte x, x.toUInt8]

@[simp] theorem length_wordBytes (x : UInt16) : (wordBytes x).length = 2 := rfl

theorem be16_eq_iff {hi lo : UInt8} {x : UInt16} :
    be16 hi lo = x ↔ hi = hiByte x ∧ lo = x.toUInt8 := by
  constructor
  · intro h
    rw [← be16_hiByte x] at h
    exact be16_inj h
  · rintro ⟨rfl, rfl⟩
    exact be16_hiByte x

theorem wordBytes_inj {x y : UInt16} : wordBytes x = wordBytes y ↔ x = y := by
  refine ⟨fun h => ?_, congrArg wordBytes⟩
  simp only [wordBytes, List.cons.injEq, and_true] at h
  rw [← be16_hiByte x, ← be16_hiByte y, h.1, h.2]

theorem holdsAt_word {bs ys : Bytes} {x : UInt16} {i : Nat} :
    HoldsAt bs i (wordBytes x ++ ys) ↔
      i + 1 < bs.length ∧ be16At bs i = x ∧ HoldsAt bs (i + 2) ys := by
  rw [wordBytes, List.cons_append, List.singleton_append, holdsAt_byte, holdsAt_byte, be16At,
    be16_eq_iff]
  constructor
  · rintro ⟨-, hhi, hlt, hlo, h⟩
    exact ⟨hlt, ⟨hhi, hlo⟩, h⟩
  · rintro ⟨hlt, ⟨hhi, hlo⟩, h⟩
    exact ⟨by omega, hhi, hlt, hlo, h⟩

theorem holdsAt_wordBytes {bs : Bytes} {x : UInt16} {i : Nat} :
    HoldsAt bs i (wordBytes x) ↔ i + 1 < bs.length ∧ be16At bs i = x := by
  rw [← List.append_nil (wordBytes x), holdsAt_word, holdsAt_nil]
  exact ⟨fun ⟨hlt, hx, _⟩ => ⟨hlt, hx⟩, fun ⟨hlt, hx⟩ => ⟨hlt, hx, hlt⟩⟩

/-! ## 3. Texts -/

/-- **Decoding inverts encoding**, and what decodes is an encoding. -/
theorem fromUtf8_iff {bs : Bytes} {s : String} :
    fromUtf8 bs = some s ↔ s.toUTF8.data.toList = bs := by
  rw [fromUtf8, String.fromUTF8?]
  constructor
  · intro h
    split at h
    · obtain rfl := Option.some.inj h
      rfl
    · cases h
  · rintro rfl
    have hvalid : ByteArray.IsValidUTF8 ⟨s.toUTF8.data.toList.toArray⟩ := s.isValidUTF8
    rw [dif_pos hvalid]
    rfl

/-- Each byte as the character that has it as its code. -/
def asciiText (bs : Bytes) : String := String.ofList (bs.map (fun b => Char.ofNat b.toNat))

theorem toNat_val_ofNat_toNat (b : UInt8) : (Char.ofNat b.toNat).val.toNat = b.toNat := by
  have hb := b.toNat_lt
  have hvalid : b.toNat.isValidChar := .inl (by omega)
  rw [Char.ofNat, dif_pos hvalid]
  rfl

theorem utf8EncodeChar_ascii {b : UInt8} (h : b.toNat < 128) :
    String.utf8EncodeChar (Char.ofNat b.toNat) = [b] := by
  rw [String.utf8EncodeChar, toNat_val_ofNat_toNat, if_pos (by omega), UInt8.ofNat_toNat]

/-- **ASCII is UTF-8**, one byte a character. -/
theorem fromUtf8_ascii {bs : Bytes} (h : ∀ b ∈ bs, b.toNat < 128) :
    fromUtf8 bs = some (asciiText bs) := by
  rw [fromUtf8_iff]
  change ((String.ofList _).toByteArray).data.toList = bs
  rw [String.toByteArray_ofList, List.utf8Encode, List.data_toByteArray, List.toList_toArray,
    List.flatMap_map]
  induction bs with
  | nil => rfl
  | cons b bs ih =>
    rw [List.flatMap_cons, utf8EncodeChar_ascii (h b (by simp)), List.singleton_append,
      ih (fun b hb => h b (List.mem_cons_of_mem _ hb))]

end Rust
