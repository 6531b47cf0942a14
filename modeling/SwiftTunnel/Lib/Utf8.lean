/-
# A text and its bytes

`str::as_bytes` and `str::from_utf8` are inverse (`fromUTF8?_bytes`), and a byte below 128 at the
front of a text is its first character (`head_bytes`): the other characters begin with a byte from
192 on.  No byte is above 247, so `0xff` separates texts (`ff_notMem_bytes`).
-/
import Mathlib.Data.List.Basic

namespace Rust

theorem toList_loop (b : ByteArray) : ∀ (n i : Nat) (r : List UInt8), b.size - i = n →
    ByteArray.toList.loop b i r = r.reverse ++ b.data.toList.drop i
  | 0, i, r, hn => by
    have hsize : b.data.toList.length = b.size := Array.length_toList
    rw [ByteArray.toList.loop, if_neg (by omega), List.drop_eq_nil_iff.mpr (by omega),
      List.append_nil]
  | n + 1, i, r, hn => by
    have hlt : i < b.size := by omega
    have hlt' : i < b.data.toList.length := by rwa [Array.length_toList]
    have hget : b.get! i = b.data.toList[i] := by
      rw [Array.getElem_toList]
      exact getElem!_pos b.data i hlt
    rw [ByteArray.toList.loop, if_pos hlt, toList_loop b n (i + 1) _ (by omega), hget,
      List.drop_eq_getElem_cons hlt', List.reverse_cons, List.append_assoc, List.singleton_append]

theorem byteArray_toList (b : ByteArray) : b.toList = b.data.toList := by
  rw [ByteArray.toList, toList_loop b b.size 0 [] rfl]
  rfl

/-- **The bytes of a text read back.** -/
theorem fromUTF8?_bytes (s : String) : String.fromUTF8? s.toUTF8.toList.toByteArray = some s := by
  have hbytes : s.toUTF8.toList.toByteArray = s.toUTF8 := by
    rw [byteArray_toList]
    exact ByteArray.ext (Array.toList_inj.mp List.toList_data_toByteArray)
  have hvalid : s.toUTF8.IsValidUTF8 := s.isValidUTF8
  rw [hbytes, String.fromUTF8?, dif_pos hvalid]
  rfl

theorem bytes_ofList (l : List Char) :
    (String.ofList l).toUTF8.toList = l.flatMap String.utf8EncodeChar := by
  rw [byteArray_toList]
  change ((String.ofList l).toByteArray).data.toList = _
  rw [String.toByteArray_ofList, List.utf8Encode, List.data_toByteArray, List.toList_toArray]

theorem head_utf8EncodeChar {c : Char} {b : UInt8} (h : (String.utf8EncodeChar c).head? = some b)
    (hb : b.toNat < 128) : c.toNat = b.toNat := by
  have hbyte : ∀ n : Nat, (UInt8.ofNat n).toNat = n % 256 := fun n => UInt8.toNat_ofNat
  rw [String.utf8EncodeChar] at h
  split at h
  · obtain rfl := Option.some.inj h
    rename_i hle
    rw [hbyte, Nat.mod_eq_of_lt (by omega)]
    rfl
  · -- the first byte of a longer character
    split at h
    · obtain rfl := Option.some.inj h
      rw [hbyte] at hb
      omega
    · split at h
      · obtain rfl := Option.some.inj h
        rw [hbyte] at hb
        omega
      · obtain rfl := Option.some.inj h
        rw [hbyte] at hb
        omega

/-- **An ASCII byte at the front is the first character.** -/
theorem head_bytes {c : Char} {l : List Char} {b : UInt8}
    (h : (String.ofList (c :: l)).toUTF8.toList.head? = some b) (hb : b.toNat < 128) :
    c.toNat = b.toNat := by
  refine head_utf8EncodeChar ?_ hb
  have hne : String.utf8EncodeChar c ≠ [] := by
    intro hnil
    have hlen := String.length_utf8EncodeChar c
    rw [hnil] at hlen
    exact Nat.ne_of_gt c.utf8Size_pos hlen.symm
  rwa [bytes_ofList, List.flatMap_cons, List.head?_append_of_ne_nil _ hne] at h

/-- No byte of a character is `0xff`. -/
theorem ff_notMem_utf8EncodeChar (c : Char) : (0xff : UInt8) ∉ String.utf8EncodeChar c := by
  have hbyte : ∀ n : Nat, n < 255 → (0xff : UInt8) ≠ UInt8.ofNat n := by
    intro n hn heq
    have hnat := congrArg UInt8.toNat heq
    rw [UInt8.toNat_ofNat', Nat.mod_eq_of_lt (by omega)] at hnat
    have hff : (0xff : UInt8).toNat = 255 := rfl
    omega
  rw [String.utf8EncodeChar]
  split
  · simp only [List.mem_singleton]
    exact hbyte _ (by omega)
  · -- the bytes of a longer character are a lead below 248 and tails below 192
    split
    · simp only [List.mem_cons, List.not_mem_nil, or_false, not_or]
      exact ⟨hbyte _ (by omega), hbyte _ (by omega)⟩
    · split
      · simp only [List.mem_cons, List.not_mem_nil, or_false, not_or]
        exact ⟨hbyte _ (by omega), hbyte _ (by omega), hbyte _ (by omega)⟩
      · simp only [List.mem_cons, List.not_mem_nil, or_false, not_or]
        exact ⟨hbyte _ (by omega), hbyte _ (by omega), hbyte _ (by omega), hbyte _ (by omega)⟩

/-- **No byte of a text is `0xff`.** -/
theorem ff_notMem_bytes (s : String) : (0xff : UInt8) ∉ s.toUTF8.toList := by
  obtain ⟨l, rfl⟩ : ∃ l, s = String.ofList l := ⟨s.toList, String.ofList_toList.symm⟩
  rw [bytes_ofList]
  intro hmem
  obtain ⟨c, -, hc⟩ := List.mem_flatMap.mp hmem
  exact ff_notMem_utf8EncodeChar c hc

/-- The bytes of a text determine it. -/
theorem bytes_injective : Function.Injective fun s : String => s.toUTF8.toList := by
  intro s t h
  have hs := fromUTF8?_bytes s
  rw [show s.toUTF8.toList = t.toUTF8.toList from h, fromUTF8?_bytes t] at hs
  exact (Option.some.inj hs).symm

end Rust
