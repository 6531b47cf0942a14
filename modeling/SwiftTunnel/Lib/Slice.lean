/-
# Byte slices, and what a panic does to a function that indexes them

A Rust slice index either reads a byte or panics, and a build with `panic = "abort"` ends the
process there.  `Checked` keeps the two outcomes apart: a function that indexes a slice returns
`.ok` with its result, or `.error` with the fault that stopped it.  Nothing here rounds an
out-of-range read to a default, so a theorem `f bs = .ok r` says both that `f` does not panic on
`bs` and what it returns.

`byteAt` is the total reading of the same byte, used by specifications, where the bound is
already part of what is said; `be16At` is the same for a word.  The lemmas say how reading goes
through `take`, `drop` and `++`, and what stands in a buffer after a word has been written
(`put16`): the word at its place, and everything else as it was.
-/
import Mathlib.Data.List.Basic

namespace Rust

/-! ## 1. Faults -/

/-- What ends a function early without a return value. -/
inductive Fault where
  /-- A slice index or a slice range out of bounds. -/
  | outOfBounds
  /-- An integer operation whose result does not fit its type. -/
  | overflow
  /-- A division or a remainder by zero. -/
  | divisionByZero
  /-- A loop of the model ran out of fuel.  Not a fault of the code: a function that returns is
  proved to avoid it. -/
  | outOfFuel
  deriving DecidableEq, Repr

/-- A computation that may panic. -/
abbrev Checked (α : Type) := Except Fault α

/-- A part that returns is followed by the rest. -/
theorem ok_bind {α β : Type} (a : α) (f : α → Checked β) : (Except.ok a >>= f) = f a := rfl

abbrev Bytes := List UInt8

/-! ## 2. Reading bytes -/

/-- The expression `bs[i]`. -/
def index (bs : Bytes) (i : Nat) : Checked UInt8 :=
  match bs[i]? with
  | some b => .ok b
  | none => .error .outOfBounds

/-- The byte at `i`, or zero past the end. -/
def byteAt (bs : Bytes) (i : Nat) : UInt8 := bs.getD i 0

@[simp] theorem index_of_lt {bs : Bytes} {i : Nat} (h : i < bs.length) :
    index bs i = .ok (byteAt bs i) := by
  simp [index, byteAt, List.getElem?_eq_getElem h]

/-- Within a part of the bytes, reading it is reading them. -/
theorem index_take {bs : Bytes} {n i : Nat} (h : i < n) : index (bs.take n) i = index bs i := by
  simp [index, List.getElem?_take_of_lt h]

/-- Reading in `&bs[n..]`. -/
theorem byteAt_drop (bs : Bytes) (n i : Nat) : byteAt (bs.drop n) i = byteAt bs (n + i) := by
  simp [byteAt, List.getElem?_drop]

/-- Reading in `&bs[..n]`. -/
theorem byteAt_take {bs : Bytes} {n i : Nat} (h : i < n) : byteAt (bs.take n) i = byteAt bs i := by
  simp [byteAt, List.getElem?_take_of_lt h]

theorem byteAt_append {data : Bytes} {i : Nat} (h : i < data.length) (more : Bytes) :
    byteAt (data ++ more) i = byteAt data i := by
  simp [byteAt, List.getElem?_append_left h]

/-- `u16::from_be_bytes([hi, lo])`. -/
def be16 (hi lo : UInt8) : UInt16 := hi.toUInt16 * 256 + lo.toUInt16

theorem be16_toNat (hi lo : UInt8) : (be16 hi lo).toNat = hi.toNat * 256 + lo.toNat := by
  have h1 := hi.toNat_lt
  have h2 := lo.toNat_lt
  have h3 : (256 : UInt16).toNat = 256 := rfl
  simp only [be16, UInt16.toNat_add, UInt16.toNat_mul, UInt8.toNat_toUInt16, h3]
  omega

/-- The big-endian 16-bit word whose first byte stands at `i`. -/
def be16At (bs : Bytes) (i : Nat) : UInt16 := be16 (byteAt bs i) (byteAt bs (i + 1))

theorem be16At_drop (bs : Bytes) (n i : Nat) : be16At (bs.drop n) i = be16At bs (n + i) := by
  simp only [be16At, byteAt_drop, Nat.add_assoc]

theorem be16At_take {bs : Bytes} {n i : Nat} (h : i + 1 < n) :
    be16At (bs.take n) i = be16At bs i := by
  rw [be16At, be16At, byteAt_take (by omega), byteAt_take h]

theorem be16At_append {data : Bytes} {i : Nat} (h : i + 1 < data.length) (more : Bytes) :
    be16At (data ++ more) i = be16At data i := by
  rw [be16At, be16At, byteAt_append (by omega), byteAt_append h]

/-- `u16::from_be_bytes([bs[i], bs[i + 1]])`. -/
def indexBe16 (bs : Bytes) (i : Nat) : Checked UInt16 := do
  let hi ← index bs i
  let lo ← index bs (i + 1)
  return be16 hi lo

@[simp] theorem indexBe16_of_lt {bs : Bytes} {i : Nat} (h : i + 1 < bs.length) :
    indexBe16 bs i = .ok (be16At bs i) := by
  have h0 : i < bs.length := by omega
  simp only [indexBe16, index_of_lt h0, index_of_lt h]
  rfl

/-- `(x >> 8) as u8`: with `x as u8`, the two bytes of `u16::to_be_bytes`. -/
def hiByte (x : UInt16) : UInt8 := (x >>> 8).toUInt8

theorem be16_hiByte (x : UInt16) : be16 (hiByte x) x.toUInt8 = x := by
  have hx := x.toNat_lt
  have h8 : (8 : UInt16).toNat % 16 = 8 := rfl
  have h2 : 2 ^ 8 = 256 := rfl
  refine UInt16.toNat_inj.mp ?_
  rw [be16_toNat, hiByte, UInt16.toNat_toUInt8, UInt16.toNat_toUInt8, UInt16.toNat_shiftRight, h8,
    Nat.shiftRight_eq_div_pow, h2]
  omega

/-! ## 3. Ranges -/

/-- `bs.get(a..b)`: the range when it is well formed and in bounds. -/
def getRange (bs : Bytes) (a b : Nat) : Option Bytes :=
  if a ≤ b ∧ b ≤ bs.length then some ((bs.take b).drop a) else none

/-- `&bs[a..b]`. -/
def slice (bs : Bytes) (a b : Nat) : Checked Bytes :=
  match getRange bs a b with
  | some out => .ok out
  | none => .error .outOfBounds

theorem slice_of_le {bs : Bytes} {a b : Nat} (hab : a ≤ b) (hb : b ≤ bs.length) :
    slice bs a b = .ok ((bs.take b).drop a) := by
  rw [slice, getRange, if_pos ⟨hab, hb⟩]

theorem slice_take {bs : Bytes} {n a b : Nat} (hb : b ≤ n) (hn : n ≤ bs.length) :
    slice (bs.take n) a b = slice bs a b := by
  have hlen : b ≤ (bs.take n).length ↔ b ≤ bs.length := by
    rw [List.length_take]
    omega
  simp only [slice, getRange, hlen, List.take_take, Nat.min_eq_left hb]

/-- `std::str::from_utf8(bs).ok()`. -/
def fromUtf8 (bs : Bytes) : Option String := String.fromUTF8? ⟨bs.toArray⟩

/-! ## 4. Writing bytes -/

/-- `bs[i] = b`. -/
def setIndex (bs : Bytes) (i : Nat) (b : UInt8) : Checked Bytes :=
  if i < bs.length then .ok (bs.set i b) else .error .outOfBounds

/-- `bs[i] = (x >> 8) as u8; bs[i + 1] = (x & 0xFF) as u8`. -/
def setBe16 (bs : Bytes) (i : Nat) (x : UInt16) : Checked Bytes := do
  let bs ← setIndex bs i (hiByte x)
  setIndex bs (i + 1) x.toUInt8

/-- The bytes with the word at `i` replaced. -/
def put16 (bs : Bytes) (i : Nat) (x : UInt16) : Bytes := (bs.set i (hiByte x)).set (i + 1) x.toUInt8

theorem setBe16_of_lt {bs : Bytes} {i : Nat} (h : i + 1 < bs.length) (x : UInt16) :
    setBe16 bs i x = .ok (put16 bs i x) := by
  have h0 : i < bs.length := by omega
  have h1 : i + 1 < (bs.set i (hiByte x)).length := by rwa [List.length_set]
  simp only [setBe16, setIndex, if_pos h0]
  exact if_pos h1

@[simp] theorem length_put16 (bs : Bytes) (i : Nat) (x : UInt16) :
    (put16 bs i x).length = bs.length := by
  simp [put16]

/-- Other bytes stay. -/
theorem byteAt_put16_of_ne {bs : Bytes} {i j : Nat} {x : UInt16} (h : j ≠ i) (h1 : j ≠ i + 1) :
    byteAt (put16 bs i x) j = byteAt bs j := by
  simp [byteAt, put16, List.getElem?_set_ne h.symm, List.getElem?_set_ne h1.symm]

theorem be16At_put16 {bs : Bytes} {i : Nat} (h : i + 1 < bs.length) (x : UInt16) :
    be16At (put16 bs i x) i = x := by
  have h0 : i < bs.length := by omega
  have hhi : byteAt (put16 bs i x) i = hiByte x := by
    simp [byteAt, put16, h0]
  have hlo : byteAt (put16 bs i x) (i + 1) = x.toUInt8 := by
    simp [byteAt, put16, h]
  rw [be16At, hhi, hlo, be16_hiByte]

/-- The last write to a word is the one that counts. -/
@[simp] theorem put16_put16 (bs : Bytes) (i : Nat) (x y : UInt16) :
    put16 (put16 bs i x) i y = put16 bs i y := by
  simp only [put16]
  rw [List.set_comm _ _ (show i + 1 ≠ i by omega), List.set_set, List.set_set]

theorem put16_append {xs : Bytes} {i : Nat} (h : i + 1 < xs.length) (x : UInt16) (ys : Bytes) :
    put16 (xs ++ ys) i x = put16 xs i x ++ ys := by
  rw [put16, put16, List.set_append_left _ _ (by omega),
    List.set_append_left _ _ (by rwa [List.length_set])]

/-- Writes at different places commute. -/
theorem put16_comm {bs : Bytes} {i j : Nat} {x y : UInt16} (h : i + 2 ≤ j ∨ j + 2 ≤ i) :
    put16 (put16 bs i x) j y = put16 (put16 bs j y) i x := by
  simp only [put16]
  rw [List.set_comm _ _ (show i + 1 ≠ j by omega), List.set_comm _ _ (show i + 1 ≠ j + 1 by omega),
    List.set_comm _ _ (show i ≠ j by omega), List.set_comm _ _ (show i ≠ j + 1 by omega)]

theorem take_put16 (bs : Bytes) (n i : Nat) (x : UInt16) :
    (put16 bs i x).take n = put16 (bs.take n) i x := by
  simp only [put16, List.take_set]

theorem take_put16_of_le {bs : Bytes} {n i : Nat} {x : UInt16} (h : n ≤ i) :
    (put16 bs i x).take n = bs.take n := by
  rw [put16, List.take_set_of_le (by omega), List.take_set_of_le h]

theorem drop_put16 (bs : Bytes) (n i : Nat) (x : UInt16) :
    (put16 bs (n + i) x).drop n = put16 (bs.drop n) i x := by
  have h0 : ¬ n + i < n := by omega
  have h1 : ¬ n + i + 1 < n := by omega
  have e0 : n + i - n = i := by omega
  have e1 : n + i + 1 - n = i + 1 := by omega
  simp only [put16, List.drop_set, if_neg h0, if_neg h1, e0, e1]

theorem drop_put16_of_le {bs : Bytes} {n i : Nat} {x : UInt16} (h : i + 2 ≤ n) :
    (put16 bs i x).drop n = bs.drop n := by
  rw [put16, List.drop_set_of_lt (by omega), List.drop_set_of_lt (by omega)]

theorem be16_inj {hi lo hi' lo' : UInt8} (h : be16 hi lo = be16 hi' lo') : hi = hi' ∧ lo = lo' := by
  have h' := congrArg UInt16.toNat h
  rw [be16_toNat, be16_toNat] at h'
  have h1 := lo.toNat_lt
  have h2 := lo'.toNat_lt
  exact ⟨UInt8.toNat_inj.mp (by omega), UInt8.toNat_inj.mp (by omega)⟩

end Rust
