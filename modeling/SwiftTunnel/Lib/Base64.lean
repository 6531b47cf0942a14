/-
# Base64

The standard alphabet with padding: three bytes are four characters of six bits each, and `=` fills
the last four.  The decoder takes nothing but what an encoder writes: padding at the end only, and
no bits under it.

* `decode_encode`: what was encoded is read back.  Encoder and decoder go by groups of three bytes
  and four characters, so the induction does, with the two short groups at the end apart.
* `graphic_of_mem`, `mem_encode`: every character that is written is graphic, and one of the
  alphabet or the padding.

That the decoder accepts nothing else is how it is defined; it is not needed and not proved.
-/
import Mathlib.Data.List.Basic

namespace Rust
namespace Base64

def alphabet : List Char :=
  "ABCDEFGHIJKLMNOPQRSTUVWXYZabcdefghijklmnopqrstuvwxyz0123456789+/".toList

/-- The character of six bits. -/
def digit (n : Nat) : Char := alphabet.getD n '='

def value (ch : Char) : Option Nat := alphabet.findIdx? (· = ch)

theorem value_digit {n : Nat} (h : n < 64) : value (digit n) = some n := by
  have hall : ∀ n < 64, value (digit n) = some n := by decide +kernel
  exact hall n h

theorem digit_ne_pad {n : Nat} (h : n < 64) : digit n ≠ '=' := by
  have hall : ∀ n < 64, digit n ≠ '=' := by decide +kernel
  exact hall n h

theorem digit_mem (n : Nat) : digit n ∈ '=' :: alphabet := by
  rw [digit, List.getD_eq_getElem?_getD]
  cases hn : alphabet[n]? with
  | none => exact List.mem_cons_self
  | some ch => exact List.mem_cons_of_mem _ (List.mem_of_getElem? hn)

/-- The characters of base64 are graphic. -/
theorem graphic_of_mem {ch : Char} (h : ch ∈ '=' :: alphabet) :
    33 ≤ ch.toNat ∧ ch.toNat ≤ 126 := by
  have hall : (('=' :: alphabet).all fun ch => decide (33 ≤ ch.toNat ∧ ch.toNat ≤ 126)) = true := by
    decide
  exact of_decide_eq_true (List.all_eq_true.mp hall ch h)

def encode : List UInt8 → List Char
  | [] => []
  | [x] => [digit (x.toNat / 4), digit (x.toNat % 4 * 16), '=', '=']
  | [x, y] =>
    [digit (x.toNat / 4), digit (x.toNat % 4 * 16 + y.toNat / 16), digit (y.toNat % 16 * 4), '=']
  | x :: y :: z :: rest =>
    digit (x.toNat / 4) :: digit (x.toNat % 4 * 16 + y.toNat / 16) ::
      digit (y.toNat % 16 * 4 + z.toNat / 64) :: digit (z.toNat % 64) :: encode rest

/-- Four characters without padding. -/
def group (a b c d : Char) : Option (List UInt8) := do
  let i ← value a
  let j ← value b
  let k ← value c
  let l ← value d
  some [UInt8.ofNat (i * 4 + j / 16), UInt8.ofNat (j % 16 * 16 + k / 4),
    UInt8.ofNat (k % 4 * 64 + l)]

/-- The last four characters. -/
def lastGroup (a b c d : Char) : Option (List UInt8) :=
  if d ≠ '=' then group a b c d
  else do
    let i ← value a
    let j ← value b
    if c = '=' then
      if j % 16 = 0 then some [UInt8.ofNat (i * 4 + j / 16)] else none
    else
      let k ← value c
      if k % 4 = 0 then
        some [UInt8.ofNat (i * 4 + j / 16), UInt8.ofNat (j % 16 * 16 + k / 4)]
      else none

def decode : List Char → Option (List UInt8)
  | [] => some []
  | a :: b :: c :: d :: rest =>
    if rest = [] then lastGroup a b c d
    else do
      let bytes ← group a b c d
      let more ← decode rest
      some (bytes ++ more)
  | _ => none

/-! ## The round trip -/

/-- A byte put together from its bits. -/
theorem ofNat_toNat {n : Nat} {x : UInt8} (h : n = x.toNat) : UInt8.ofNat n = x := by
  rw [h, UInt8.ofNat_toNat]

theorem group_digits (x y z : UInt8) :
    group (digit (x.toNat / 4)) (digit (x.toNat % 4 * 16 + y.toNat / 16))
      (digit (y.toNat % 16 * 4 + z.toNat / 64)) (digit (z.toNat % 64)) = some [x, y, z] := by
  have hx := x.toNat_lt
  have hy := y.toNat_lt
  have hz := z.toNat_lt
  rw [group, value_digit (by omega), value_digit (by omega), value_digit (by omega),
    value_digit (by omega)]
  have h₁ : x.toNat / 4 * 4 + (x.toNat % 4 * 16 + y.toNat / 16) / 16 = x.toNat := by omega
  have h₂ : (x.toNat % 4 * 16 + y.toNat / 16) % 16 * 16 +
      (y.toNat % 16 * 4 + z.toNat / 64) / 4 = y.toNat := by omega
  have h₃ : (y.toNat % 16 * 4 + z.toNat / 64) % 4 * 64 + z.toNat % 64 = z.toNat := by omega
  simp only [Option.bind_eq_bind, Option.bind_some, ofNat_toNat h₁, ofNat_toNat h₂,
    ofNat_toNat h₃]

theorem lastGroup_one (x : UInt8) :
    lastGroup (digit (x.toNat / 4)) (digit (x.toNat % 4 * 16)) '=' '=' = some [x] := by
  have hx := x.toNat_lt
  have h₁ : x.toNat / 4 * 4 + x.toNat % 4 * 16 / 16 = x.toNat := by omega
  have hzero : x.toNat % 4 * 16 % 16 = 0 := by omega
  rw [lastGroup, if_neg (by simp), value_digit (by omega), value_digit (by omega)]
  simp only [Option.bind_eq_bind, Option.bind_some, if_true, hzero, ofNat_toNat h₁]

theorem lastGroup_two (x y : UInt8) :
    lastGroup (digit (x.toNat / 4)) (digit (x.toNat % 4 * 16 + y.toNat / 16))
      (digit (y.toNat % 16 * 4)) '=' = some [x, y] := by
  have hx := x.toNat_lt
  have hy := y.toNat_lt
  have h₁ : x.toNat / 4 * 4 + (x.toNat % 4 * 16 + y.toNat / 16) / 16 = x.toNat := by omega
  have h₂ : (x.toNat % 4 * 16 + y.toNat / 16) % 16 * 16 + y.toNat % 16 * 4 / 4 = y.toNat := by
    omega
  have hzero : y.toNat % 16 * 4 % 4 = 0 := by omega
  have hpad : digit (y.toNat % 16 * 4) ≠ '=' := digit_ne_pad (by omega)
  rw [lastGroup, if_neg (by simp), value_digit (by omega), value_digit (by omega),
    value_digit (by omega)]
  simp only [Option.bind_eq_bind, Option.bind_some, if_neg hpad, hzero, if_true, ofNat_toNat h₁,
    ofNat_toNat h₂]

theorem encode_ne_nil {blob : List UInt8} (h : blob ≠ []) : encode blob ≠ [] := by
  fun_cases encode blob with
  | case1 => exact absurd rfl h
  | case2 x => exact List.cons_ne_nil _ _
  | case3 x y => exact List.cons_ne_nil _ _
  | case4 x y z rest => exact List.cons_ne_nil _ _

/-- **What was encoded is read back.** -/
theorem decode_encode (blob : List UInt8) : decode (encode blob) = some blob := by
  fun_induction encode blob with
  | case1 => rfl
  | case2 x => rw [decode, if_pos rfl, lastGroup_one]
  | case3 x y => rw [decode, if_pos rfl, lastGroup_two]
  | case4 x y z rest ih =>
    rw [decode]
    by_cases hrest : rest = []
    · have hz := z.toNat_lt
      rw [if_pos (by rw [hrest, encode]), lastGroup,
        if_pos (digit_ne_pad (Nat.mod_lt _ (by decide))), group_digits, hrest]
    · rw [if_neg (encode_ne_nil hrest), group_digits, ih]
      rfl

theorem mem_encode {blob : List UInt8} {ch : Char} (h : ch ∈ encode blob) :
    ch ∈ '=' :: alphabet := by
  fun_induction encode blob with
  | case1 => exact absurd h List.not_mem_nil
  | case2 x =>
    simp only [List.mem_cons, List.not_mem_nil, or_false] at h
    rcases h with rfl | rfl | rfl | rfl
    · exact digit_mem _
    · exact digit_mem _
    · exact List.mem_cons_self
    · exact List.mem_cons_self
  | case3 x y =>
    simp only [List.mem_cons, List.not_mem_nil, or_false] at h
    rcases h with rfl | rfl | rfl | rfl
    · exact digit_mem _
    · exact digit_mem _
    · exact digit_mem _
    · exact List.mem_cons_self
  | case4 x y z rest ih =>
    simp only [List.mem_cons] at h
    rcases h with rfl | rfl | rfl | rfl | h
    · exact digit_mem _
    · exact digit_mem _
    · exact digit_mem _
    · exact digit_mem _
    · exact ih h

end Base64
end Rust
