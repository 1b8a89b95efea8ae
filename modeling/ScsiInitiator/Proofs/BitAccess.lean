import Mathlib.Algebra.BigOperators.Fin
import ScsiInitiator.Proofs.ByteNumbers

/-!
# Reads and writes of a range

What a read and a write of a range come to, without segments.  A read sees the
bits of its range and no others (`getBits_congr`), and of a value a write sees
the bits that fit (`setBits_congr`).  So the range holds what was written to it
last (`toNat_getBits_setBits`), and a range apart from it holds what it held
before (`getBits_setBits_of_disjoint`).

`getBits_cuts_number` and `setBits_replaces_range` put a read and a write of a
range inside a byte string in full, the one in terms of the number of the byte
string and the other bit by bit.
-/

namespace ScsiInitiator.Bytes

/-! ## Reading -/

/-- A read depends on the bits of its range only. -/
theorem getBits_congr {b c : Bytes} {offset width : Nat} (hw : width ≤ 64)
    (h : ∀ p, offset ≤ p → p < offset + width → bit c p = bit b p) :
    getBits c offset width = getBits b offset width := by
  rw [← UInt64.toNat_inj]
  apply Nat.eq_of_testBit_eq
  intro j
  rw [testBit_getBits c offset hw, testBit_getBits b offset hw]
  rcases Nat.lt_or_ge j width with hj | hj
  · rw [h _ (by omega) (by omega)]
  · rw [decide_eq_false (Nat.not_lt.mpr hj), Bool.false_and, Bool.false_and]

/-- A read of a range inside a byte string cuts the range out of its number: the
quotient drops what comes after the range, the remainder what comes before.  So
the value is below two to the width, and byte strings with the same bits in the
range are read alike. -/
theorem getBits_cuts_number (b : Bytes) {offset width : Nat} (hw : width ≤ 64)
    (h : offset + width ≤ 8 * b.length) :
    (getBits b offset width).toNat =
      toNat b / 2 ^ (8 * b.length - offset - width) % 2 ^ width ∧
    (getBits b offset width).toNat < 2 ^ width ∧
    ∀ c : Bytes, (∀ p, offset ≤ p → p < offset + width → bit c p = bit b p) →
      getBits c offset width = getBits b offset width := by
  refine ⟨?_, toNat_getBits_lt b offset hw, fun _ => getBits_congr hw⟩
  rw [toNat_getBits b hw h, Nat.sub_sub]

/-- A range of 64 bits that touches nine bytes. -/
theorem getBits_cuts_number_nine_bytes :
    (getBits [0xF0, 0x12, 0x34, 0x56, 0x78, 0x9A, 0xBC, 0xDE, 0xF5] 4 64).toNat =
        0xF0123456789ABCDEF5 / 2 ^ 4 % 2 ^ 64 ∧
      getBits [0xF0, 0x12, 0x34, 0x56, 0x78, 0x9A, 0xBC, 0xDE, 0xF5] 4 64 =
        0x0123456789ABCDEF := by
  have hnumber :
      toNat [0xF0, 0x12, 0x34, 0x56, 0x78, 0x9A, 0xBC, 0xDE, 0xF5] = 0xF0123456789ABCDEF5 := by
    decide +kernel
  have hinside :
      4 + 64 ≤ 8 * [0xF0, 0x12, 0x34, 0x56, 0x78, 0x9A, 0xBC, 0xDE, (0xF5 : UInt8)].length := by
    decide
  obtain ⟨hcut, -, -⟩ := getBits_cuts_number _ (Nat.le_refl 64) hinside
  rw [hnumber] at hcut
  exact ⟨hcut, UInt64.toNat_inj.mp hcut⟩

/-! ## Writing -/

/-- Of a value a write sees the bits that fit in the range. -/
theorem setBits_congr (b : Bytes) (offset : Nat) {width : Nat} {v w : UInt64} (hw : width ≤ 64)
    (h : ∀ j < width, v.toNat.testBit j = w.toNat.testBit j) :
    setBits b offset width v = setBits b offset width w := by
  apply eq_of_bit_eq (by rw [length_setBits, length_setBits])
  intro p hp
  rw [length_setBits] at hp
  rw [bit_setBits v width offset b hw hp, bit_setBits w width offset b hw hp]
  split
  · rw [h _ (by omega)]
  · rfl

/-- A value that is too wide is cut to its low bits. -/
theorem setBits_mod (b : Bytes) (offset : Nat) {width : Nat} (v : UInt64) (hw : width ≤ 64) :
    setBits b offset width (UInt64.ofNat (v.toNat % 2 ^ width)) = setBits b offset width v := by
  have hlt : v.toNat % 2 ^ width < UInt64.size :=
    Nat.lt_of_le_of_lt (Nat.mod_le _ _) v.toNat_lt
  apply setBits_congr b offset hw
  intro j hj
  rw [UInt64.toNat_ofNat_of_lt' hlt, Nat.testBit_mod_two_pow, decide_eq_true hj, Bool.true_and]

/-- A write leaves alone what is not in its range, also past the end. -/
theorem bit_setBits_of_outside (b : Bytes) {offset width p : Nat} (v : UInt64) (hw : width ≤ 64)
    (h : p < offset ∨ offset + width ≤ p) : bit (setBits b offset width v) p = bit b p := by
  rcases Nat.lt_or_ge p (8 * b.length) with hp | hp
  · rw [bit_setBits v width offset b hw hp, if_neg (by omega)]
  · rw [bit_of_le hp, bit_of_le (by rwa [length_setBits])]

/-- A write to a range inside a byte string puts the low bits of the value in the
range, the highest of them first, and changes nothing else.  A value that is too
wide counts as its remainder by two to the width, and no bits are nothing to
write. -/
theorem setBits_replaces_range (b : Bytes) {offset width : Nat} (v : UInt64) (hw : width ≤ 64)
    (h : offset + width ≤ 8 * b.length) :
    (setBits b offset width v).length = b.length ∧
    (∀ p, bit (setBits b offset width v) p =
      if offset ≤ p ∧ p < offset + width then v.toNat.testBit (width - 1 - (p - offset))
      else bit b p) ∧
    setBits b offset width v = setBits b offset width (UInt64.ofNat (v.toNat % 2 ^ width)) ∧
    setBits b offset 0 v = b := by
  refine ⟨length_setBits b offset width v, ?_, (setBits_mod b offset v hw).symm,
    setBits_zero b offset v⟩
  intro p
  by_cases hin : offset ≤ p ∧ p < offset + width
  · rw [bit_setBits v width offset b hw (by omega), if_pos hin, if_pos hin]
    congr 1
    omega
  · rw [bit_setBits_of_outside b v hw (by omega), if_neg hin]

/-- Ten bits from the middle of a byte to the middle of the next one, of a value
that has more. -/
theorem setBits_replaces_range_two_bytes :
    setBits [0xFF, 0xFF] 3 10 0xFC00 = [0xE0, 0x07] ∧
      setBits [0xFF, 0xFF] 3 10 0xFC00 = setBits [0xFF, 0xFF] 3 10 0 ∧
      ∀ p, bit (setBits [0xFF, 0xFF] 3 10 0xFC00) p =
        if 3 ≤ p ∧ p < 13 then (0xFC00 : Nat).testBit (9 - (p - 3))
        else bit [0xFF, 0xFF] p := by
  have hwidth : 10 ≤ 64 := by decide
  have hinside : 3 + 10 ≤ 8 * [(0xFF : UInt8), 0xFF].length := by decide
  obtain ⟨-, hbits, hcut, -⟩ := setBits_replaces_range _ 0xFC00 hwidth hinside
  exact ⟨by decide +kernel, hcut, hbits⟩

/-! ## Reading what was written -/

/-- A range holds what was written to it, as far as it fits. -/
theorem toNat_getBits_setBits (b : Bytes) {offset width : Nat} (v : UInt64) (hw : width ≤ 64)
    (h : offset + width ≤ 8 * b.length) :
    (getBits (setBits b offset width v) offset width).toNat = v.toNat % 2 ^ width := by
  apply Nat.eq_of_testBit_eq
  intro j
  rw [testBit_getBits _ offset hw, Nat.testBit_mod_two_pow]
  rcases Nat.lt_or_ge j width with hj | hj
  · rw [bit_setBits v width offset b hw (by omega), if_pos (by omega)]
    congr 2
    omega
  · rw [decide_eq_false (Nat.not_lt.mpr hj), Bool.false_and, Bool.false_and]

/-- A write does not change what a range apart from it holds. -/
theorem getBits_setBits_of_disjoint (b : Bytes) {offset width offset' width' : Nat} (v : UInt64)
    (hw : width ≤ 64) (hw' : width' ≤ 64)
    (h : offset' + width' ≤ offset ∨ offset + width ≤ offset') :
    getBits (setBits b offset width v) offset' width' = getBits b offset' width' := by
  apply getBits_congr hw'
  intro p hle hlt
  exact bit_setBits_of_outside b v hw (by omega)

end ScsiInitiator.Bytes
