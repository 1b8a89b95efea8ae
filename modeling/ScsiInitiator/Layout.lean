import ScsiInitiator.Bytes

/-!
# Layouts

A *layout* is a list of *fields*, each with a width in bits.  The fields follow
each other without gaps, most significant bit first, and together they fill a
whole number of bytes.  A field has from 1 to 64 bits, so that its value is a
64-bit number.

The *offset* of a field is the number of bits before it.
-/

namespace ScsiInitiator

-- Sums and powers are those of core here, also where other instances are in sight.
attribute [local instance (high)] Zero.ofOfNat0 instPowNat

/-- A list of field widths that fill a whole number of bytes. -/
structure Layout where
  /-- The widths of the fields, in bits, first field first. -/
  widths : List Nat
  /-- There is a field. -/
  widths_ne_nil : widths ≠ [] := by decide
  /-- A field has from 1 to 64 bits. -/
  width_mem : ∀ w ∈ widths, 1 ≤ w ∧ w ≤ 64 := by decide
  /-- The fields fill whole bytes. -/
  whole_bytes : widths.sum % 8 = 0 := by decide
deriving DecidableEq

namespace Layout

/-- The layout with the given widths, if they are those of a layout. -/
def ofWidths? (widths : List Nat) : Option Layout :=
  if h : widths ≠ [] ∧ (∀ w ∈ widths, 1 ≤ w ∧ w ≤ 64) ∧ widths.sum % 8 = 0 then
    some ⟨widths, h.1, h.2.1, h.2.2⟩
  else none

/-- The number of bits of all fields. -/
def bitCount (l : Layout) : Nat := l.widths.sum

/-- The number of bytes of all fields. -/
def size (l : Layout) : Nat := l.bitCount / 8

/-- The number of fields. -/
def fieldCount (l : Layout) : Nat := l.widths.length

/-- A field, by its position in the layout. -/
abbrev Field (l : Layout) := Fin l.widths.length

/-- The number of bits of a field. -/
def width (l : Layout) (i : l.Field) : Nat := l.widths[i]

/-- The number of bits before a field. -/
def offset (l : Layout) (i : l.Field) : Nat := (l.widths.take i.val).sum

/-- A value fits in a field: it has no bit set beyond the width. -/
def Fits (l : Layout) (i : l.Field) (v : UInt64) : Prop :=
  l.width i = 64 ∨ v >>> UInt64.ofNat (l.width i) = 0

instance (l : Layout) (i : l.Field) (v : UInt64) : Decidable (l.Fits i v) :=
  inferInstanceAs (Decidable (_ ∨ _))

theorem bitCount_eq (l : Layout) : l.bitCount = 8 * l.size := by
  have := l.whole_bytes
  simp only [size, bitCount]
  omega

theorem width_bounds (l : Layout) (i : l.Field) : 1 ≤ l.width i ∧ l.width i ≤ 64 :=
  l.width_mem _ (List.getElem_mem i.isLt)

/-- A field ends where the next one starts. -/
theorem offset_add_width (l : Layout) (i : l.Field) :
    l.offset i + l.width i = (l.widths.take (i.val + 1)).sum := by
  rw [List.take_succ_eq_append_getElem i.isLt, List.sum_append]
  simp [offset, width]

/-- No field ends beyond the last bit. -/
theorem offset_add_width_le (l : Layout) (i : l.Field) :
    l.offset i + l.width i ≤ l.bitCount := by
  have h := congrArg List.sum (List.take_append_drop (i.val + 1) l.widths)
  rw [List.sum_append] at h
  rw [offset_add_width, bitCount]
  omega

/-- A value fits exactly if it is below two to the width. -/
theorem fits_iff (l : Layout) (i : l.Field) (v : UInt64) :
    l.Fits i v ↔ v.toNat < 2 ^ l.width i := by
  have hw := (l.width_bounds i).2
  unfold Fits
  by_cases h : l.width i = 64
  · have := v.toNat_lt
    simp only [h, true_or, true_iff]
    omega
  · have hm : (UInt64.ofNat (l.width i)).toNat % 64 = l.width i := by
      rw [UInt64.toNat_ofNat_of_lt' (by simp [UInt64.size]; omega)]
      omega
    rw [← UInt64.toNat_inj, UInt64.toNat_shiftRight, hm, Nat.shiftRight_eq_div_pow]
    simp only [h, false_or, UInt64.toNat_zero, Nat.div_eq_zero_iff, Nat.pow_eq_zero]
    omega

/-- Twelve bits hold every value below `0x1000`. -/
example : ¬Fits { widths := [3, 12, 1] } ⟨1, by decide⟩ 0x1000 := by decide

theorem fits_uint8 (l : Layout) (i : l.Field) (h : 8 ≤ l.width i) (v : UInt8) :
    l.Fits i v.toUInt64 := by
  rw [fits_iff, UInt8.toNat_toUInt64]
  exact Nat.lt_of_lt_of_le v.toNat_lt (Nat.pow_le_pow_right (by decide) h)

theorem fits_uint16 (l : Layout) (i : l.Field) (h : 16 ≤ l.width i) (v : UInt16) :
    l.Fits i v.toUInt64 := by
  rw [fits_iff, UInt16.toNat_toUInt64]
  exact Nat.lt_of_lt_of_le v.toNat_lt (Nat.pow_le_pow_right (by decide) h)

theorem fits_uint32 (l : Layout) (i : l.Field) (h : 32 ≤ l.width i) (v : UInt32) :
    l.Fits i v.toUInt64 := by
  rw [fits_iff, UInt32.toNat_toUInt64]
  exact Nat.lt_of_lt_of_le v.toNat_lt (Nat.pow_le_pow_right (by decide) h)

end Layout

end ScsiInitiator
