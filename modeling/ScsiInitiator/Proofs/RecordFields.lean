import ScsiInitiator.Proofs.BitAccess
import ScsiInitiator.Record

/-!
# The fields of a record

The fields of a layout cover its bits, each bit once: every bit lies in a field
(`Layout.exists_field`), and in no other (`Layout.field_unique`).  So a record is
no more and no less than the values of its fields.  Setting a field changes that
field only (`Record.get_set`), and records with equal fields are equal
(`Record.ext_get`).
-/

namespace ScsiInitiator

/-! ## Where the fields lie -/

/-- A position below the sum of a list lies in one of its items. -/
theorem exists_sum_take_le : ∀ (ws : List Nat) {p : Nat}, p < ws.sum →
    ∃ i : Fin ws.length, (ws.take i).sum ≤ p ∧ p < (ws.take i).sum + ws[i]
  | [], _, h => absurd h (Nat.not_lt_zero _)
  | w :: ws, p, h => by
      rcases Nat.lt_or_ge p w with hp | hp
      · exact ⟨⟨0, Nat.succ_pos _⟩, Nat.zero_le _, by simpa using hp⟩
      · rw [List.sum_cons] at h
        obtain ⟨i, hle, hlt⟩ := exists_sum_take_le ws (p := p - w) (by omega)
        refine ⟨i.succ, ?_, ?_⟩
        · simp only [Fin.val_succ, List.take_succ_cons, List.sum_cons]
          omega
        · simp only [Fin.val_succ, List.take_succ_cons, List.sum_cons, Fin.getElem_fin,
            List.getElem_cons_succ] at hlt ⊢
          omega

theorem sum_take_le_sum_take (ws : List Nat) {m n : Nat} (h : m ≤ n) :
    (ws.take m).sum ≤ (ws.take n).sum := by
  rw [show n = m + (n - m) by omega, List.take_add, List.sum_append]
  exact Nat.le_add_right _ _

namespace Layout

variable {l : Layout}

/-- A field ends before a later one starts. -/
theorem offset_add_width_le_offset {i j : l.Field} (h : i < j) :
    l.offset i + l.width i ≤ l.offset j := by
  rw [offset_add_width]
  exact sum_take_le_sum_take l.widths h

/-- Every bit lies in a field. -/
theorem exists_field {p : Nat} (h : p < l.bitCount) :
    ∃ i : l.Field, l.offset i ≤ p ∧ p < l.offset i + l.width i :=
  exists_sum_take_le l.widths h

/-- A bit lies in no more than one field, since of two fields one ends before the
other one starts. -/
theorem field_unique {i j : l.Field} {p : Nat} (hi : l.offset i ≤ p)
    (hi' : p < l.offset i + l.width i) (hj : l.offset j ≤ p) (hj' : p < l.offset j + l.width j) :
    i = j := by
  rcases Nat.lt_trichotomy i.val j.val with hlt | heq | hgt
  · have hend := l.offset_add_width_le_offset hlt
    omega
  · exact Fin.ext heq
  · have hend := l.offset_add_width_le_offset hgt
    omega

/-- The bits after a field are those of the fields after it. -/
theorem offset_add_width_add_sum_drop (i : l.Field) :
    l.offset i + l.width i + (l.widths.drop (i.val + 1)).sum = l.bitCount := by
  rw [offset_add_width, bitCount, ← List.sum_append, List.take_append_drop]

end Layout

/-! ## Reading and setting -/

namespace Record

variable {l : Layout}

theorem length_bits (r : Record l) : 8 * r.bytes.length = l.bitCount := by
  rw [r.length_eq, l.bitCount_eq]

/-- The binary digits of a field are the bits of the record where it lies. -/
theorem testBit_get (r : Record l) (i : l.Field) (j : Nat) :
    (r.get i).toNat.testBit j =
      (decide (j < l.width i) && Bytes.bit r.bytes (l.offset i + l.width i - 1 - j)) :=
  Bytes.testBit_getBits _ _ (l.width_bounds i).2 j

theorem get_lt (r : Record l) (i : l.Field) : (r.get i).toNat < 2 ^ l.width i :=
  Bytes.toNat_getBits_lt _ _ (l.width_bounds i).2

/-- A field is cut out of the number of the record. -/
theorem toNat_get (r : Record l) (i : l.Field) :
    (r.get i).toNat =
      Bytes.toNat r.bytes / 2 ^ (l.widths.drop (i.val + 1)).sum % 2 ^ l.width i := by
  have hsum := l.offset_add_width_add_sum_drop i
  have hbits := r.length_bits
  rw [get, Bytes.toNat_getBits _ (l.width_bounds i).2 (by omega)]
  congr 3
  omega

@[simp] theorem get_zero (i : l.Field) : (zero l).get i = 0 := by
  rw [← UInt64.toNat_inj, toNat_get, zero, Bytes.toNat_zeros]
  simp

/-- Setting a field gives it the value and leaves the other fields alone, since
they lie apart from it. -/
theorem get_set (r : Record l) {i : l.Field} {v : UInt64} (hv : l.Fits i v) (j : l.Field) :
    (r.set i v hv).get j = if j = i then v else r.get j := by
  have hbits := r.length_bits
  have hend := l.offset_add_width_le i
  have hwidth := (l.width_bounds i).2
  rw [get, set]
  by_cases h : j = i
  · subst h
    rw [if_pos rfl, ← UInt64.toNat_inj, Bytes.toNat_getBits_setBits _ v hwidth (by omega),
      Nat.mod_eq_of_lt ((l.fits_iff j v).mp hv)]
  · have hapart : l.offset j + l.width j ≤ l.offset i ∨ l.offset i + l.width i ≤ l.offset j := by
      rcases Nat.lt_or_gt_of_ne (Fin.val_ne_of_ne h) with hlt | hgt
      · exact .inl (l.offset_add_width_le_offset hlt)
      · exact .inr (l.offset_add_width_le_offset hgt)
    rw [if_neg h, Bytes.getBits_setBits_of_disjoint _ v hwidth (l.width_bounds j).2 hapart, get]

/-! ## All values in a row -/

@[simp] theorem length_values (r : Record l) : r.values.length = l.widths.length := by
  rw [values, List.length_map, List.length_finRange]

theorem getElem_values (r : Record l) (i : l.Field) (h : i.val < r.values.length) :
    r.values[i.val] = r.get i := by
  simp [values]

theorem getD_values (r : Record l) (i : l.Field) : r.values.getD i.val 0 = r.get i := by
  have h : i.val < r.values.length := by
    rw [length_values]
    exact i.isLt
  rw [List.getD_eq_getElem?_getD, List.getElem?_eq_getElem h, getElem_values]
  rfl

/-- Setting a field changes the value at its place. -/
theorem values_set (r : Record l) {i : l.Field} {v : UInt64} (hv : l.Fits i v) :
    (r.set i v hv).values = r.values.set i.val v := by
  apply List.ext_getElem
  · simp [values]
  · intro j hj _
    rw [length_values] at hj
    rw [List.getElem_set, getElem_values _ ⟨j, hj⟩, getElem_values _ ⟨j, hj⟩, get_set]
    by_cases h : i.val = j
    · rw [if_pos h, if_pos (Fin.ext h.symm)]
    · rw [if_neg h, if_neg (fun hj => h (congrArg Fin.val hj).symm)]

/-! ## Fields and bytes -/

/-- A field that ends some bytes is the remainder of their number. -/
theorem toNat_get_slice_mod (r : Record l) (i : l.Field) {start count : Nat}
    (hend : l.offset i + l.width i = 8 * (start + count)) (hw : l.width i ≤ 8 * count) :
    (r.get i).toNat = Bytes.toNat (Bytes.slice r.bytes start count) % 2 ^ l.width i := by
  have hbits := r.length_bits
  have hlast := l.offset_add_width_le i
  exact Bytes.toNat_getBits_slice_mod _ hend hw (l.width_bounds i).2 (by omega)

/-- A field of whole bytes is the number of these bytes. -/
theorem toNat_get_slice (r : Record l) (i : l.Field) {start count : Nat}
    (ho : l.offset i = 8 * start) (hw : l.width i = 8 * count) :
    (r.get i).toNat = Bytes.toNat (Bytes.slice r.bytes start count) := by
  have hbits := r.length_bits
  have hend := l.offset_add_width_le i
  have hwidth := (l.width_bounds i).2
  rw [get, ho, hw]
  exact Bytes.toNat_getBits_slice _ (by omega) (by omega)

theorem toNat_toUInt16_get (r : Record l) (i : l.Field) (h : l.width i ≤ 16) :
    (r.get i).toUInt16.toNat = (r.get i).toNat := by
  rw [UInt64.toNat_toUInt16]
  exact Nat.mod_eq_of_lt (Nat.lt_of_lt_of_le (r.get_lt i) (Nat.pow_le_pow_right (by decide) h))

theorem toNat_toUInt32_get (r : Record l) (i : l.Field) (h : l.width i ≤ 32) :
    (r.get i).toUInt32.toNat = (r.get i).toNat := by
  rw [UInt64.toNat_toUInt32]
  exact Nat.mod_eq_of_lt (Nat.lt_of_lt_of_le (r.get_lt i) (Nat.pow_le_pow_right (by decide) h))

/-- Records with equal fields are equal. -/
theorem ext_get {r s : Record l} (h : ∀ i, r.get i = s.get i) : r = s := by
  apply ext_bytes
  apply Bytes.eq_of_bit_eq (by rw [r.length_eq, s.length_eq])
  intro p hp
  rw [r.length_bits] at hp
  obtain ⟨i, hle, hlt⟩ := l.exists_field hp
  have hdigit := congrArg (fun v => v.toNat.testBit (l.offset i + l.width i - 1 - p)) (h i)
  simp only [testBit_get] at hdigit
  rw [decide_eq_true (by omega), Bool.true_and, Bool.true_and,
    show l.offset i + l.width i - 1 - (l.offset i + l.width i - 1 - p) = p by omega] at hdigit
  exact hdigit

end Record

end ScsiInitiator
