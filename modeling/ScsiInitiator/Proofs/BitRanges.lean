import ScsiInitiator.Bits

/-!
# The bits of a range

`Bytes.getBits` and `Bytes.setBits` go through a range byte by byte, with masks
and shifts.  Here both are put in terms of `Bytes.bit`, which knows nothing of
bytes.  A read gives the bits of the range and no others (`testBit_getBits`).  A
write puts the bits of a value in the range and leaves every other bit of the
byte string alone (`bit_setBits`).

Each proof follows `segments`.  What one segment does is said once, for any
segment that lies in a byte (`Segment.Within`): extracting moves its bits down,
and inserting replaces them.  The first segment of a range is such a segment,
and the rest of the range is again a range.
-/

namespace ScsiInitiator

/-! ## One segment -/

namespace Segment

/-- A segment has a bit and lies in its byte. -/
structure Within (s : Segment) : Prop where
  /-- There is a bit. -/
  pos : 0 < s.width
  /-- The last bit is in the byte. -/
  inside : s.start + s.width ≤ 8

variable {s : Segment}

theorem testBit_ones (s : Segment) (j : Nat) : s.ones.testBit j = decide (j < s.width) := by
  rw [ones, Nat.shiftLeft_eq, Nat.one_mul, Nat.testBit_two_pow_sub_one]

theorem testBit_mask (s : Segment) (j : Nat) :
    s.mask.testBit j = decide (s.shift ≤ j ∧ j < s.shift + s.width) := by
  rw [mask, Nat.testBit_shiftLeft, testBit_ones, ← Bool.decide_and]
  exact decide_eq_decide.mpr (by omega)

theorem Within.mask_lt (h : s.Within) : s.mask < UInt8.size := by
  have hi := h.inside
  apply Nat.lt_pow_two_of_testBit (n := 8)
  intro j hj
  rw [testBit_mask, decide_eq_false_iff_not]
  simp only [shift]
  omega

theorem Within.ones_lt (h : s.Within) : s.ones < UInt8.size := by
  have hi := h.inside
  apply Nat.lt_pow_two_of_testBit (n := 8)
  intro j hj
  rw [testBit_ones, decide_eq_false_iff_not]
  omega

theorem Within.shift_lt (h : s.Within) : s.shift < 8 := by
  have hp := h.pos
  simp only [shift]
  omega

theorem Within.toNat_mask (h : s.Within) : (UInt8.ofNat s.mask).toNat = s.mask :=
  UInt8.toNat_ofNat_of_lt' h.mask_lt

theorem Within.toNat_shift (h : s.Within) : (UInt8.ofNat s.shift).toNat % 8 = s.shift := by
  have hs := h.shift_lt
  rw [UInt8.toNat_ofNat_of_lt' (Nat.lt_trans hs (by decide)), Nat.mod_eq_of_lt hs]

/-- Extracting moves the bits of a segment down to the lowest positions. -/
theorem Within.testBit_extract (h : s.Within) (x : UInt8) (j : Nat) :
    (s.extract x).toNat.testBit j = (decide (j < s.width) && x.toNat.testBit (s.shift + j)) := by
  rw [extract, UInt8.toNat_toUInt64, UInt8.toNat_shiftRight, h.toNat_shift, UInt8.toNat_and,
    h.toNat_mask, Nat.testBit_shiftRight, Nat.testBit_and, testBit_mask, Bool.and_comm]
  congr 1
  exact decide_eq_decide.mpr (by omega)

/-- The chunk of a value for a segment is as many bits of it, with those below
left out that belong further on. -/
theorem Within.testBit_chunk (h : s.Within) (hl : s.left < 64) (v : UInt64) (j : Nat) :
    (s.chunk v).toNat.testBit j = (decide (j < s.width) && v.toNat.testBit (s.left + j)) := by
  have hleft : (UInt64.ofNat s.left).toNat % 64 = s.left := by
    rw [UInt64.toNat_ofNat_of_lt' (Nat.lt_trans hl (by decide)), Nat.mod_eq_of_lt hl]
  have hones : (UInt64.ofNat s.ones).toNat = s.ones :=
    UInt64.toNat_ofNat_of_lt' (Nat.lt_trans h.ones_lt (by decide))
  rw [chunk, UInt64.toNat_and, UInt64.toNat_shiftRight, hleft, hones, Nat.testBit_and,
    Nat.testBit_shiftRight, testBit_ones, Bool.and_comm]

/-- The byte that keeps what is not in the segment. -/
theorem Within.testBit_not_mask (h : s.Within) {j : Nat} (hj : j < 8) :
    (~~~UInt8.ofNat s.mask).toNat.testBit j = !s.mask.testBit j := by
  have hones : UInt8.size - 1 - s.mask = 2 ^ 8 - (s.mask + 1) := by
    simp only [UInt8.size]
    omega
  rw [UInt8.toNat_not, h.toNat_mask, hones, Nat.testBit_two_pow_sub_succ h.mask_lt]
  simp [hj]

/-- The byte that has a chunk of a value in the segment. -/
theorem Within.testBit_shifted_chunk (h : s.Within) (v : UInt64) {j : Nat} (hj : j < 8) :
    ((s.chunk v).toUInt8 <<< UInt8.ofNat s.shift).toNat.testBit j =
      (decide (s.shift ≤ j) && (s.chunk v).toNat.testBit (j - s.shift)) := by
  rw [UInt8.toNat_shiftLeft, h.toNat_shift, Nat.testBit_mod_two_pow, Nat.testBit_shiftLeft,
    UInt64.toNat_toUInt8, Nat.testBit_mod_two_pow]
  have hj' : j - s.shift < 8 := by omega
  simp [hj, hj']

/-- Inserting replaces the bits of the segment and keeps the others. -/
theorem Within.testBit_insert (h : s.Within) (hl : s.left < 64) (v : UInt64) (x : UInt8)
    {j : Nat} (hj : j < 8) :
    (s.insert v x).toNat.testBit j =
      if s.shift ≤ j ∧ j < s.shift + s.width then v.toNat.testBit (s.left + (j - s.shift))
      else x.toNat.testBit j := by
  rw [insert, UInt8.toNat_or, UInt8.toNat_and, Nat.testBit_or, Nat.testBit_and,
    h.testBit_not_mask hj, h.testBit_shifted_chunk v hj, testBit_mask, h.testBit_chunk hl]
  by_cases hin : s.shift ≤ j ∧ j < s.shift + s.width
  · have hlow : j - s.shift < s.width := by omega
    simp [hin, hlow]
  · have hout : (decide (s.shift ≤ j) && decide (j - s.shift < s.width)) = false := by
      rw [← Bool.decide_and, decide_eq_false_iff_not]
      omega
    rw [← Bool.and_assoc, hout, if_neg hin]
    simp [hin]

/-- The segment a bit range starts with. -/
def first (offset width : Nat) : Segment :=
  ⟨offset / 8, offset % 8, min width (8 - offset % 8), width - min width (8 - offset % 8)⟩

theorem first_within (offset : Nat) {width : Nat} (h : 0 < width) : (first offset width).Within :=
  ⟨by simp only [first]; omega, by simp only [first]; omega⟩

end Segment

/-! ## The segments of a range -/

open Segment (first)

/-- A range is its first segment and the range after it. -/
theorem segments_eq_cons (offset : Nat) {width : Nat} (h : 0 < width) :
    segments offset width =
      first offset width ::
        segments (offset + (first offset width).width) (first offset width).left :=
  segments_of_pos offset h

theorem width_add_left_first (offset width : Nat) :
    (first offset width).width + (first offset width).left = width := by
  simp only [first]
  omega

theorem position_first (offset width : Nat) {p : Nat} (h : offset ≤ p)
    (hp : p < offset + (first offset width).width) :
    p / 8 = (first offset width).index ∧ (first offset width).shift +
      (offset + (first offset width).width - 1 - p) = 7 - p % 8 := by
  simp only [first, Segment.shift] at hp ⊢
  omega

namespace Bytes

/-! ## Reading -/

theorem testBit_shiftLeft (v : UInt64) {w k : Nat} (hw : w < 64) (hk : k < 64) :
    (v <<< UInt64.ofNat w).toNat.testBit k = (decide (w ≤ k) && v.toNat.testBit (k - w)) := by
  rw [UInt64.toNat_shiftLeft, Nat.testBit_mod_two_pow, Nat.testBit_shiftLeft,
    UInt64.toNat_ofNat_of_lt' (Nat.lt_trans hw (by decide)), Nat.mod_eq_of_lt hw]
  simp [hk]

/-- Segments are shifted in from below: the bits of the range come first, and
those that were there move up.  Bit numbers from 64 on are lost. -/
theorem testBit_foldl_extract (b : Bytes) :
    ∀ (width offset : Nat) (acc : UInt64) {j : Nat}, j < 64 →
      ((segments offset width).foldl
        (fun v s => (v <<< UInt64.ofNat s.width) ||| s.extract (byteAt b s.index))
        acc).toNat.testBit j =
      if j < width then bit b (offset + width - 1 - j) else acc.toNat.testBit (j - width) := by
  intro width
  induction width using Nat.strongRecOn with
  | ind width ih =>
      intro offset acc j hj
      rcases Nat.eq_zero_or_pos width with rfl | hpos
      · rw [segments_zero, List.foldl_nil, if_neg (Nat.not_lt_zero _), Nat.sub_zero]
      · have hf := Segment.first_within offset hpos
        have hsum := width_add_left_first offset width
        have hpos' := hf.pos
        have hin := hf.inside
        rw [segments_eq_cons offset hpos, List.foldl_cons, ih _ (by omega) _ _ hj,
          UInt64.toNat_or, Nat.testBit_or, testBit_shiftLeft acc (by omega) (by omega),
          hf.testBit_extract]
        -- The bit is past the first segment, in it, or one that was there before.
        rcases Nat.lt_or_ge j (first offset width).left with hrest | hrest
        · rw [if_pos hrest, if_pos (by omega)]
          congr 1
          omega
        · rw [if_neg (Nat.not_lt.mpr hrest)]
          rcases Nat.lt_or_ge (j - (first offset width).left) (first offset width).width with
            hfirst | hfirst
          · obtain ⟨hbyte, hshift⟩ := position_first offset width (p := offset + width - 1 - j)
              (by omega) (by omega)
            rw [if_pos (by omega), bit, hbyte, ← hshift,
              decide_eq_false (Nat.not_le.mpr hfirst), decide_eq_true hfirst]
            simp only [Bool.false_and, Bool.false_or, Bool.true_and]
            congr 2
            omega
          · rw [if_neg (by omega), decide_eq_false (Nat.not_lt.mpr hfirst), Bool.false_and,
              Bool.or_false, decide_eq_true hfirst, Bool.true_and]
            congr 1
            omega

/-- A read gives the bits of the range, the last one lowest, and no others. -/
theorem testBit_getBits (b : Bytes) (offset : Nat) {width : Nat} (hw : width ≤ 64) (j : Nat) :
    (getBits b offset width).toNat.testBit j =
      (decide (j < width) && bit b (offset + width - 1 - j)) := by
  rcases Nat.lt_or_ge j 64 with hj | hj
  · rw [getBits, testBit_foldl_extract b width offset 0 hj]
    split <;> simp [*]
  · rw [decide_eq_false (by omega), Bool.false_and]
    exact Nat.testBit_lt_two_pow (Nat.lt_of_lt_of_le (getBits b offset width).toNat_lt
      (Nat.pow_le_pow_right (by decide) (by omega)))

/-! ## Writing -/

theorem bit_modify (b : Bytes) (i : Nat) (f : UInt8 → UInt8) {p : Nat} (hp : p < 8 * b.length) :
    bit (b.modify i f) p =
      if p / 8 = i then (f (byteAt b i)).toNat.testBit (7 - p % 8) else bit b p := by
  have hlt : p / 8 < b.length := by omega
  have hbyte : byteAt (b.modify i f) (p / 8) =
      if p / 8 = i then f (byteAt b i) else byteAt b (p / 8) := by
    rw [byteAt_of_lt (by rwa [List.length_modify]), List.getElem_modify]
    by_cases h : i = p / 8
    · subst h
      rw [if_pos rfl, if_pos rfl, byteAt_of_lt hlt]
    · rw [if_neg h, if_neg (Ne.symm h), byteAt_of_lt hlt]
  rw [bit, hbyte]
  split
  · rfl
  · rfl

/-- A write of a range that has a bit writes the first segment and then the rest. -/
theorem setBits_of_pos (b : Bytes) (offset : Nat) {width : Nat} (v : UInt64) (h : 0 < width) :
    setBits b offset width v =
      setBits (b.modify (first offset width).index ((first offset width).insert v))
        (offset + (first offset width).width) (first offset width).left v := by
  rw [setBits, segments_eq_cons offset h, List.foldl_cons, setBits]

/-- A write puts the low bits of a value in the range, the lowest one last, and
leaves every other bit alone. -/
theorem bit_setBits (v : UInt64) :
    ∀ (width offset : Nat) (b : Bytes) {p : Nat}, width ≤ 64 → p < 8 * b.length →
      bit (setBits b offset width v) p =
        if offset ≤ p ∧ p < offset + width then v.toNat.testBit (offset + width - 1 - p)
        else bit b p := by
  intro width
  induction width using Nat.strongRecOn with
  | ind width ih =>
      intro offset b p hw hp
      rcases Nat.eq_zero_or_pos width with rfl | hpos
      · rw [setBits_zero, if_neg (by omega)]
      · have hf := Segment.first_within offset hpos
        have hsum := width_add_left_first offset width
        have hpos' := hf.pos
        rw [setBits_of_pos b offset v hpos,
          ih _ (by omega) _ _ (by omega) (by rwa [List.length_modify]), bit_modify b _ _ hp,
          hf.testBit_insert (by omega) v _ (by omega)]
        by_cases hrest : offset + (first offset width).width ≤ p ∧ p < offset + width
        · rw [if_pos (by omega), if_pos (by omega)]
          congr 1
          omega
        · rw [if_neg (by omega)]
          by_cases hfirst : offset ≤ p ∧ p < offset + (first offset width).width
          · obtain ⟨hbyte, hshift⟩ := position_first offset width hfirst.1 hfirst.2
            rw [if_pos hbyte, if_pos (by omega), if_pos (by omega)]
            congr 1
            omega
          · rw [if_neg (c := offset ≤ p ∧ p < offset + width) (by omega)]
            split
            · rename_i hbyte
              rw [if_neg (by simp only [first, Segment.shift] at *; omega), bit, hbyte]
            · rfl

end Bytes

end ScsiInitiator
