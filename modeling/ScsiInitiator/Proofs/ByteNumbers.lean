import Mathlib.Algebra.BigOperators.Fin
import ScsiInitiator.Proofs.BitRanges

/-!
# Bytes, bits and numbers

The bits of a byte string are the binary digits of its number (`testBit_toNat`),
so byte strings of one length are told apart by either.  A read of a range is
then a quotient and a remainder of that number (`toNat_getBits`).  Where the
range covers whole bytes, it is the number of a slice (`toNat_getBits_slice`).
`Bytes.ofNat` goes back from a number to its bytes.
-/

namespace ScsiInitiator.Bytes

/-! ## Bytes and bits of byte strings -/

theorem byteAt_zeros (n p : Nat) : byteAt (zeros n) p = 0 := by
  rw [byteAt, zeros, List.getElem?_replicate]
  split <;> rfl

/-- Zeros at the end are what is read there anyway. -/
theorem byteAt_append_zeros (b : Bytes) (n p : Nat) : byteAt (b ++ zeros n) p = byteAt b p := by
  rcases Nat.lt_or_ge p b.length with hlt | hge
  · rw [byteAt, byteAt, List.getElem?_append_left hlt]
  · rw [byteAt, List.getElem?_append_right hge, byteAt_of_le hge]
    exact byteAt_zeros n _

theorem byteAt_take (b : Bytes) {n p : Nat} (h : p < n) : byteAt (b.take n) p = byteAt b p := by
  rw [byteAt, byteAt, List.getElem?_take_of_lt h]

theorem bit_of_le {b : Bytes} {p : Nat} (h : 8 * b.length ≤ p) : bit b p = false := by
  rw [bit, byteAt_of_le (by omega)]
  exact Nat.zero_testBit _

theorem byteAt_cons_succ (x : UInt8) (b : Bytes) (i : Nat) :
    byteAt (x :: b) (i + 1) = byteAt b i := by
  simp [byteAt]

theorem bit_cons (x : UInt8) (b : Bytes) (p : Nat) :
    bit (x :: b) p = if p < 8 then x.toNat.testBit (7 - p) else bit b (p - 8) := by
  rcases Nat.lt_or_ge p 8 with h | h
  · rw [if_pos h, bit, Nat.div_eq_of_lt h, Nat.mod_eq_of_lt h, byteAt_of_lt (by simp)]
    rfl
  · rw [if_neg (Nat.not_lt.mpr h), bit, bit, show p / 8 = (p - 8) / 8 + 1 by omega,
      show (p - 8) % 8 = p % 8 by omega, byteAt_cons_succ]

theorem bit_zeros (n p : Nat) : bit (zeros n) p = false := by
  rw [bit, byteAt_zeros]
  exact Nat.zero_testBit _

/-! ## Slices -/

theorem slice_drop (b : Bytes) (k start count : Nat) :
    slice (b.drop k) start count = slice b (k + start) count := by
  rw [slice, slice, List.drop_drop]

/-- A slice of a slice is a slice, as long as it does not leave it. -/
theorem slice_slice (b : Bytes) (start : Nat) {count start' count' : Nat}
    (h : start' + count' ≤ count) :
    slice (slice b start count) start' count' = slice b (start + start') count' := by
  rw [slice, slice, slice, List.drop_take, List.take_take, List.drop_drop,
    Nat.min_eq_left (by omega)]

theorem slice_append_left {a : Bytes} (b : Bytes) {start count : Nat}
    (h : start + count ≤ a.length) : slice (a ++ b) start count = slice a start count := by
  rw [slice, slice, List.drop_append_of_le_length (by omega),
    List.take_append_of_le_length (by rw [List.length_drop]; omega)]

theorem slice_append_right (a b : Bytes) (start count : Nat) :
    slice (a ++ b) (a.length + start) count = slice b start count := by
  rw [slice, slice, List.drop_length_add_append]

/-- The bits of a slice are those from its start on. -/
theorem bit_slice (b : Bytes) (start : Nat) {count p : Nat} (h : p < 8 * count) :
    bit (slice b start count) p = bit b (8 * start + p) := by
  have hbyte : byteAt (slice b start count) (p / 8) = byteAt b ((8 * start + p) / 8) := by
    rw [byteAt, byteAt, slice, List.getElem?_take_of_lt (by omega), List.getElem?_drop,
      show start + p / 8 = (8 * start + p) / 8 by omega]
  rw [bit, bit, hbyte, show (8 * start + p) % 8 = p % 8 by omega]

/-! ## The number -/

/-- The binary digits of the number are the bits, the last one lowest. -/
theorem testBit_toNat (b : Bytes) (j : Nat) :
    (toNat b).testBit j = (decide (j < 8 * b.length) && bit b (8 * b.length - 1 - j)) := by
  induction b generalizing j with
  | nil => simp [toNat]
  | cons x b ih =>
      have hb : toNat b < 2 ^ (8 * b.length) := by
        rw [Nat.pow_mul]
        exact toNat_lt b
      have hx : x.toNat < 2 ^ 8 := x.toNat_lt
      rw [toNat, Nat.mul_comm, show (256 : Nat) = 2 ^ 8 from rfl, ← Nat.pow_mul,
        Nat.testBit_two_pow_mul_add _ hb, ih, List.length_cons, bit_cons]
      rcases Nat.lt_or_ge j (8 * b.length) with hlow | hlow
      · rw [if_pos hlow, if_neg (by omega), decide_eq_true hlow, decide_eq_true (by omega)]
        congr 2
        omega
      · rw [if_neg (Nat.not_lt.mpr hlow)]
        rcases Nat.lt_or_ge j (8 * (b.length + 1)) with hin | hin
        · rw [if_pos (by omega), decide_eq_true hin, Bool.true_and]
          congr 1
          omega
        · rw [decide_eq_false (Nat.not_lt.mpr hin), Bool.false_and]
          exact Nat.testBit_lt_two_pow (Nat.lt_of_lt_of_le hx
            (Nat.pow_le_pow_right (by decide) (by omega)))

/-- Byte strings of one length are equal if their numbers are. -/
theorem eq_of_toNat_eq : ∀ {a b : Bytes}, a.length = b.length → toNat a = toNat b → a = b
  | [], [], _, _ => rfl
  | x :: a, y :: b, hl, h => by
      have hl' : a.length = b.length := Nat.succ.inj hl
      have ha := toNat_lt a
      have hb := toNat_lt b
      rw [toNat, toNat, ← hl'] at h
      rw [← hl'] at hb
      have hpos : 0 < 256 ^ a.length := Nat.pow_pos (by decide)
      have hx : x.toNat = y.toNat := by
        have := congrArg (· / 256 ^ a.length) h
        simpa [Nat.mul_add_div hpos, Nat.mul_comm, Nat.div_eq_of_lt ha, Nat.div_eq_of_lt hb]
          using this
      have hrest : toNat a = toNat b := by
        rw [hx] at h
        exact Nat.add_left_cancel h
      rw [UInt8.toNat_inj.mp hx, eq_of_toNat_eq hl' hrest]

theorem eq_of_bit_eq {a b : Bytes} (hl : a.length = b.length)
    (h : ∀ p < 8 * a.length, bit a p = bit b p) : a = b := by
  apply eq_of_toNat_eq hl
  apply Nat.eq_of_testBit_eq
  intro j
  rw [testBit_toNat, testBit_toNat, ← hl]
  rcases Nat.lt_or_ge j (8 * a.length) with hj | hj
  · rw [h _ (by omega)]
  · rw [decide_eq_false (Nat.not_lt.mpr hj), Bool.false_and, Bool.false_and]

theorem toNat_zeros (n : Nat) : toNat (zeros n) = 0 := by
  apply Nat.eq_of_testBit_eq
  intro j
  rw [testBit_toNat, bit_zeros, Bool.and_false, Nat.zero_testBit]

/-! ## Ranges as numbers -/

theorem toNat_getBits_lt (b : Bytes) (offset : Nat) {width : Nat} (hw : width ≤ 64) :
    (getBits b offset width).toNat < 2 ^ width := by
  apply Nat.lt_pow_two_of_testBit
  intro j hj
  rw [testBit_getBits b offset hw, decide_eq_false (Nat.not_lt.mpr hj), Bool.false_and]

/-- A read of a range inside the byte string cuts the range out of the number. -/
theorem toNat_getBits (b : Bytes) {offset width : Nat} (hw : width ≤ 64)
    (h : offset + width ≤ 8 * b.length) :
    (getBits b offset width).toNat =
      toNat b / 2 ^ (8 * b.length - (offset + width)) % 2 ^ width := by
  apply Nat.eq_of_testBit_eq
  intro j
  rw [testBit_getBits b offset hw, Nat.testBit_mod_two_pow, Nat.testBit_div_two_pow, testBit_toNat]
  rcases Nat.lt_or_ge j width with hj | hj
  · rw [decide_eq_true (p := _ < 8 * b.length) (by omega), Bool.true_and]
    congr 2
    omega
  · rw [decide_eq_false (Nat.not_lt.mpr hj), Bool.false_and, Bool.false_and]

/-- A read of the last bits of some bytes gives the remainder of their number. -/
theorem toNat_getBits_slice_mod (b : Bytes) {offset width start count : Nat}
    (hend : offset + width = 8 * (start + count)) (hc : width ≤ 8 * count) (hw : width ≤ 64)
    (h : start + count ≤ b.length) :
    (getBits b offset width).toNat = toNat (slice b start count) % 2 ^ width := by
  have hl : (slice b start count).length = count := by
    rw [length_slice]
    omega
  apply Nat.eq_of_testBit_eq
  intro j
  rw [testBit_getBits b _ hw, Nat.testBit_mod_two_pow, testBit_toNat, hl]
  rcases Nat.lt_or_ge j width with hj | hj
  · rw [bit_slice b start (by omega), decide_eq_true (p := j < 8 * count) (by omega),
      Bool.true_and]
    congr 2
    omega
  · rw [decide_eq_false (Nat.not_lt.mpr hj), Bool.false_and, Bool.false_and]

/-- A read of whole bytes gives the number of these bytes. -/
theorem toNat_getBits_slice (b : Bytes) {start count : Nat} (hc : count ≤ 8)
    (h : start + count ≤ b.length) :
    (getBits b (8 * start) (8 * count)).toNat = toNat (slice b start count) := by
  have hl : (slice b start count).length = count := by
    rw [length_slice]
    omega
  have hlt := toNat_lt (slice b start count)
  have hend : 8 * start + 8 * count = 8 * (start + count) := by omega
  rw [hl, show (256 : Nat) = 2 ^ 8 from rfl, ← Nat.pow_mul] at hlt
  rw [toNat_getBits_slice_mod b hend (Nat.le_refl _) (by omega) h, Nat.mod_eq_of_lt hlt]

/-! ## Bytes of a number -/

/-- A number in `n` bytes, most significant byte first.  What does not fit is cut. -/
def ofNat : (n : Nat) → Nat → Bytes
  | 0, _ => []
  | n + 1, v => UInt8.ofNat (v / 256 ^ n) :: ofNat n v

@[simp] theorem length_ofNat : ∀ n v : Nat, (ofNat n v).length = n
  | 0, _ => rfl
  | n + 1, v => congrArg (· + 1) (length_ofNat n v)

theorem toNat_ofNat (n v : Nat) : toNat (ofNat n v) = v % 256 ^ n := by
  induction n with
  | zero =>
      rw [Nat.pow_zero, Nat.mod_one]
      rfl
  | succ n ih =>
      have hbyte : (UInt8.ofNat (v / 256 ^ n)).toNat = v / 256 ^ n % 256 := UInt8.toNat_ofNat'
      rw [ofNat, toNat, length_ofNat, ih, hbyte, Nat.pow_succ, Nat.mod_mul, Nat.mul_comm,
        Nat.add_comm]

/-- A byte string is its number, in as many bytes. -/
theorem ofNat_toNat (b : Bytes) : ofNat b.length (toNat b) = b := by
  apply eq_of_toNat_eq (length_ofNat _ _)
  rw [toNat_ofNat, Nat.mod_eq_of_lt (toNat_lt b)]

end ScsiInitiator.Bytes
