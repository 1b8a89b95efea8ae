/-!
# Byte strings

A *byte string* is a list of bytes, first byte first.  Everything that crosses
the wire is one: command blocks, data areas, sense bytes, records.

Two views say what a byte string means.  `Bytes.toNat` reads it as one number,
most significant byte first.  `Bytes.bit` numbers its bits from the most
significant bit of the first byte.  Nothing here fails: a byte past the end is
zero, and a write past the end is cut.

A piece of *memory* that a caller hands over may be missing.  It is an `Option`,
and `Bytes.ofMemory` gives the bytes it has.  Memory without bytes need not be
missing.
-/

namespace ScsiInitiator

-- Powers are those of core here, also where another instance is in sight.
attribute [local instance (high)] instPowNat

/-- A byte string, first byte first. -/
abbrev Bytes := List UInt8

namespace Bytes

/-! ## Reading and overwriting -/

/-- `n` zero bytes. -/
def zeros (n : Nat) : Bytes := List.replicate n 0

/-- The byte at position `i`, zero past the end. -/
def byteAt (b : Bytes) (i : Nat) : UInt8 := b[i]?.getD 0

/-- The `count` bytes from position `start` on, fewer at the end. -/
def slice (b : Bytes) (start count : Nat) : Bytes := (b.drop start).take count

/-- The bytes of `new` in place of those from position `start` on.  What does
not fit is cut, so the length stays. -/
def overwrite (b : Bytes) (start : Nat) (new : Bytes) : Bytes :=
  b.take start ++ new.take (b.length - start) ++ b.drop (start + new.length)

@[simp] theorem length_zeros (n : Nat) : (zeros n).length = n := List.length_replicate ..

theorem byteAt_of_lt {b : Bytes} {i : Nat} (h : i < b.length) : byteAt b i = b[i] := by
  simp [byteAt, h]

theorem byteAt_of_le {b : Bytes} {i : Nat} (h : b.length ≤ i) : byteAt b i = 0 := by
  simp [byteAt, List.getElem?_eq_none h]

theorem length_slice (b : Bytes) (start count : Nat) :
    (slice b start count).length = min count (b.length - start) := by
  simp [slice]

@[simp] theorem length_overwrite (b : Bytes) (start : Nat) (new : Bytes) :
    (overwrite b start new).length = b.length := by
  simp only [overwrite, List.length_append, List.length_take, List.length_drop]
  omega

/-- What does not fit is cut. -/
example : overwrite [1, 2, 3, 4] 3 [8, 9] = [1, 2, 3, 8] := by decide

/-- Writing a whole byte string of the same length replaces it. -/
theorem overwrite_zero_of_length_eq {b new : Bytes} (h : new.length = b.length) :
    overwrite b 0 new = new := by
  simp [overwrite, ← h]

/-- The bytes of a piece of memory.  Memory that is missing has none. -/
def ofMemory (memory : Option Bytes) : Bytes := memory.getD []

@[simp] theorem ofMemory_none : ofMemory none = [] := rfl

@[simp] theorem ofMemory_some (b : Bytes) : ofMemory (some b) = b := rfl

/-- The bytes of a text in UTF-8. -/
def ofText (s : String) : Bytes := s.toUTF8.data.toList

/-! ## The number and the bits of a byte string -/

/-- The number a byte string denotes, most significant byte first. -/
def toNat : Bytes → Nat
  | [] => 0
  | x :: b => x.toNat * 256 ^ b.length + toNat b

/-- The bit at position `p`.  Position 0 is the most significant bit of the
first byte, and a bit past the end is zero. -/
def bit (b : Bytes) (p : Nat) : Bool := (byteAt b (p / 8)).toNat.testBit (7 - p % 8)

theorem toNat_append (a b : Bytes) : toNat (a ++ b) = toNat a * 256 ^ b.length + toNat b := by
  induction a with
  | nil => simp [toNat]
  | cons x a ih =>
      simp only [List.cons_append, toNat, ih, List.length_append, Nat.pow_add, Nat.add_mul,
        Nat.mul_assoc, Nat.add_assoc]

theorem toNat_lt (b : Bytes) : toNat b < 256 ^ b.length := by
  induction b with
  | nil => simp [toNat]
  | cons x b ih =>
      have hx : x.toNat + 1 ≤ 256 := x.toNat_lt
      have h := Nat.mul_le_mul_right (256 ^ b.length) hx
      rw [Nat.add_mul, Nat.one_mul] at h
      rw [toNat, List.length_cons, Nat.pow_succ']
      omega

end Bytes

end ScsiInitiator
