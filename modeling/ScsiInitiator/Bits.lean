import ScsiInitiator.Bytes

/-!
# Bit ranges

A *bit range* of a byte string starts at an offset and has a width of up to 64
bits.  Bits are numbered from the most significant bit of the first byte, so a
range may start and end in the middle of a byte and may touch nine bytes.

A range is handled one byte at a time.  A *segment* is the part of a range that
lies in one byte, and `segments` cuts a range into them, from the first byte to
the last.  `Bytes.getBits` shifts the segments into a 64-bit value, one after
another.  `Bytes.setBits` puts the matching chunk of a value into each segment
and keeps the other bits of the byte.

`segments` recurs on the bits that are left, of which every segment takes at
least one.
-/

namespace ScsiInitiator

/-! ## Segments -/

/-- The part of a bit range that lies in one byte. -/
structure Segment where
  /-- The byte. -/
  index : Nat
  /-- The first bit of the segment within the byte. -/
  start : Nat
  /-- The number of bits of the segment. -/
  width : Nat
  /-- The number of bits of the range after the segment. -/
  left : Nat
deriving DecidableEq, Repr

namespace Segment

/-- The number of bits of the byte after the segment. -/
def shift (s : Segment) : Nat := 8 - s.start - s.width

/-- The largest value of a segment. -/
def ones (s : Segment) : Nat := (1 <<< s.width) - 1

/-- The bits of the segment within the byte. -/
def mask (s : Segment) : Nat := s.ones <<< s.shift

/-- The value of the segment in a byte. -/
def extract (s : Segment) (x : UInt8) : UInt64 :=
  ((x &&& UInt8.ofNat s.mask) >>> UInt8.ofNat s.shift).toUInt64

/-- The bits of a value that belong into the segment. -/
def chunk (s : Segment) (v : UInt64) : UInt64 :=
  (v >>> UInt64.ofNat s.left) &&& UInt64.ofNat s.ones

/-- A byte with the chunk of a value in the segment. -/
def insert (s : Segment) (v : UInt64) (x : UInt8) : UInt8 :=
  (x &&& ~~~UInt8.ofNat s.mask) ||| ((s.chunk v).toUInt8 <<< UInt8.ofNat s.shift)

end Segment

/-- The segments of a bit range, first byte first. -/
def segments (offset width : Nat) : List Segment :=
  if width = 0 then []
  else
    let here := min width (8 - offset % 8)
    ⟨offset / 8, offset % 8, here, width - here⟩ :: segments (offset + here) (width - here)
termination_by width
decreasing_by omega

@[simp] theorem segments_zero (offset : Nat) : segments offset 0 = [] := by
  rw [segments, if_pos rfl]

theorem segments_of_pos (offset : Nat) {width : Nat} (h : 0 < width) :
    segments offset width =
      ⟨offset / 8, offset % 8, min width (8 - offset % 8), width - min width (8 - offset % 8)⟩ ::
        segments (offset + min width (8 - offset % 8)) (width - min width (8 - offset % 8)) := by
  rw [segments, if_neg (by omega)]

/-- Ten bits from bit 3 on: five bits of the first byte, five of the second. -/
example : segments 3 10 = [⟨0, 3, 5, 5⟩, ⟨1, 0, 5, 0⟩] := by decide +kernel

/-! ## Reading and writing -/

namespace Bytes

/-- The value of a bit range. -/
def getBits (b : Bytes) (offset width : Nat) : UInt64 :=
  (segments offset width).foldl
    (fun v s => (v <<< UInt64.ofNat s.width) ||| s.extract (byteAt b s.index)) 0

/-- The byte string with the low `width` bits of a value in a bit range. -/
def setBits (b : Bytes) (offset width : Nat) (v : UInt64) : Bytes :=
  (segments offset width).foldl (fun b s => b.modify s.index (s.insert v)) b

@[simp] theorem setBits_zero (b : Bytes) (offset : Nat) (v : UInt64) :
    setBits b offset 0 v = b := by
  simp [setBits]

theorem length_foldl_insert (v : UInt64) (l : List Segment) (b : Bytes) :
    (l.foldl (fun b s => b.modify s.index (s.insert v)) b).length = b.length := by
  induction l generalizing b with
  | nil => rfl
  | cons s l ih => rw [List.foldl_cons, ih, List.length_modify]

@[simp] theorem length_setBits (b : Bytes) (offset width : Nat) (v : UInt64) :
    (setBits b offset width v).length = b.length :=
  length_foldl_insert v _ b

end Bytes

end ScsiInitiator
