import ScsiInitiator.Record

/-!
# Reply buffers

Many replies are one *header* followed by *elements* of equal size.  How many
elements a device has is only known from the header, but room for them has to
be made before.  A *reply buffer* is made for a *capacity*, a number of
elements, and starts out zero.

A device may report more elements than there is room for.  `elements` takes the
number it reports and gives a *view* of as many as are there.  Nothing is read
beyond the buffer, whatever is reported.

Capacities, counts and indices are 64-bit numbers, and so is the byte length of
a buffer.  `replyByteLength` refuses a capacity that needs more.
-/

namespace ScsiInitiator

/-! ## Shapes and lengths -/

/-- The layouts of the header and of each element of a reply.  The size of
either is a 64-bit number. -/
structure ReplyShape where
  /-- The layout of the header. -/
  header : Layout
  /-- The layout of an element. -/
  element : Layout
  /-- The size of the header is a 64-bit number. -/
  header_size_lt : header.size < UInt64.size := by decide
  /-- The size of an element is a 64-bit number. -/
  element_size_lt : element.size < UInt64.size := by decide

/-- The byte length of a header and `capacity` elements, given their sizes. -/
def replyByteLength (header element capacity : UInt64) : Except Fault UInt64 :=
  if (0xFFFFFFFFFFFFFFFF - header) / element < capacity then .error (.capacityTooLarge capacity)
  else .ok (header + capacity * element)

/-- What a header leaves of the largest byte length. -/
theorem toNat_max_sub (header : UInt64) :
    (0xFFFFFFFFFFFFFFFF - header).toNat = 0xFFFFFFFFFFFFFFFF - header.toNat := by
  have hh := header.toNat_lt
  rw [UInt64.toNat_sub_of_le _ _ (by rw [UInt64.le_iff_toNat_le]; simp; omega)]
  simp

/-- A byte length that is given is exact. -/
theorem toNat_of_replyByteLength {header element capacity n : UInt64}
    (h : replyByteLength header element capacity = .ok n) :
    n.toNat = header.toNat + capacity.toNat * element.toNat := by
  rw [replyByteLength] at h
  split at h
  · cases h
  · rename_i hc
    cases h
    rw [UInt64.not_lt, UInt64.le_iff_toNat_le, UInt64.toNat_div, toNat_max_sub] at hc
    have hh := header.toNat_lt
    have hm := Nat.le_trans (Nat.mul_le_mul_right element.toNat hc)
      (Nat.div_mul_le_self (0xFFFFFFFFFFFFFFFF - header.toNat) element.toNat)
    rw [UInt64.toNat_add, UInt64.toNat_mul, Nat.mod_eq_of_lt (a := _ * _) (by omega),
      Nat.mod_eq_of_lt (by omega)]

namespace ReplyShape

/-- The byte length of a buffer of this shape. -/
def byteLength (s : ReplyShape) (capacity : UInt64) : Except Fault UInt64 :=
  replyByteLength (UInt64.ofNat s.header.size) (UInt64.ofNat s.element.size) capacity

theorem toNat_of_byteLength {s : ReplyShape} {capacity n : UInt64}
    (h : s.byteLength capacity = .ok n) :
    n.toNat = s.header.size + capacity.toNat * s.element.size := by
  have := toNat_of_replyByteLength h
  rwa [UInt64.toNat_ofNat_of_lt' s.header_size_lt, UInt64.toNat_ofNat_of_lt' s.element_size_lt]
    at this

/-- A header of one byte and elements of two. -/
def sample : ReplyShape where
  header := { widths := [8] }
  element := { widths := [4, 12] }

end ReplyShape

/-! ## Views -/

/-- The first `count` elements of a byte string. -/
structure ElementView (l : Layout) where
  /-- The bytes, from the first element on. -/
  bytes : Bytes
  /-- The number of elements. -/
  count : UInt64
  /-- All of them are there. -/
  fits : count.toNat * l.size ≤ bytes.length

/-- The first `n` records of a byte string. -/
def recordsOf (l : Layout) : (n : Nat) → (b : Bytes) → n * l.size ≤ b.length → List (Record l)
  | 0, _, _ => []
  | n + 1, b, h =>
      have h' : n * l.size + l.size ≤ b.length := by rwa [Nat.succ_mul] at h
      ⟨b.take l.size, by rw [List.length_take]; omega⟩ ::
        recordsOf l n (b.drop l.size) (by rw [List.length_drop]; omega)

namespace ElementView

variable {l : Layout}

/-- There are no elements. -/
def isEmpty (v : ElementView l) : Bool := v.count = 0

/-- The elements, first one first. -/
def toList (v : ElementView l) : List (Record l) := recordsOf l v.count.toNat v.bytes v.fits

/-- An element, by its position. -/
def get (v : ElementView l) (i : Nat) (h : i < v.count.toNat) : Record l :=
  ⟨Bytes.slice v.bytes (i * l.size) l.size, by
    have hm := Nat.mul_le_mul_right l.size (Nat.succ_le_of_lt h)
    have hf := v.fits
    rw [Nat.succ_mul] at hm
    rw [Bytes.length_slice]
    omega⟩

/-- An element, by a position that may be beyond the last one. -/
def getChecked (v : ElementView l) (index : UInt64) : Except Fault (Record l) :=
  if h : index < v.count then .ok (v.get index.toNat (UInt64.lt_iff_toNat_lt.mp h))
  else .error (.noSuchElement index v.count)

end ElementView

theorem length_recordsOf (l : Layout) :
    ∀ (n : Nat) (b : Bytes) (h : n * l.size ≤ b.length), (recordsOf l n b h).length = n
  | 0, _, _ => rfl
  | n + 1, b, _ => congrArg (· + 1) (length_recordsOf l n (b.drop l.size) _)

/-- The record at a position is the slice of the byte string there. -/
theorem bytes_getElem_recordsOf (l : Layout) :
    ∀ (n : Nat) (b : Bytes) (h : n * l.size ≤ b.length) (i : Nat)
      (hi : i < (recordsOf l n b h).length),
      ((recordsOf l n b h)[i]).bytes = Bytes.slice b (i * l.size) l.size
  | 0, _, _, _, hi => absurd hi (Nat.not_lt_zero _)
  | n + 1, b, _, 0, _ => by simp [recordsOf, Bytes.slice]
  | n + 1, b, h, i + 1, hi => by
      have hi' : i < (recordsOf l n (b.drop l.size) (by
          rw [Nat.succ_mul] at h
          rw [List.length_drop]
          omega)).length := Nat.lt_of_succ_lt_succ hi
      have ih := bytes_getElem_recordsOf l n (b.drop l.size) _ i hi'
      simp only [recordsOf, List.getElem_cons_succ]
      rw [ih, Bytes.slice, Bytes.slice, List.drop_drop, Nat.succ_mul, Nat.add_comm]

/-! ## Buffers -/

/-- A header and room for `capacity` elements. -/
structure ReplyBuffer (s : ReplyShape) where
  /-- The number of elements there is room for. -/
  capacity : UInt64
  /-- The bytes of the header, then those of the elements. -/
  bytes : Bytes
  /-- They are exactly as many as header and elements have. -/
  length_eq : bytes.length = s.header.size + capacity.toNat * s.element.size

namespace ReplyBuffer

variable {s : ReplyShape}

/-- A buffer of zeros, given its byte length or the reason why there is none. -/
def ofByteLength (s : ReplyShape) (capacity : UInt64) :
    (n : Except Fault UInt64) → s.byteLength capacity = n → Except Fault (ReplyBuffer s)
  | .error fault, _ => .error fault
  | .ok n, h =>
      .ok ⟨capacity, Bytes.zeros n.toNat, by
        rw [Bytes.length_zeros, ReplyShape.toNat_of_byteLength h]⟩

/-- A buffer of zeros. -/
def ofCapacity (s : ReplyShape) (capacity : UInt64) : Except Fault (ReplyBuffer s) :=
  ofByteLength s capacity (s.byteLength capacity) rfl

theorem ofCapacity_of_byteLength {s : ReplyShape} {capacity : UInt64} {n : Except Fault UInt64}
    (h : s.byteLength capacity = n) : ofCapacity s capacity = ofByteLength s capacity n h := by
  subst h
  rfl

/-- The number of bytes. -/
def size (b : ReplyBuffer s) : Nat := b.bytes.length

/-- The header. -/
def header (b : ReplyBuffer s) : Record s.header :=
  ⟨b.bytes.take s.header.size, by rw [List.length_take, b.length_eq]; omega⟩

/-- The elements a device reports, as far as there is room for them. -/
def elements (b : ReplyBuffer s) (reported : UInt64) : ElementView s.element :=
  ⟨b.bytes.drop s.header.size, if reported < b.capacity then reported else b.capacity, by
    rw [List.length_drop, b.length_eq, Nat.add_sub_cancel_left]
    split
    · rename_i h
      exact Nat.mul_le_mul_right _ (Nat.le_of_lt (UInt64.lt_iff_toNat_lt.mp h))
    · exact Nat.le_refl _⟩

/-- An element the buffer has room for. -/
def element (b : ReplyBuffer s) (index : UInt64) : Except Fault (Record s.element) :=
  (b.elements b.capacity).getChecked index

/-- The buffer with other bytes in it. -/
def withBytes (b : ReplyBuffer s) (new : Bytes) (h : new.length = b.bytes.length) :
    ReplyBuffer s :=
  ⟨b.capacity, new, by rw [h, b.length_eq]⟩

/-- The buffer with bytes written from an offset on. -/
def write (b : ReplyBuffer s) (offset : Nat) (new : Bytes) : ReplyBuffer s :=
  b.withBytes (b.bytes.overwrite offset new) (Bytes.length_overwrite ..)

/-- The view holds the smaller of what is reported and what there is room for. -/
theorem count_elements (b : ReplyBuffer s) (reported : UInt64) :
    (b.elements reported).count.toNat = min reported.toNat b.capacity.toNat := by
  show (if reported < b.capacity then reported else b.capacity).toNat = _
  split
  · rename_i h
    have := UInt64.lt_iff_toNat_lt.mp h
    omega
  · rename_i h
    have := UInt64.le_iff_toNat_le.mp (UInt64.not_lt.mp h)
    omega

/-- Seven elements are reported and there is room for two. -/
example : (elements (s := .sample) ⟨2, [9, 1, 2, 3, 4], rfl⟩ 7).toList.map Record.bytes =
    [[1, 2], [3, 4]] := rfl

end ReplyBuffer

end ScsiInitiator
