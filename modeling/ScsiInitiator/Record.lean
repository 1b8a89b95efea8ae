import ScsiInitiator.Bits
import ScsiInitiator.Fault
import ScsiInitiator.Layout

/-!
# Records

A *record* of a layout is a byte string of exactly the size of the layout.  Its
fields are read and written as numbers, and its bytes are what is sent.

`Record.setChecked` refuses a value that does not fit in its field.  Where the
type of a value already tells that it fits, `Record.set` takes that as a proof
and cannot fail.  `Record.ofMemory` reads a record from the start of a piece of
memory, which may be missing or too short.
-/

namespace ScsiInitiator

/-- A byte string of the size of a layout. -/
structure Record (l : Layout) where
  /-- The bytes of the record. -/
  bytes : Bytes
  /-- They are as many as the layout has. -/
  length_eq : bytes.length = l.size
deriving DecidableEq

namespace Record

variable {l : Layout}

/-- The record with every bit zero. -/
def zero (l : Layout) : Record l := ⟨Bytes.zeros l.size, Bytes.length_zeros _⟩

/-- The value of a field. -/
def get (r : Record l) (i : l.Field) : UInt64 := r.bytes.getBits (l.offset i) (l.width i)

/-- The values of all fields, first field first. -/
def values (r : Record l) : List UInt64 := (List.finRange l.widths.length).map r.get

/-- The record with a value that fits in a field. -/
def set (r : Record l) (i : l.Field) (v : UInt64) (_fits : l.Fits i v) : Record l :=
  ⟨r.bytes.setBits (l.offset i) (l.width i) v, by rw [Bytes.length_setBits, r.length_eq]⟩

/-- The record with a value in a field, if the value fits. -/
def setChecked (r : Record l) (i : l.Field) (v : UInt64) : Except Fault (Record l) :=
  if h : l.Fits i v then .ok (r.set i v h)
  else .error (.valueTooWide v i.val (l.width i))

/-- The record at the start of a piece of memory that is said to have `size`
bytes.  `none` is memory that is missing. -/
def ofMemory (l : Layout) (memory : Option Bytes) (size : Nat) : Except Fault (Record l) :=
  match memory with
  | none => .error (.recordTooShort l.size size)
  | some b =>
      if h : l.size ≤ min size b.length then
        .ok ⟨b.take l.size, by rw [List.length_take]; omega⟩
      else .error (.recordTooShort l.size size)

theorem ext_bytes {r s : Record l} (h : r.bytes = s.bytes) : r = s := by
  cases r
  cases s
  cases h
  rfl

theorem setChecked_of_fits (r : Record l) {i : l.Field} {v : UInt64} (h : l.Fits i v) :
    r.setChecked i v = .ok (r.set i v h) := dif_pos h

theorem setChecked_of_not_fits (r : Record l) {i : l.Field} {v : UInt64} (h : ¬l.Fits i v) :
    r.setChecked i v = .error (.valueTooWide v i.val (l.width i)) := dif_neg h

/-- The bytes of a record are that record again, whatever follows them. -/
theorem ofMemory_append (r : Record l) (rest : Bytes) :
    ofMemory l (some (r.bytes ++ rest)) (r.bytes ++ rest).length = .ok r := by
  have h : l.size ≤ (r.bytes ++ rest).length := by
    rw [List.length_append, r.length_eq]
    omega
  rw [ofMemory, dif_pos (by rwa [Nat.min_self])]
  exact congrArg Except.ok (ext_bytes (by simp [← r.length_eq]))

end Record

end ScsiInitiator
