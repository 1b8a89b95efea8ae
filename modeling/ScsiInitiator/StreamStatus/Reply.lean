import ScsiInitiator.StreamStatus.Parameters

/-!
# Writing a reply about streams

The device side of GET STREAM STATUS: header and descriptors are written to the
start of a data area, as far as they fit.  A record is written whole or not at
all, and what is not written stays as it was.
-/

namespace ScsiInitiator.StreamStatus

/-- What a device says about its streams.  The length need not suit the
identifiers. -/
structure Reply where
  /-- The length of the parameters. -/
  length : UInt32
  /-- The number of streams that are open. -/
  openStreams : UInt16
  /-- The streams, in order. -/
  identifiers : List UInt16
deriving DecidableEq, Repr

namespace Reply

/-- The header of a reply. -/
def header (r : Reply) : Header := (Header.blank.setLength r.length).setOpenStreams r.openStreams

/-- Write a descriptor for each stream to the start of `area`, while `room` bytes
last. -/
def writeDescriptors : (area : Bytes) → (room : Nat) → List UInt16 → Bytes
  | area, _, [] => area
  | area, room, id :: ids =>
      if room < descriptorLayout.size then area
      else
        (Descriptor.blank.setIdentifier id).bytes ++
          writeDescriptors (area.drop descriptorLayout.size) (room - descriptorLayout.size) ids

/-- Write a reply to the first `limit` bytes of `area`, if they have room for the
header. -/
def write (r : Reply) (area : Bytes) (limit : Nat) : Bytes :=
  let room := min limit area.length
  if room < headerLayout.size then area
  else
    r.header.bytes ++
      writeDescriptors (area.drop headerLayout.size) (room - headerLayout.size) r.identifiers

/-- Write a reply to the first `limit` bytes of a piece of memory, if there is
any. -/
def writeTo (r : Reply) (memory : Option Bytes) (limit : Nat) : Option Bytes :=
  memory.map fun area => r.write area limit

theorem length_writeDescriptors :
    ∀ (area : Bytes) (room : Nat) (ids : List UInt16), room ≤ area.length →
      (writeDescriptors area room ids).length = area.length
  | _, _, [], _ => rfl
  | area, room, id :: ids, h => by
      rw [writeDescriptors]
      split
      · rfl
      · have ih := length_writeDescriptors (area.drop descriptorLayout.size)
          (room - descriptorLayout.size) ids (by rw [List.length_drop]; omega)
        rw [List.length_append, ih, Descriptor.length_bytes, List.length_drop]
        omega

@[simp] theorem length_write (r : Reply) (area : Bytes) (limit : Nat) :
    (r.write area limit).length = area.length := by
  unfold write
  dsimp only
  split
  · rfl
  · rw [List.length_append, Header.length_bytes, length_writeDescriptors _ _ _
      (by rw [List.length_drop]; omega), List.length_drop]
    omega

end Reply

end ScsiInitiator.StreamStatus
