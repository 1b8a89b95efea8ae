import ScsiInitiator.ReplyBuffer

/-!
# The parameters a device sends about its streams

A header of eight bytes, then a *descriptor* of eight bytes for each stream.
The header says how long the parameters are and how many streams are open.  A
descriptor says which stream it stands for.

The device may have more streams than there is room for, and the header counts
all of them.  A *report* has that count, as the device gives it, and the
identifiers of the streams whose descriptors are there.
-/

namespace ScsiInitiator.StreamStatus

/-! ## The header -/

/-- The fields of the header. -/
def headerLayout : Layout := { widths := [32, 16, 16] }

/-- The header of the parameters. -/
structure Header where
  /-- The fields. -/
  record : Record headerLayout
deriving DecidableEq

namespace Header

/-- The field of the length. -/
def lengthField : headerLayout.Field := ⟨0, by decide⟩
/-- The field of the number of open streams. -/
def openStreamsField : headerLayout.Field := ⟨2, by decide⟩

/-- The bytes of the header. -/
def bytes (h : Header) : Bytes := h.record.bytes

/-- How long the parameters are. -/
def length (h : Header) : UInt32 := (h.record.get lengthField).toUInt32

/-- How many streams are open. -/
def openStreams (h : Header) : UInt16 := (h.record.get openStreamsField).toUInt16

/-- The header with another length. -/
def setLength (h : Header) (v : UInt32) : Header :=
  ⟨h.record.set lengthField v.toUInt64 (Layout.fits_uint32 _ _ (by decide) v)⟩

/-- The header with another number of open streams. -/
def setOpenStreams (h : Header) (v : UInt16) : Header :=
  ⟨h.record.set openStreamsField v.toUInt64 (Layout.fits_uint16 _ _ (by decide) v)⟩

/-- The header of zeros. -/
def blank : Header := ⟨Record.zero _⟩

/-- Read a header from the start of a piece of memory. -/
def ofMemory (memory : Option Bytes) (size : Nat) : Except Fault Header :=
  (Record.ofMemory headerLayout memory size).map Header.mk

/-- The part of the length that is not for descriptors. -/
def overhead : UInt32 := 8

end Header

/-! ## Descriptors -/

/-- The fields of a descriptor. -/
def descriptorLayout : Layout := { widths := [16, 16, 32] }

/-- The descriptor of one stream. -/
structure Descriptor where
  /-- The fields. -/
  record : Record descriptorLayout
deriving DecidableEq

namespace Descriptor

/-- The field of the stream. -/
def identifierField : descriptorLayout.Field := ⟨1, by decide⟩

/-- The bytes of the descriptor. -/
def bytes (d : Descriptor) : Bytes := d.record.bytes

/-- The stream. -/
def identifier (d : Descriptor) : UInt16 := (d.record.get identifierField).toUInt16

/-- The descriptor of another stream. -/
def setIdentifier (d : Descriptor) (v : UInt16) : Descriptor :=
  ⟨d.record.set identifierField v.toUInt64 (Layout.fits_uint16 _ _ (by decide) v)⟩

/-- The descriptor of zeros. -/
def blank : Descriptor := ⟨Record.zero _⟩

/-- Read a descriptor from the start of a piece of memory. -/
def ofMemory (memory : Option Bytes) (size : Nat) : Except Fault Descriptor :=
  (Record.ofMemory descriptorLayout memory size).map Descriptor.mk

theorem length_bytes (d : Descriptor) : d.bytes.length = descriptorLayout.size := d.record.length_eq

end Descriptor

/-- The number of descriptors a header reports. -/
def Header.reported (h : Header) : UInt64 :=
  if h.length < overhead then 0
  else ((h.length - overhead) / UInt32.ofNat descriptorLayout.size).toUInt64

theorem Header.length_bytes (h : Header) : h.bytes.length = headerLayout.size := h.record.length_eq

/-! ## Reports -/

/-- The header of the parameters and its descriptors. -/
def replyShape : ReplyShape where
  header := headerLayout
  element := descriptorLayout

/-- What a device reports about its streams. -/
structure Report where
  /-- The number of streams, whether there was room for them or not. -/
  total : UInt64
  /-- The number of streams that are open. -/
  openStreams : UInt16
  /-- The streams there was room for, in the order of the device. -/
  identifiers : List UInt16
deriving DecidableEq, Repr

/-- Read a report from a buffer. -/
def Report.ofBuffer (b : ReplyBuffer replyShape) : Report :=
  let header : Header := ⟨b.header⟩
  { total := header.reported
    openStreams := header.openStreams
    identifiers := (b.elements header.reported).toList.map fun r => Descriptor.identifier ⟨r⟩ }

end ScsiInitiator.StreamStatus
