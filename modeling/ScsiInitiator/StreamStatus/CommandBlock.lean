import ScsiInitiator.Record

/-!
# The command block of GET STREAM STATUS

Sixteen bytes.  The first one holds the operation code and the second one, in
its low five bits, the service action that tells this command from others with
the same code.  Three fields can be set: the first stream that is asked for, the
number of bytes there is room for, and the control byte.  All other bits are
reserved.
-/

namespace ScsiInitiator.StreamStatus

/-- The fields of the command block. -/
def commandBlockLayout : Layout := { widths := [8, 3, 5, 16, 16, 32, 32, 8, 8] }

/-- The service action of the command. -/
def serviceAction : UInt8 := 0x16

/-- The command block of GET STREAM STATUS. -/
structure CommandBlock where
  /-- The fields. -/
  record : Record commandBlockLayout
deriving DecidableEq

namespace CommandBlock

/-- The field of the operation code. -/
def operationCodeField : commandBlockLayout.Field := ⟨0, by decide⟩
/-- The field of the service action. -/
def serviceActionField : commandBlockLayout.Field := ⟨2, by decide⟩
/-- The field of the first stream that is asked for. -/
def startingStreamField : commandBlockLayout.Field := ⟨4, by decide⟩
/-- The field of the number of bytes there is room for. -/
def allocationLengthField : commandBlockLayout.Field := ⟨6, by decide⟩
/-- The field of the control byte. -/
def controlField : commandBlockLayout.Field := ⟨8, by decide⟩

/-- The bytes that are sent. -/
def bytes (b : CommandBlock) : Bytes := b.record.bytes

/-- The operation code. -/
def operationCode (b : CommandBlock) : UInt8 := (b.record.get operationCodeField).toUInt8

/-- The service action. -/
def serviceAction (b : CommandBlock) : UInt8 := (b.record.get serviceActionField).toUInt8

/-- The first stream that is asked for. -/
def startingStream (b : CommandBlock) : UInt16 := (b.record.get startingStreamField).toUInt16

/-- The number of bytes there is room for. -/
def allocationLength (b : CommandBlock) : UInt32 := (b.record.get allocationLengthField).toUInt32

/-- The control byte. -/
def control (b : CommandBlock) : UInt8 := (b.record.get controlField).toUInt8

/-- The command block with another first stream. -/
def setStartingStream (b : CommandBlock) (v : UInt16) : CommandBlock :=
  ⟨b.record.set startingStreamField v.toUInt64 (Layout.fits_uint16 _ _ (by decide) v)⟩

/-- The command block with another number of bytes. -/
def setAllocationLength (b : CommandBlock) (v : UInt32) : CommandBlock :=
  ⟨b.record.set allocationLengthField v.toUInt64 (Layout.fits_uint32 _ _ (by decide) v)⟩

/-- The command block with another control byte. -/
def setControl (b : CommandBlock) (v : UInt8) : CommandBlock :=
  ⟨b.record.set controlField v.toUInt64 (Layout.fits_uint8 _ _ (by decide) v)⟩

/-- The command block before any setting: operation code and service action. -/
def blank : CommandBlock :=
  ⟨((Record.zero commandBlockLayout).set operationCodeField
      Operation.getStreamStatus.code.toUInt64 (Layout.fits_uint8 _ _ (by decide) _)).set
    serviceActionField StreamStatus.serviceAction.toUInt64 (by decide)⟩

/-- Read a command block from the start of a piece of memory. -/
def ofMemory (memory : Option Bytes) (size : Nat) : Except Fault CommandBlock :=
  (Record.ofMemory commandBlockLayout memory size).map CommandBlock.mk

end CommandBlock

end ScsiInitiator.StreamStatus
