import ScsiInitiator.Builder
import ScsiInitiator.StreamStatus.CommandBlock
import ScsiInitiator.StreamStatus.Parameters

/-!
# Asking for streams

The draft of GET STREAM STATUS is its command block and the number of
descriptors there should be room for.  The command block has 32 bits for the
number of bytes, which bounds the descriptors.  The bound is checked when the
command is issued, and not when the number is set.
-/

namespace ScsiInitiator.StreamStatus

/-- The largest number of descriptors whose bytes can be counted in 32 bits. -/
def maxDescriptors : UInt32 :=
  UInt32.ofNat ((0xFFFFFFFF - headerLayout.size) / descriptorLayout.size)

/-- The byte length of a header and `count` descriptors. -/
def allocationLength (count : UInt32) : Except Fault UInt32 :=
  if maxDescriptors < count then
    .error (.outOfBounds (.ofText "descriptor length") maxDescriptors.toUInt64 count.toUInt64)
  else .ok (UInt32.ofNat headerLayout.size + count * UInt32.ofNat descriptorLayout.size)

/-- A draft of GET STREAM STATUS. -/
structure StreamDraft where
  /-- The command block, but for the number of bytes. -/
  block : CommandBlock
  /-- The number of descriptors there should be room for. -/
  descriptorLength : UInt32
deriving DecidableEq

/-- A setting of GET STREAM STATUS. -/
inductive Setting
  /-- The first stream that is asked for. -/
  | startingStream (v : UInt16)
  /-- The control byte. -/
  | control (v : UInt8)
  /-- The number of descriptors there should be room for. -/
  | descriptorLength (v : UInt32)
deriving DecidableEq, Repr

namespace StreamDraft

/-- The draft without any setting asks for no descriptors. -/
def blank : StreamDraft := ⟨.blank, 0⟩

/-- The draft with one more setting. -/
def apply : Setting → StreamDraft → StreamDraft
  | .startingStream v, d => { d with block := d.block.setStartingStream v }
  | .control v, d => { d with block := d.block.setControl v }
  | .descriptorLength v, d => { d with descriptorLength := v }

/-- The command a draft becomes.  The reply comes into a buffer of zeros. -/
def command (d : StreamDraft) : Except Fault (Command Report) := do
  let length ← allocationLength d.descriptorLength
  let buffer ← ReplyBuffer.ofCapacity replyShape d.descriptorLength.toUInt64
  return {
    direction := .fromDevice
    commandBlock := some (d.block.setAllocationLength length).bytes
    buffer := some buffer.bytes
    dataSize := length
    finish := fun outcome after => do
      outcome.checkTransport
      outcome.checkDevice
      return Report.ofBuffer (buffer.withBytes after.val after.property) }

end StreamDraft

instance : Draft StreamDraft Setting Report where
  operation := .getStreamStatus
  blank := StreamDraft.blank
  apply := StreamDraft.apply
  command := StreamDraft.command

end ScsiInitiator.StreamStatus
