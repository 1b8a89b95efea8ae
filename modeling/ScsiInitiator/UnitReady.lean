import ScsiInitiator.Builder
import ScsiInitiator.Record

/-!
# Asking if a unit is ready

TEST UNIT READY moves no data.  Its command block has six bytes, of which the
first is the operation code, zero, and the last the control byte.  The unit is
ready if the command succeeds.
-/

namespace ScsiInitiator.UnitReady

/-! ## The command block -/

/-- The fields of the command block. -/
def commandBlockLayout : Layout := { widths := [8, 32, 8] }

/-- The command block of TEST UNIT READY. -/
structure CommandBlock where
  /-- The fields. -/
  record : Record commandBlockLayout
deriving DecidableEq

namespace CommandBlock

/-- The field of the operation code. -/
def operationCodeField : commandBlockLayout.Field := ⟨0, by decide⟩
/-- The field of the control byte. -/
def controlField : commandBlockLayout.Field := ⟨2, by decide⟩

/-- The bytes that are sent. -/
def bytes (b : CommandBlock) : Bytes := b.record.bytes

/-- The operation code. -/
def operationCode (b : CommandBlock) : UInt8 := (b.record.get operationCodeField).toUInt8

/-- The control byte. -/
def control (b : CommandBlock) : UInt8 := (b.record.get controlField).toUInt8

/-- The command block with another control byte. -/
def setControl (b : CommandBlock) (v : UInt8) : CommandBlock :=
  ⟨b.record.set controlField v.toUInt64 (Layout.fits_uint8 _ _ (by decide) v)⟩

/-- The command block before any setting. -/
def blank : CommandBlock :=
  ⟨(Record.zero commandBlockLayout).set operationCodeField Operation.testUnitReady.code.toUInt64
    (Layout.fits_uint8 _ _ (by decide) _)⟩

/-- Read a command block from the start of a piece of memory. -/
def ofMemory (memory : Option Bytes) (size : Nat) : Except Fault CommandBlock :=
  (Record.ofMemory commandBlockLayout memory size).map CommandBlock.mk

end CommandBlock

/-! ## The command -/

/-- A draft of TEST UNIT READY. -/
structure UnitDraft where
  /-- The command block. -/
  block : CommandBlock
deriving DecidableEq

/-- A setting of TEST UNIT READY. -/
inductive Setting
  /-- The control byte. -/
  | control (v : UInt8)
deriving DecidableEq, Repr

namespace UnitDraft

/-- The draft without any setting. -/
def blank : UnitDraft := ⟨.blank⟩

/-- The draft with one more setting. -/
def apply : Setting → UnitDraft → UnitDraft
  | .control v, d => ⟨d.block.setControl v⟩

/-- The command a draft becomes. -/
def command (d : UnitDraft) : Command Unit where
  direction := .none
  commandBlock := some d.block.bytes
  buffer := noData
  dataSize := 0
  finish outcome _ := outcome.check

end UnitDraft

instance : Draft UnitDraft Setting Unit where
  operation := .testUnitReady
  blank := UnitDraft.blank
  apply := UnitDraft.apply
  command d := .ok d.command

end ScsiInitiator.UnitReady
