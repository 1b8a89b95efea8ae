/-!
# Operations

The operations a prepared command can stand for, with their names and the
operation codes that open their command blocks.
-/

namespace ScsiInitiator

/-- An operation that has a command of its own. -/
inductive Operation
  /-- Ask a device for the streams it has. -/
  | getStreamStatus
  /-- Ask a device if it is ready. -/
  | testUnitReady
deriving DecidableEq, Repr

namespace Operation

/-- The name of an operation. -/
def name : Operation → String
  | getStreamStatus => "GET STREAM STATUS"
  | testUnitReady => "TEST UNIT READY"

/-- The first byte of the command block. -/
def code : Operation → UInt8
  | getStreamStatus => 0x9E
  | testUnitReady => 0x00

end Operation

end ScsiInitiator
