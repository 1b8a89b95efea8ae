import ScsiInitiator.StreamStatus.Reply
import ScsiInitiator.Transport

/-!
# Scripted devices

A *script* lets a device give the same outcome to every command and fill the
data area of each in the same way: first with a reply about streams, then with
raw bytes over it.  Either may be missing.  A scripted device keeps the data
area as it arrived.
-/

namespace ScsiInitiator

/-- How a device answers every command. -/
structure Script where
  /-- The outcome. -/
  outcome : Outcome := {}
  /-- What is said about streams. -/
  streams : Option StreamStatus.Reply := none
  /-- The bytes at the start of the data area. -/
  bytes : Option Bytes := none
deriving DecidableEq, Repr

namespace Script

/-- What a data area holds afterwards. -/
def fill (s : Script) (area : Bytes) : Bytes :=
  let replied :=
    match s.streams with
    | none => area
    | some reply => reply.write area area.length
  match s.bytes with
  | none => replied
  | some b => Bytes.overwrite replied 0 b

/-- The device that follows a script. -/
def handler (s : Script) : Handler where
  respond _ area := (s.outcome, (area.map s.fill).getD [])
  observes := true

end Script

end ScsiInitiator
