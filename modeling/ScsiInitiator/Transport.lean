import ScsiInitiator.Direction
import ScsiInitiator.Outcome

/-!
# Transports

A *transport* takes one command at a time to a device.  It is given the command
block and a *data area* of fixed length, and it may fill that area.  A command
without data has no area at all, which is not the same as an area of no bytes.

The transport here records a *request* for every command it is given, and then
lets a *handler* stand for the device.  A handler is a function of the command
block and of the data area as it arrives.  It gives an outcome and the bytes
that the area holds from its start on.  What does not fit in the area is lost,
so a handler never changes the length of an area nor anything outside it.
-/

namespace ScsiInitiator

/-! ## Requests and handlers -/

/-- What is recorded of a command. -/
structure Request where
  /-- Which way the data goes. -/
  direction : Direction
  /-- The command block. -/
  commandBlock : Bytes
  /-- The number of bytes to move. -/
  dataLength : UInt32
  /-- There is a data area. -/
  hasDataArea : Bool
  /-- How long the command may take, in milliseconds. -/
  timeout : Int64
  /-- How many sense bytes are taken back. -/
  senseBufferSize : UInt64
deriving DecidableEq, Repr

/-- A device, as the transport sees it. -/
structure Handler where
  /-- The outcome of a command block under a data area, and what the area holds
  from its start on. -/
  respond : Bytes → Option Bytes → Outcome × Bytes
  /-- The data area is kept as it arrived. -/
  observes : Bool

/-- The device that succeeds and leaves the data area alone. -/
def Handler.silent : Handler := ⟨fun _ _ => ({}, []), false⟩

/-! ## Transports -/

/-- A transport with its record. -/
structure Transport where
  /-- The device that answers. -/
  handler : Handler := .silent
  /-- The requests so far, oldest first. -/
  requests : List Request := []
  /-- The data area as it arrived at the last handler that observes. -/
  seen : Option Bytes := none

namespace Transport

/-- The number of requests so far. -/
def requestCount (t : Transport) : Nat := t.requests.length

/-- The latest request. -/
def latestRequest (t : Transport) : Except Fault Request :=
  match t.requests.getLast? with
  | none => .error .noRequest
  | some request => .ok request

/-- Record a request and let the handler answer it.  The last component is the
data area afterwards. -/
def execute (t : Transport) (request : Request) (area : Option Bytes) :
    Transport × Outcome × Option Bytes :=
  let answer := t.handler.respond request.commandBlock area
  ({ t with
      requests := t.requests ++ [request]
      seen := if t.handler.observes then area else t.seen },
    answer.1,
    area.map fun before => before.overwrite 0 answer.2)

/-- A request is recorded at the end. -/
theorem requests_execute (t : Transport) (request : Request) (area : Option Bytes) :
    (t.execute request area).1.requests = t.requests ++ [request] := rfl

theorem length_area_execute (t : Transport) (request : Request) (area : Option Bytes) :
    (t.execute request area).2.2.map List.length = area.map List.length := by
  cases area with
  | none => rfl
  | some before => exact congrArg some (Bytes.length_overwrite ..)

end Transport

end ScsiInitiator
