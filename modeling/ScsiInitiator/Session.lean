import ScsiInitiator.Call
import ScsiInitiator.StreamStatus.Command
import ScsiInitiator.UnitReady

/-!
# Sessions

A *session* is a transport and the builders that use it, each under a name.  Any
number of initiators share the transport.  A session goes from *step* to step,
and each step has an *answer* or a fault.

A step installs a handler, looks at what was recorded, calls a builder, or
issues a plain transfer.  `Session.run` does steps one after another and notes
the answer of each, with the number of requests the transport has received by
then.
-/

namespace ScsiInitiator

/-! ## Steps -/

/-- A transport and the builders that use it. -/
structure Session where
  /-- The transport all initiators share. -/
  transport : Transport := {}
  /-- The builders of GET STREAM STATUS. -/
  streams : Slots (Builder StreamStatus.StreamDraft) := .empty
  /-- The builders of TEST UNIT READY. -/
  units : Slots (Builder UnitReady.UnitDraft) := .empty

/-- A step of a session. -/
inductive Step
  /-- Let another device answer from now on. -/
  | install (handler : Handler)
  /-- Ask for the settings of an initiator. -/
  | settings (on : Initiator)
  /-- Ask for the latest request. -/
  | latestRequest
  /-- Ask for all requests. -/
  | requests
  /-- Ask for the data area as it arrived last. -/
  | seen
  /-- Call a builder of GET STREAM STATUS. -/
  | stream (call : Call StreamStatus.Setting)
  /-- Call a builder of TEST UNIT READY. -/
  | unit (call : Call UnitReady.Setting)
  /-- Issue a plain transfer. -/
  | issue (on : Initiator) (command : Command Transfer)

/-- The answer of a step. -/
inductive Answer
  /-- The step has nothing to say. -/
  | done
  /-- The settings of an initiator. -/
  | settings (s : Settings)
  /-- One request. -/
  | request (r : Request)
  /-- All requests, oldest first. -/
  | requests (rs : List Request)
  /-- A data area, if there was one. -/
  | seen (area : Option Bytes)
  /-- A builder was issued, or was not. -/
  | issued (b : Bool)
  /-- What a device reports about its streams. -/
  | report (r : StreamStatus.Report)
  /-- What a plain transfer gives. -/
  | transfer (t : Transfer)
deriving DecidableEq, Repr

/-- The answer of a call as the answer of a step, given that of a result. -/
def CallAnswer.toAnswer {α : Type} (result : α → Answer) : CallAnswer α → Answer
  | .done => .done
  | .issued b => .issued b
  | .result a => result a

namespace Session

/-- Do a step. -/
def step (s : Session) : Step → Session × Except Fault Answer
  | .install handler => ({ s with transport := { s.transport with handler } }, .ok .done)
  | .settings on => (s, .ok (.settings on.settings))
  | .latestRequest => (s, s.transport.latestRequest.map .request)
  | .requests => (s, .ok (.requests s.transport.requests))
  | .seen => (s, .ok (.seen s.transport.seen))
  | .stream call =>
      let (streams, transport, answer) := call.perform s.streams s.transport
      ({ s with streams, transport }, answer.map (·.toAnswer .report))
  | .unit call =>
      let (units, transport, answer) := call.perform s.units s.transport
      ({ s with units, transport }, answer.map (·.toAnswer fun _ => .done))
  | .issue on command =>
      let (transport, result) := on.issue command s.transport
      ({ s with transport }, result.map .transfer)

/-- What is noted after a step. -/
structure Entry where
  /-- The answer of the step. -/
  answer : Except Fault Answer
  /-- The number of requests so far. -/
  calls : Nat

/-- Do steps one after another, and note each of them. -/
def run (s : Session) : List Step → Session × List Entry
  | [] => (s, [])
  | x :: xs =>
      let (s', answer) := s.step x
      let (last, entries) := run s' xs
      (last, ⟨answer, s'.transport.requestCount⟩ :: entries)

end Session

end ScsiInitiator
