import ScsiInitiator.Fault
import ScsiInitiator.SystemError

/-!
# Outcomes

An *outcome* is what a transport reports after a command.  Three codes belong to
the transport itself: those of the system, the host adapter and the driver.
Status byte and sense bytes come from the device.

The checks look at the transport first.  Only if it worked does the status byte
mean anything.  A driver that reports sense bytes has not failed.
-/

namespace ScsiInitiator

/-- What a transport reports after a command. -/
structure Outcome where
  /-- The error number of the system, zero for none. -/
  systemError : Int32 := 0
  /-- The code of the host adapter, zero for none. -/
  hostStatus : UInt16 := 0
  /-- The code of the driver, zero for none. -/
  driverStatus : UInt16 := 0
  /-- The status byte of the device. -/
  status : Status := .good
  /-- The sense bytes of the device. -/
  sense : Bytes := []
  /-- The number of bytes that were not moved. -/
  residual : Int32 := 0
deriving DecidableEq, Repr

namespace Outcome

/-- The driver code that only tells that there are sense bytes. -/
def driverSense : UInt16 := 0x08

/-- The driver failed. -/
def DriverFailed (o : Outcome) : Prop := o.driverStatus ≠ 0 ∧ o.driverStatus ≠ driverSense

instance (o : Outcome) : Decidable o.DriverFailed := inferInstanceAs (Decidable (_ ∧ _))

/-- A failure of the system, in words. -/
def systemText (code : Int32) : String :=
  "SCSI transport failed: " ++ SystemError.text code.toInt

/-- A failure of host adapter or driver, in words. -/
def adapterText (host driver : UInt16) : String :=
  "SCSI transport failed: host_status=0x" ++ hexadecimal 4 host.toNat ++ " driver_status=0x" ++
    hexadecimal 4 driver.toNat

/-- Refuse the outcome of a transport that failed. -/
def checkTransport (o : Outcome) : Except Fault Unit :=
  if o.systemError ≠ 0 then
    .error (.transport (.ofText (systemText o.systemError)) o.systemError o.hostStatus
      o.driverStatus)
  else if o.hostStatus ≠ 0 ∨ o.DriverFailed then
    .error (.transport (.ofText (adapterText o.hostStatus o.driverStatus)) 0 o.hostStatus
      o.driverStatus)
  else .ok ()

/-- Refuse the outcome of a device that did not succeed. -/
def checkDevice (o : Outcome) : Except Fault Unit :=
  if o.status.Success then .ok () else .error (.device o.status (SenseData.ofBytes o.sense))

/-- Refuse any failure, that of the transport first. -/
def check (o : Outcome) : Except Fault Unit := do
  o.checkTransport
  o.checkDevice

/-- Which failures a command looks for. -/
inductive Scrutiny
  /-- Those of the transport, then those of the device. -/
  | all
  /-- Those of the transport. -/
  | transport
  /-- Those of the device. -/
  | device
  /-- None. -/
  | nothing
deriving DecidableEq, Repr

/-- Refuse the failures that are looked for. -/
def checkFor (o : Outcome) : Scrutiny → Except Fault Unit
  | .all => o.check
  | .transport => o.checkTransport
  | .device => o.checkDevice
  | .nothing => .ok ()

end Outcome

end ScsiInitiator
