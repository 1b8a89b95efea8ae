import ScsiInitiator.Numeral
import ScsiInitiator.Operation
import ScsiInitiator.Sense
import ScsiInitiator.Settings
import ScsiInitiator.Status

/-!
# Faults

A *fault* is the reason why a call of the library fails, one constructor for
each cause with the values that belong to it.  `Fault.kind` says of which kind a
fault is, which is all that callers tell apart, and `Fault.message` puts it in
words.

Three causes come from beyond the library.  An argument may be out of bounds,
in which case nothing is sent.  The transport may fail, and then it is unknown
what the device did.  The device may have run the command and reported a
failure of its own.

Words are bytes here.  The name of an argument and the text of a transport come
from outside, and such bytes need not be a text in UTF-8.
-/

namespace ScsiInitiator

/-- Why a call fails. -/
inductive Fault
  /-- A value does not fit in the field of a record. -/
  | valueTooWide (value : UInt64) (field width : Nat)
  /-- A record is read from memory that is missing or too short. -/
  | recordTooShort (needed actual : Nat)
  /-- An initiator is set up with unsound settings. -/
  | unsoundSettings (flaws : List Settings.Flaw)
  /-- An element is asked for beyond those there are. -/
  | noSuchElement (index size : UInt64)
  /-- The byte length of a reply buffer does not fit in 64 bits. -/
  | capacityTooLarge (capacity : UInt64)
  /-- A command has no command block. -/
  | emptyCommandBlock
  /-- A command moves more bytes than its data buffer has. -/
  | dataExceedsBuffer (size : UInt32) (buffer : Nat)
  /-- A command takes other than a whole reply buffer of bytes. -/
  | dataDiffersFromReply (size : UInt32) (buffer : Nat)
  /-- A prepared command is used after it was issued. -/
  | alreadyIssued (operation : Operation)
  /-- The last request is asked for before there was one. -/
  | noRequest
  /-- A session has no prepared command of this name. -/
  | noSuchBuilder (id : String)
  /-- An argument is above its limit. -/
  | outOfBounds (argument : Bytes) (limit value : UInt64)
  /-- The transport failed.  The codes are those of the system, the host
  adapter and the driver. -/
  | transport (text : Bytes) (systemError : Int32) (hostStatus driverStatus : UInt16)
  /-- The device reported a failure. -/
  | device (status : Status) (sense : SenseData)
deriving DecidableEq, Repr

namespace Fault

/-! ## Kinds -/

/-- The kinds of faults. -/
inductive Kind
  /-- A value, a piece of memory or the settings do not do. -/
  | invalidArgument
  /-- There is no such element. -/
  | outOfRange
  /-- A length is too large to be counted. -/
  | lengthError
  /-- A call is not allowed, or a command contradicts itself. -/
  | logicError
  /-- An argument is above its limit. -/
  | argumentOutOfBounds
  /-- The transport failed. -/
  | transportError
  /-- The device reported a failure. -/
  | deviceError
  /-- A session does not know a name. -/
  | unknownName
deriving DecidableEq, Repr

/-- The name of a kind. -/
def Kind.name : Kind → String
  | invalidArgument => "invalid_argument"
  | outOfRange => "out_of_range"
  | lengthError => "length_error"
  | logicError => "logic_error"
  | argumentOutOfBounds => "ArgumentOutOfBoundsError"
  | transportError => "TransportError"
  | deviceError => "DeviceError"
  | unknownName => "bad_request"

/-- The kind of a fault. -/
def kind : Fault → Kind
  | valueTooWide .. => .invalidArgument
  | recordTooShort .. => .invalidArgument
  | unsoundSettings .. => .invalidArgument
  | noSuchElement .. => .outOfRange
  | capacityTooLarge .. => .lengthError
  | emptyCommandBlock => .logicError
  | dataExceedsBuffer .. => .logicError
  | dataDiffersFromReply .. => .logicError
  | alreadyIssued .. => .logicError
  | noRequest => .logicError
  | noSuchBuilder .. => .unknownName
  | outOfBounds .. => .argumentOutOfBounds
  | transport .. => .transportError
  | device .. => .deviceError

/-! ## Messages

A message ends before its first NUL byte.  Only words from outside can bring
one: the name of an argument, or the text of a transport. -/

/-- Words up to their first NUL byte. -/
def untilNul (b : Bytes) : Bytes := b.takeWhile (· != 0)

/-- Words without a NUL byte end where they end. -/
theorem untilNul_of_not_mem {b : Bytes} (h : 0 ∉ b) : untilNul b = b := by
  have hp : ∀ x ∈ b, (x != 0) = true := fun x hx => bne_iff_ne.mpr fun h0 => h (h0 ▸ hx)
  simpa [untilNul] using @List.takeWhile_append_of_pos UInt8 (· != 0) b [] hp

/-- An argument above its limit, in words. -/
def outOfBoundsText (argument : Bytes) (limit value : UInt64) : Bytes :=
  argument ++ .ofText " is out of bounds. The maximum possible value is " ++
    .ofText (decimal limit.toNat) ++ .ofText ", but " ++ .ofText (decimal value.toNat) ++
    .ofText " was provided."

/-- A failure of a device, in words. -/
def deviceText (status : Status) (sense : SenseData) : String :=
  "SCSI status 0x" ++ hexadecimal 2 status.code.toNat ++ " (" ++ status.name ++ ")" ++
    (if sense.valid then ": " ++ sense.text else "")

/-- A fault in words. -/
def message : Fault → Bytes
  | valueTooWide value field width =>
      .ofText ("Value " ++ decimal value.toNat ++ " does not fit in field " ++ decimal field ++
        " (" ++ decimal width ++ " bits)")
  | recordTooShort needed actual =>
      .ofText ("BitLayout requires " ++ decimal needed ++ " bytes (actual: " ++ decimal actual ++
        ")")
  | unsoundSettings flaws => .ofText ("ScsiConfig validation failed: " ++ Settings.joined flaws)
  | noSuchElement index size =>
      .ofText ("Element index " ++ decimal index.toNat ++ " out of range (size: " ++
        decimal size.toNat ++ ")")
  | capacityTooLarge capacity =>
      .ofText ("FlexibleBuffer capacity too large: " ++ decimal capacity.toNat)
  | emptyCommandBlock => .ofText "Command produced an empty CDB"
  | dataExceedsBuffer size buffer =>
      .ofText ("Command data size " ++ decimal size.toNat ++ " exceeds its data buffer (" ++
        decimal buffer ++ " bytes)")
  | dataDiffersFromReply size buffer =>
      .ofText ("Command data size " ++ decimal size.toNat ++
        " does not match its reply buffer (" ++ decimal buffer ++ " bytes)")
  | alreadyIssued operation => .ofText (operation.name ++ " command has already been issued")
  | noRequest => .ofText "ScriptedTransport has not received any request"
  | noSuchBuilder id => .ofText ("No prepared command is named " ++ id)
  | outOfBounds argument limit value => untilNul (outOfBoundsText argument limit value)
  | transport text _ _ _ => untilNul text
  | device status sense => .ofText (deviceText status sense)

end Fault

end ScsiInitiator
