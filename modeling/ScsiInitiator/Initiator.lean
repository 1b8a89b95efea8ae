import ScsiInitiator.Transport

/-!
# Initiators

An *initiator* issues commands under sound settings.  A *command* says which way
its data goes, brings its command block and its data buffer, says how many bytes
to move, and knows what to make of the outcome and of the buffer afterwards.

The data buffer is a piece of memory that may be missing.  A buffer without
memory has no bytes.  A buffer that is there may have none either, and its memory
is handed over all the same.

`Initiator.dispatch` is the one way to the transport.  It refuses a command
without a command block, a command that would move more than its buffer has, and
a reply that is not the whole buffer.  The transport then sees the bytes that
are moved and nothing else.  The rest of the buffer stays as it was, and so does
all of it if no data moves.

A refused command leaves the transport alone.  This is why `dispatch` gives a
transport only if it succeeds.
-/

namespace ScsiInitiator

/-! ## Initiators and commands -/

/-- The settings of an initiator, known to be sound. -/
structure Initiator where
  /-- The settings. -/
  settings : Settings
  /-- They are sound. -/
  sound : settings.Sound := by decide

/-- Refuse settings that are not sound. -/
def Settings.check (s : Settings) : Except Fault Unit :=
  if s.Sound then .ok () else .error (.unsoundSettings s.flaws)

/-- The initiator with given settings. -/
def Initiator.ofSettings (s : Settings) : Except Fault Initiator :=
  if h : s.Sound then .ok ⟨s, h⟩ else .error (.unsoundSettings s.flaws)

/-- An initiator with default settings. -/
def Initiator.default : Initiator := ⟨{}, Settings.sound_default⟩

/-- A command and what becomes of its outcome. -/
structure Command (α : Type) where
  /-- Which way the data goes. -/
  direction : Direction
  /-- The command block, if there is one. -/
  commandBlock : Option Bytes
  /-- The memory of the data buffer, if it has any. -/
  buffer : Option Bytes
  /-- The number of bytes to move. -/
  dataSize : UInt32
  /-- The result, from the outcome and the bytes of the data buffer afterwards. -/
  finish : Outcome → { after : Bytes // after.length = (Bytes.ofMemory buffer).length } →
    Except Fault α

/-- The data buffer of a command without data.  It has no memory. -/
def noData : Option Bytes := none

/-! ## Dispatch -/

/-- The memory the transport is given: none if no data moves, else that of the
data buffer as far as data moves.  A data buffer without memory has none to
give. -/
def dataArea (direction : Direction) (buffer : Option Bytes) (size : Nat) : Option Bytes :=
  if direction = .none then none else buffer.map (·.take size)

/-- What comes back from the transport. -/
structure Exchange (buffer : Option Bytes) where
  /-- The transport, with the request recorded. -/
  transport : Transport
  /-- The outcome it reports. -/
  outcome : Outcome
  /-- The bytes of the data buffer afterwards. -/
  after : { after : Bytes // after.length = (Bytes.ofMemory buffer).length }

/-- The bytes of a data buffer with its data area replaced. -/
def withArea (buffer area : Option Bytes) :
    { after : Bytes // after.length = (Bytes.ofMemory buffer).length } :=
  match area with
  | none => ⟨.ofMemory buffer, rfl⟩
  | some a => ⟨(Bytes.ofMemory buffer).overwrite 0 a, Bytes.length_overwrite ..⟩

/-- Refuse a command block that is missing or empty. -/
def checkCommandBlock : Option Bytes → Except Fault Bytes
  | some (x :: b) => .ok (x :: b)
  | _ => .error .emptyCommandBlock

/-- Refuse a number of bytes to move that does not suit the data buffer. -/
def checkDataSize (direction : Direction) (size : UInt32) (buffer : Nat) : Except Fault Unit :=
  if direction ≠ .none ∧ buffer < size.toNat then .error (.dataExceedsBuffer size buffer)
  else if direction = .fromDevice ∧ size.toNat ≠ buffer then
    .error (.dataDiffersFromReply size buffer)
  else .ok ()

namespace Initiator

/-- The request that is recorded for a command. -/
def request (i : Initiator) (direction : Direction) (commandBlock : Bytes)
    (buffer : Option Bytes) (size : UInt32) : Request where
  direction
  commandBlock
  dataLength := if direction = .none then 0 else size
  hasDataArea := (dataArea direction buffer size.toNat).isSome
  timeout := i.settings.timeout
  senseBufferSize := i.settings.senseBufferSize

/-- Hand a command to the transport, unless it is refused. -/
def dispatch (i : Initiator) (t : Transport) (direction : Direction)
    (commandBlock buffer : Option Bytes) (size : UInt32) : Except Fault (Exchange buffer) := do
  let block ← checkCommandBlock commandBlock
  checkDataSize direction size (Bytes.ofMemory buffer).length
  let (t', outcome, area) :=
    t.execute (i.request direction block buffer size) (dataArea direction buffer size.toNat)
  return ⟨t', outcome, withArea buffer area⟩

/-- Issue a command and give its result. -/
def issue {α : Type} (i : Initiator) (c : Command α) (t : Transport) :
    Transport × Except Fault α :=
  match i.dispatch t c.direction c.commandBlock c.buffer c.dataSize with
  | .error fault => (t, .error fault)
  | .ok exchange => (exchange.transport, c.finish exchange.outcome exchange.after)

end Initiator

/-! ## Plain transfers -/

/-- What a plain transfer gives. -/
structure Transfer where
  /-- The bytes of the data buffer afterwards. -/
  buffer : Bytes
  /-- The outcome the transport reported. -/
  outcome : Outcome
deriving DecidableEq, Repr

/-- A command that gives outcome and data buffer as they are, after looking for
some failures. -/
def Command.transfer (direction : Direction) (commandBlock buffer : Option Bytes)
    (dataSize : UInt32) (scrutiny : Outcome.Scrutiny) : Command Transfer where
  direction
  commandBlock
  buffer
  dataSize
  finish outcome after := do
    outcome.checkFor scrutiny
    return ⟨after.val, outcome⟩

end ScsiInitiator
