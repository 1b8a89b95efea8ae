/-!
# Status bytes

A device ends every command with a *status byte*.  Eight values have names.
Two of them, GOOD and CONDITION MET, mean success.
-/

namespace ScsiInitiator

/-- The status byte that ends a command. -/
structure Status where
  /-- The byte. -/
  code : UInt8
deriving DecidableEq, Repr

namespace Status

/-- The command was done. -/
def good : Status := ⟨0x00⟩
/-- There is sense data about the command. -/
def checkCondition : Status := ⟨0x02⟩
/-- The command was done and found what it looked for. -/
def conditionMet : Status := ⟨0x04⟩
/-- The device has no time for the command. -/
def busy : Status := ⟨0x08⟩
/-- The device is reserved for another initiator. -/
def reservationConflict : Status := ⟨0x18⟩
/-- The device has no place for another command. -/
def taskSetFull : Status := ⟨0x28⟩
/-- The device waits for an earlier failure to be dealt with. -/
def acaActive : Status := ⟨0x30⟩
/-- The command was aborted. -/
def taskAborted : Status := ⟨0x40⟩

/-- The statuses that have a name of their own. -/
def named : List Status :=
  [good, checkCondition, conditionMet, busy, reservationConflict, taskSetFull, acaActive,
    taskAborted]

/-- The name of a status.  The values without one are reserved. -/
def name (s : Status) : String :=
  match s.code with
  | 0x00 => "GOOD"
  | 0x02 => "CHECK CONDITION"
  | 0x04 => "CONDITION MET"
  | 0x08 => "BUSY"
  | 0x18 => "RESERVATION CONFLICT"
  | 0x28 => "TASK SET FULL"
  | 0x30 => "ACA ACTIVE"
  | 0x40 => "TASK ABORTED"
  | _ => "RESERVED"

/-- A status says success if the command did what was asked. -/
def Success (s : Status) : Prop := s = good ∨ s = conditionMet

instance (s : Status) : Decidable s.Success := inferInstanceAs (Decidable (_ ∨ _))

theorem success_iff {s : Status} : s.Success ↔ s.code = 0x00 ∨ s.code = 0x04 := by
  cases s
  simp [Success, good, conditionMet]

/-- Of the statuses with a name two are successes. -/
example : named.filter (·.Success) = [good, conditionMet] := by decide

end Status

end ScsiInitiator
