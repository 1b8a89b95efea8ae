import ScsiInitiator.Builder

/-!
# What dispatch does with an accepted command

A command that passes the checks reaches the transport once, and its result is
made from what comes back (`Initiator.issue_of_accepted`).  A command that takes
a whole buffer from the device hands the transport all of that buffer
(`dataArea_fromDevice`) and gets back what the transport left there
(`withArea_of_length_eq`).
-/

namespace ScsiInitiator

/-! ## Checks and areas -/

theorem checkCommandBlock_of_ne_nil {block : Bytes} (h : block ≠ []) :
    checkCommandBlock (some block) = .ok block := by
  cases block with
  | nil => exact absurd rfl h
  | cons x b => rfl

theorem checkDataSize_fromDevice {size : UInt32} {n : Nat} (h : size.toNat = n) :
    checkDataSize .fromDevice size n = .ok () := by
  rw [checkDataSize, if_neg (by omega), if_neg (fun hc => hc.2 h)]

theorem dataArea_fromDevice {buffer : Bytes} {size : Nat} (hs : size = buffer.length) :
    dataArea .fromDevice (some buffer) size = some buffer := by
  rw [dataArea, if_neg Direction.noConfusion, Option.map_some, hs, List.take_length]

theorem withArea_of_length_eq {buffer area : Bytes} (h : area.length = buffer.length) :
    withArea (some buffer) (some area) = ⟨area, h⟩ :=
  Subtype.ext (Bytes.overwrite_zero_of_length_eq h)

/-! ## Issuing -/

namespace Initiator

variable (i : Initiator) (t : Transport)

theorem dispatch_of_accepted {direction : Direction} {commandBlock buffer : Option Bytes}
    {block : Bytes} {size : UInt32} (hb : checkCommandBlock commandBlock = .ok block)
    (hs : checkDataSize direction size (Bytes.ofMemory buffer).length = .ok ()) :
    i.dispatch t direction commandBlock buffer size =
      let back := t.execute (i.request direction block buffer size)
        (dataArea direction buffer size.toNat)
      .ok ⟨back.1, back.2.1, withArea buffer back.2.2⟩ := by
  rw [dispatch, hb]
  show (checkDataSize direction size (Bytes.ofMemory buffer).length >>= _) = _
  rw [hs]
  rfl

/-- An accepted command goes to the transport as it is, and its result is made
from the outcome and the buffer afterwards. -/
theorem issue_of_accepted {α : Type} {c : Command α} {block : Bytes}
    (hb : checkCommandBlock c.commandBlock = .ok block)
    (hs : checkDataSize c.direction c.dataSize (Bytes.ofMemory c.buffer).length = .ok ()) :
    i.issue c t =
      let back := t.execute (i.request c.direction block c.buffer c.dataSize)
        (dataArea c.direction c.buffer c.dataSize.toNat)
      (back.1, c.finish back.2.1 (withArea c.buffer back.2.2)) := by
  rw [issue, dispatch_of_accepted i t hb hs]

end Initiator

/-! ## Builders -/

namespace Builder

variable {δ σ α : Type} [Draft δ σ α] {b : Builder δ}

theorem checkFresh_of_fresh (hfresh : b.issued = false) : b.checkFresh = .ok () := by
  rw [checkFresh, hfresh]
  rfl

/-- A fresh builder issues the command its draft becomes. -/
theorem issue_of_command {c : Command α} {t : Transport} (hfresh : b.issued = false)
    (hc : Draft.command b.draft = .ok c) :
    b.issue t = ({ b with issued := true }, b.initiator.issue c t) := by
  rw [issue, checkFresh_of_fresh hfresh, hc]

/-- A fresh builder is spent even if its draft becomes no command. -/
theorem issue_of_command_error {fault : Fault} (hfresh : b.issued = false)
    (hc : Draft.command b.draft = .error fault) (t : Transport) :
    b.issue t = ({ b with issued := true }, t, .error fault) := by
  rw [issue, checkFresh_of_fresh hfresh, hc]

end Builder

end ScsiInitiator
