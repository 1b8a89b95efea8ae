import ScsiInitiator.Proofs.Dispatch
import ScsiInitiator.UnitReady

/-!
# Issuing TEST UNIT READY

A draft always becomes a command, and the command moves no data.  So a fresh
builder sends one request without a data area, and its result is that of the
checks (`issue_of_fresh`).
-/

namespace ScsiInitiator.UnitReady

theorem CommandBlock.length_bytes (b : CommandBlock) : b.bytes.length = 6 := b.record.length_eq

theorem CommandBlock.bytes_ne_nil (b : CommandBlock) : b.bytes ≠ [] := by
  apply List.ne_nil_of_length_pos
  rw [b.length_bytes]
  decide

/-- The request that is recorded when an initiator issues the draft. -/
def UnitDraft.request (d : UnitDraft) (i : Initiator) : Request :=
  i.request .none d.block.bytes noData 0

/-- A fresh builder sends one request, and its result is that of the checks. -/
theorem issue_of_fresh {b : Builder UnitDraft} (hfresh : b.issued = false) (t : Transport) :
    b.issue t =
      ({ b with issued := true }, (t.execute (b.draft.request b.initiator) none).1,
        (t.handler.respond b.draft.block.bytes none).1.check) := by
  have hcommand : Draft.command b.draft = .ok b.draft.command := rfl
  have hblock : checkCommandBlock b.draft.command.commandBlock = .ok b.draft.block.bytes :=
    checkCommandBlock_of_ne_nil b.draft.block.bytes_ne_nil
  rw [Builder.issue_of_command hfresh hcommand, Initiator.issue_of_accepted _ _ hblock rfl]
  rfl

end ScsiInitiator.UnitReady
