import ScsiInitiator.Proofs.Refusals
import ScsiInitiator.Proofs.StreamStatus.Issue
import ScsiInitiator.Proofs.UnitReady

/-!
# How commands end

An outcome ends a command in one of three ways: the transport failed, or the
device did, or neither.  `Outcome.settle` says which, and it is the same for
every command that looks for all failures (`issue_settled_by_outcome`), be it a
prepared one or a plain one.

A failure of the transport shows its three codes and nothing else.  A failure of
the device shows the status byte and what the sense bytes say.  A success shows
what the command makes of its data.
-/

namespace ScsiInitiator

namespace Outcome

variable {α : Type} {o o' : Outcome}

/-- A code of the transport is a failure.  A driver that only has sense bytes has
not failed. -/
def TransportFailed (o : Outcome) : Prop :=
  o.systemError ≠ 0 ∨ o.hostStatus ≠ 0 ∨ (o.driverStatus ≠ 0 ∧ o.driverStatus ≠ 8)

instance (o : Outcome) : Decidable o.TransportFailed := inferInstanceAs (Decidable (_ ∨ _ ∨ _))

/-- The status byte is neither GOOD nor CONDITION MET. -/
def DeviceFailed (o : Outcome) : Prop := o.status.code ≠ 0x00 ∧ o.status.code ≠ 0x04

instance (o : Outcome) : Decidable o.DeviceFailed := inferInstanceAs (Decidable (_ ∧ _))

/-- A failure of the transport in words.  A system error is all it tells of. -/
def transportText (systemError : Int32) (host driver : UInt16) : String :=
  if systemError ≠ 0 then systemText systemError else adapterText host driver

/-- What is told of a transport that failed: its three codes, and a text of them. -/
def transportFault (systemError : Int32) (host driver : UInt16) : Fault :=
  .transport (.ofText (transportText systemError host driver)) systemError host driver

/-- How an outcome ends a command that makes `a` of a success. -/
def settle (o : Outcome) (a : α) : Except Fault α :=
  if o.TransportFailed then .error (transportFault o.systemError o.hostStatus o.driverStatus)
  else if o.DeviceFailed then .error (.device o.status (SenseData.ofBytes o.sense))
  else .ok a

/-! ## The three ways -/

theorem settle_of_transportFailed (h : o.TransportFailed) (a : α) :
    o.settle a = .error (transportFault o.systemError o.hostStatus o.driverStatus) := if_pos h

theorem settle_of_deviceFailed (ht : ¬o.TransportFailed) (hd : o.DeviceFailed) (a : α) :
    o.settle a = .error (.device o.status (SenseData.ofBytes o.sense)) := by
  rw [settle, if_neg ht, if_pos hd]

theorem settle_of_success (ht : ¬o.TransportFailed) (hd : ¬o.DeviceFailed) (a : α) :
    o.settle a = .ok a := by
  rw [settle, if_neg ht, if_neg hd]

/-- The ways an outcome ends a command exclude each other, so each of them is
told by its result. -/
theorem settle_iff (o : Outcome) (a : α) :
    ((∃ text e h d, o.settle a = .error (.transport text e h d)) ↔ o.TransportFailed) ∧
    ((∃ s sense, o.settle a = .error (.device s sense)) ↔ ¬o.TransportFailed ∧ o.DeviceFailed) ∧
    ((∃ x, o.settle a = .ok x) ↔ ¬o.TransportFailed ∧ ¬o.DeviceFailed) := by
  by_cases ht : o.TransportFailed
  · simp [settle_of_transportFailed ht, transportFault, ht]
  · by_cases hd : o.DeviceFailed
    · simp [settle_of_deviceFailed ht hd, ht, hd]
    · simp [settle_of_success ht hd, ht, hd]

/-- The kind of a fault says which of the two failed. -/
theorem kind_of_settle {a : α} {fault : Fault} (h : o.settle a = .error fault) :
    fault.kind = if o.TransportFailed then .transportError else .deviceError := by
  by_cases ht : o.TransportFailed
  · rw [settle_of_transportFailed ht] at h
    cases h
    rw [if_pos ht]
    rfl
  · by_cases hd : o.DeviceFailed
    · rw [settle_of_deviceFailed ht hd] at h
      cases h
      rw [if_neg ht]
      rfl
    · rw [settle_of_success ht hd] at h
      cases h

/-- Outcomes with the same codes of the transport end alike if it failed. -/
theorem settle_eq_of_codes_eq (h : o.TransportFailed) (he : o'.systemError = o.systemError)
    (hh : o'.hostStatus = o.hostStatus) (hd : o'.driverStatus = o.driverStatus) (a a' : α) :
    o'.settle a' = o.settle a := by
  have h' : o'.TransportFailed := by
    rw [TransportFailed, he, hh, hd]
    exact h
  rw [settle_of_transportFailed h', settle_of_transportFailed h, he, hh, hd]

/-- Outcomes with the same status and sense bytes end alike if the device failed
and the transport did not. -/
theorem settle_eq_of_status_eq (ht : ¬o.TransportFailed) (ht' : ¬o'.TransportFailed)
    (h : o.DeviceFailed) (hs : o'.status = o.status) (hb : o'.sense = o.sense) (a a' : α) :
    o'.settle a' = o.settle a := by
  have h' : o'.DeviceFailed := by
    rw [DeviceFailed, hs]
    exact h
  rw [settle_of_deviceFailed ht' h', settle_of_deviceFailed ht h, hs, hb]

/-! ## The checks -/

/-- The checks of the transport refuse exactly a transport that failed.  Its two
refusals are one, since a system error of zero is what the second one shows. -/
theorem checkTransport_eq (o : Outcome) :
    o.checkTransport =
      if o.TransportFailed then .error (transportFault o.systemError o.hostStatus o.driverStatus)
      else .ok () := by
  by_cases he : o.systemError = 0
  · have hiff : o.TransportFailed ↔ o.hostStatus ≠ 0 ∨ o.DriverFailed :=
      or_iff_right (fun hne => hne he)
    rw [checkTransport, if_neg (fun hne => hne he)]
    by_cases h : o.TransportFailed
    · rw [if_pos (hiff.mp h), if_pos h, transportFault, transportText,
        if_neg (fun hne => hne he), he]
    · rw [if_neg (fun hc => h (hiff.mpr hc)), if_neg h]
  · have h : o.TransportFailed := .inl he
    rw [checkTransport, if_pos he, if_pos h, transportFault, transportText, if_pos he]

theorem checkDevice_eq (o : Outcome) :
    o.checkDevice =
      if o.DeviceFailed then .error (.device o.status (SenseData.ofBytes o.sense)) else .ok () := by
  have hiff : o.status.Success ↔ ¬o.DeviceFailed := by
    rw [Status.success_iff, DeviceFailed, not_and_or, not_not, not_not]
  rw [checkDevice]
  by_cases h : o.DeviceFailed
  · rw [if_neg (fun hc => hiff.mp hc h), if_pos h]
  · rw [if_pos (hiff.mpr h), if_neg h]

/-- A result that waits for all checks is settled by the outcome. -/
theorem check_map (o : Outcome) (a : α) : (o.check.map fun _ => a) = o.settle a := by
  rw [check, checkTransport_eq, checkDevice_eq]
  by_cases ht : o.TransportFailed
  · rw [if_pos ht, settle_of_transportFailed ht]
    rfl
  · by_cases hd : o.DeviceFailed
    · rw [if_neg ht, if_pos hd, settle_of_deviceFailed ht hd]
      rfl
    · rw [if_neg ht, if_neg hd, settle_of_success ht hd]
      rfl

theorem check_eq_settle (o : Outcome) : o.check = o.settle () := by
  rw [← check_map]
  cases o.check with
  | error fault => rfl
  | ok u => rfl

/-- A driver that has sense bytes has not failed. -/
example : ({ driverStatus := 8, status := .checkCondition } : Outcome).settle () =
    .error (.device .checkCondition {}) := rfl

end Outcome

/-! ## Every command -/

namespace StreamStatus

variable {b : Builder StreamDraft} {written : Bytes}

/-- The result of GET STREAM STATUS is settled by the outcome, and a report of
what the device wrote stands for success. -/
theorem exists_report_of_respond (hfresh : b.issued = false)
    (hcount : b.draft.descriptorLength.toNat ≤ 536870910) {t : Transport} {o : Outcome}
    (hanswer : t.handler.respond b.draft.sentBlock.bytes (some b.draft.area) = (o, written)) :
    ∃ report : Report,
      report.Describes (b.draft.area.overwrite 0 written) b.draft.descriptorLength.toNat ∧
      b.issue t =
        ({ b with issued := true },
          (t.execute (b.draft.request b.initiator) (some b.draft.area)).1, o.settle report) := by
  have hback : t.execute (b.draft.request b.initiator) (some b.draft.area) =
      ((t.execute (b.draft.request b.initiator) (some b.draft.area)).1, o,
        some (b.draft.area.overwrite 0 written)) := by
    have hblock : (b.draft.request b.initiator).commandBlock = b.draft.sentBlock.bytes := rfl
    rw [Transport.execute, hblock, hanswer]
    rfl
  obtain ⟨buffer, hcapacity, hbytes, hissue⟩ := issue_of_execute hfresh hcount hback
  refine ⟨Report.ofBuffer buffer, ?_, ?_⟩
  · rw [← hcapacity, ← hbytes]
    exact Report.describes_ofBuffer buffer
  · rw [hissue, o.check_map]

/-- The report that stands for success is a matter of what the device wrote, and
of nothing else. -/
theorem exists_report_settled (hfresh : b.issued = false)
    (hcount : b.draft.descriptorLength.toNat ≤ 536870910) (written : Bytes) :
    ∃ report : Report,
      report.Describes (b.draft.area.overwrite 0 written) b.draft.descriptorLength.toNat ∧
      ∀ (t : Transport) (o : Outcome),
        t.handler.respond b.draft.sentBlock.bytes (some b.draft.area) = (o, written) →
        (b.issue t).2.2 = o.settle report := by
  obtain ⟨report, hreport, -⟩ := exists_report_of_respond hfresh hcount
    (t := { handler := ⟨fun _ _ => ({}, written), false⟩ }) rfl
  refine ⟨report, hreport, ?_⟩
  intro t o hanswer
  obtain ⟨report', hreport', hissue⟩ := exists_report_of_respond hfresh hcount hanswer
  rw [hissue, hreport'.eq hreport]

end StreamStatus

/-- A plain transfer can look for all failures. -/
theorem Command.finish_transfer_all (direction : Direction) (commandBlock buffer : Option Bytes)
    (size : UInt32) (o : Outcome)
    (after : { after : Bytes // after.length = (Bytes.ofMemory buffer).length }) :
    (Command.transfer direction commandBlock buffer size .all).finish o after =
      o.check.map fun _ => ⟨after.val, o⟩ := by
  show (o.check >>= fun _ => Except.ok _) = _
  cases o.check with
  | error fault => rfl
  | ok u => rfl

/-- An outcome ends every command that looks for all failures in the same way,
and the transport counts first.  The kind of the fault says which of transport
and device failed.  The report of a success depends on what the device wrote
alone, and TEST UNIT READY on nothing that it wrote.  A failure of the transport
depends on its three codes alone, and a failure of the device on status and sense
bytes alone. -/
theorem issue_settled_by_outcome :
    (∀ b : Builder StreamStatus.StreamDraft, b.issued = false →
      b.draft.descriptorLength.toNat ≤ 536870910 → ∀ written : Bytes,
      ∃ report : StreamStatus.Report,
        report.Describes (b.draft.area.overwrite 0 written) b.draft.descriptorLength.toNat ∧
        ∀ (t : Transport) (o : Outcome),
          t.handler.respond b.draft.sentBlock.bytes (some b.draft.area) = (o, written) →
          (b.issue t).2.2 = o.settle report) ∧
    (∀ b : Builder UnitReady.UnitDraft, b.issued = false →
      ∀ (t : Transport) (o : Outcome) (written : Bytes),
        t.handler.respond b.draft.block.bytes none = (o, written) →
        (b.issue t).2.2 = o.settle ()) ∧
    (∀ (α : Type) (i : Initiator) (c : Command α) (make : Outcome → Bytes → α) (block : Bytes),
      c.commandBlock = some block → ¬c.Refused →
      (∀ o after, c.finish o after = o.check.map fun _ => make o after.val) →
      ∀ (t : Transport) (o : Outcome) (written : Bytes),
        let area := dataArea c.direction c.buffer c.dataSize.toNat
        t.handler.respond block area = (o, written) →
        (i.issue c t).2 =
          o.settle (make o (withArea c.buffer (area.map (·.overwrite 0 written))).val)) ∧
    (∀ (α : Type) (o : Outcome) (a : α),
      ((∃ text e h d, o.settle a = .error (.transport text e h d)) ↔
        o.systemError ≠ 0 ∨ o.hostStatus ≠ 0 ∨ (o.driverStatus ≠ 0 ∧ o.driverStatus ≠ 8)) ∧
      ((∃ s sense, o.settle a = .error (.device s sense)) ↔
        ¬o.TransportFailed ∧ o.status.code ≠ 0x00 ∧ o.status.code ≠ 0x04) ∧
      ((∃ x, o.settle a = .ok x) ↔
        ¬o.TransportFailed ∧ ¬(o.status.code ≠ 0x00 ∧ o.status.code ≠ 0x04)) ∧
      (∀ fault, o.settle a = .error fault →
        fault.kind = if o.TransportFailed then .transportError else .deviceError) ∧
      (o.TransportFailed → o.settle a = .error
        (.transport
          (.ofText (Outcome.transportText o.systemError o.hostStatus o.driverStatus))
          o.systemError o.hostStatus o.driverStatus)) ∧
      (¬o.TransportFailed → o.DeviceFailed →
        o.settle a = .error (.device o.status (SenseData.ofBytes o.sense)))) ∧
    (∀ (α : Type) (o o' : Outcome) (a a' : α),
      (o.TransportFailed → o'.systemError = o.systemError → o'.hostStatus = o.hostStatus →
        o'.driverStatus = o.driverStatus → o'.settle a' = o.settle a) ∧
      (¬o.TransportFailed → ¬o'.TransportFailed → o.DeviceFailed → o'.status = o.status →
        o'.sense = o.sense → o'.settle a' = o.settle a)) := by
  refine ⟨?_, ?_, ?_, ?_, ?_⟩
  · intro b hfresh hcount written
    exact StreamStatus.exists_report_settled hfresh hcount written
  · intro b hfresh t o written hanswer
    rw [UnitReady.issue_of_fresh hfresh, hanswer]
    exact o.check_eq_settle
  · intro α i c make block hc h hfinish t o written area hanswer
    rw [i.issue_of_not_refused t hc h]
    dsimp only
    rw [hfinish, hanswer, o.check_map]
  · intro α o a
    obtain ⟨ht, hd, hok⟩ := o.settle_iff a
    refine ⟨ht, hd, hok, fun _ => Outcome.kind_of_settle, ?_, ?_⟩
    · intro h
      exact Outcome.settle_of_transportFailed h a
    · intro h hdevice
      exact Outcome.settle_of_deviceFailed h hdevice a
  · intro α o o' a a'
    refine ⟨?_, ?_⟩
    · intro h he hh hd
      exact Outcome.settle_eq_of_codes_eq h he hh hd a a'
    · intro ht ht' hd hs hb
      exact Outcome.settle_eq_of_status_eq ht ht' hd hs hb a a'

/-- A device that is busy ends the three kinds of commands alike. -/
theorem issue_settled_by_outcome_busy :
    let t : Transport := { handler := ⟨fun _ _ => ({ status := .busy }, [0xFF]), false⟩ }
    let fault : Fault := .device .busy (SenseData.ofBytes [])
    ((⟨.default, .blank, false⟩ : Builder StreamStatus.StreamDraft).issue t).2.2 = .error fault ∧
    ((⟨.default, .blank, false⟩ : Builder UnitReady.UnitDraft).issue t).2.2 = .error fault ∧
    (Initiator.default.issue (.transfer .toDevice (some [0x12]) (some [1, 2, 3]) 2 .all) t).2 =
      .error fault := by
  intro t fault
  obtain ⟨hstream, hunit, hcommand, -, -⟩ := issue_settled_by_outcome
  refine ⟨?_, ?_, ?_⟩
  · obtain ⟨report, -, hissue⟩ := hstream ⟨.default, .blank, false⟩ rfl (by decide) [0xFF]
    exact hissue t { status := .busy } rfl
  · exact hunit ⟨.default, .blank, false⟩ rfl t { status := .busy } [0xFF] rfl
  · exact hcommand Transfer .default (.transfer .toDevice (some [0x12]) (some [1, 2, 3]) 2 .all)
      (fun o after => ⟨after, o⟩) [0x12] rfl (by decide) (Command.finish_transfer_all _ _ _ _)
      t { status := .busy } [0xFF] rfl

end ScsiInitiator
