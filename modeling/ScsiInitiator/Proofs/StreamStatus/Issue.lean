import ScsiInitiator.Proofs.Dispatch
import ScsiInitiator.Proofs.StreamStatus.Reports
import ScsiInitiator.Session

/-!
# Issuing GET STREAM STATUS

A draft with an admissible number of descriptors becomes a command whose buffer
is zero and whose byte length was not cut (`StreamDraft.exists_command`).  All of
the buffer goes to the transport as data area, and the report is read from what
the transport leaves there (`issue_of_execute`).  So a report describes the data
area of its own command, whatever was issued before.
-/

namespace ScsiInitiator

/-- A result that waits for the checks is the result of the checks. -/
theorem Outcome.check_return {α : Type} (o : Outcome) (a : α) :
    (do
      o.checkTransport
      o.checkDevice
      return a) = o.check.map fun _ => a := by
  rw [check]
  cases o.checkTransport with
  | error fault => rfl
  | ok u => cases o.checkDevice <;> rfl

/-- Issuing a builder of a session is issuing the builder under its name. -/
theorem Session.step_stream_issue {s : Session} {id : String}
    {b : Builder StreamStatus.StreamDraft} (h : s.streams id = some b) :
    s.step (.stream (.issue id)) =
      let back := b.issue s.transport
      ({ s with streams := s.streams.insert id back.1, transport := back.2.1 },
        back.2.2.map .report) := by
  have hget : s.streams.get id = .ok b := by rw [Slots.get, h]
  rw [Session.step, Call.perform, hget]
  dsimp only
  cases (b.issue s.transport).2.2 <;> rfl

theorem Session.step_stream_issue_of_ok {s : Session} {id : String}
    {b b' : Builder StreamStatus.StreamDraft} {t' : Transport} {report : StreamStatus.Report}
    (h : s.streams id = some b) (hissue : b.issue s.transport = (b', t', .ok report)) :
    s.step (.stream (.issue id)) =
      ({ s with streams := s.streams.insert id b', transport := t' }, .ok (.report report)) := by
  rw [Session.step_stream_issue h, hissue]
  rfl

namespace StreamStatus

/-! ## Allocation lengths -/

theorem toNat_maxDescriptors : maxDescriptors.toNat = 536870910 := rfl

/-- The byte length of an admissible number of descriptors is not cut. -/
theorem allocationLength_of_le {count : UInt32} (h : count.toNat ≤ 536870910) :
    allocationLength count = .ok (UInt32.ofNat (8 + 8 * count.toNat)) := by
  have hmax : ¬maxDescriptors < count := by
    rw [UInt32.not_lt, UInt32.le_iff_toNat_le, toNat_maxDescriptors]
    exact h
  have hheader : headerLayout.size = 8 := rfl
  have hdescriptor : descriptorLayout.size = 8 := rfl
  rw [allocationLength, if_neg hmax, hheader, hdescriptor]
  congr 1
  rw [← UInt32.toNat_inj, UInt32.toNat_add, UInt32.toNat_mul, UInt32.toNat_ofNat',
    UInt32.toNat_ofNat']
  omega

theorem allocationLength_of_lt {count : UInt32} (h : 536870910 < count.toNat) :
    allocationLength count =
      .error (.outOfBounds (.ofText "descriptor length") 536870910 count.toUInt64) := by
  have hmax : maxDescriptors < count := by
    rw [UInt32.lt_iff_toNat_lt, toNat_maxDescriptors]
    exact h
  rw [allocationLength, if_pos hmax]
  rfl

/-! ## The command of a draft -/

theorem CommandBlock.length_bytes (b : CommandBlock) : b.bytes.length = 16 := b.record.length_eq

theorem CommandBlock.bytes_ne_nil (b : CommandBlock) : b.bytes ≠ [] := by
  apply List.ne_nil_of_length_pos
  rw [b.length_bytes]
  decide

namespace StreamDraft

/-- The number of bytes a draft makes room for. -/
def replyLength (d : StreamDraft) : Nat := 8 + 8 * d.descriptorLength.toNat

/-- The data area as it is handed over, of zeros. -/
def area (d : StreamDraft) : Bytes := Bytes.zeros d.replyLength

/-- The command block that is sent. -/
def sentBlock (d : StreamDraft) : CommandBlock :=
  d.block.setAllocationLength (UInt32.ofNat d.replyLength)

/-- The request that is recorded when an initiator issues the draft. -/
def request (d : StreamDraft) (i : Initiator) : Request :=
  i.request .fromDevice d.sentBlock.bytes (some d.area) (UInt32.ofNat d.replyLength)

variable {d : StreamDraft}

theorem toNat_replyLength (h : d.descriptorLength.toNat ≤ 536870910) :
    (UInt32.ofNat d.replyLength).toNat = d.replyLength := by
  rw [UInt32.toNat_ofNat', replyLength]
  exact Nat.mod_eq_of_lt (by omega)

/-- A draft with an admissible number of descriptors becomes a command with a
buffer of zeros. -/
theorem exists_command (h : d.descriptorLength.toNat ≤ 536870910) :
    ∃ buffer : ReplyBuffer replyShape,
      buffer.capacity.toNat = d.descriptorLength.toNat ∧ buffer.bytes = d.area ∧
      d.command = .ok {
        direction := .fromDevice
        commandBlock := some d.sentBlock.bytes
        buffer := some buffer.bytes
        dataSize := UInt32.ofNat d.replyLength
        finish := fun outcome after => outcome.check.map fun _ =>
          Report.ofBuffer (buffer.withBytes after.val after.property) } := by
  have hheader : replyShape.header.size = 8 := rfl
  have helement : replyShape.element.size = 8 := rfl
  have hcapacity : d.descriptorLength.toUInt64.toNat = d.descriptorLength.toNat :=
    UInt32.toNat_toUInt64 _
  have hsize : (8 : Nat) + d.descriptorLength.toUInt64.toNat * 8 < UInt64.size := by
    rw [hcapacity, UInt64.size]
    omega
  obtain ⟨buffer, hbuffer, hcap, hbytes⟩ :=
    ReplyBuffer.exists_ofCapacity (s := replyShape) (by decide) hsize
  refine ⟨buffer, by rw [hcap, hcapacity], ?_, ?_⟩
  · rw [hbytes, hheader, helement, hcapacity, area, replyLength, Nat.mul_comm]
  · rw [command, allocationLength_of_le h, hbuffer]
    show Except.ok _ = Except.ok _
    congr 2
    funext outcome after
    exact outcome.check_return _

end StreamDraft

/-! ## Issuing -/

variable {b : Builder StreamDraft} {t t' : Transport} {outcome : Outcome} {area : Bytes}

theorem length_area_of_execute
    (hback : t.execute (b.draft.request b.initiator) (some b.draft.area) =
      (t', outcome, some area)) : area.length = 8 + 8 * b.draft.descriptorLength.toNat := by
  have h := t.length_area_execute (b.draft.request b.initiator) (some b.draft.area)
  rw [hback] at h
  exact (Option.some.inj h).trans (Bytes.length_zeros _)

/-- An issue hands all of a zero buffer to the transport, and its result is read
from the buffer that comes back. -/
theorem issue_of_execute (hfresh : b.issued = false)
    (hcount : b.draft.descriptorLength.toNat ≤ 536870910)
    (hback : t.execute (b.draft.request b.initiator) (some b.draft.area) =
      (t', outcome, some area)) :
    ∃ buffer : ReplyBuffer replyShape,
      buffer.capacity.toNat = b.draft.descriptorLength.toNat ∧ buffer.bytes = area ∧
      b.issue t =
        ({ b with issued := true }, t', outcome.check.map fun _ => Report.ofBuffer buffer) := by
  obtain ⟨buffer, hcapacity, hbytes, hcommand⟩ := StreamDraft.exists_command hcount
  have hlength : buffer.bytes.length = b.draft.replyLength := by
    rw [hbytes, StreamDraft.area, Bytes.length_zeros]
  have hsize := StreamDraft.toNat_replyLength hcount
  have hkept : area.length = buffer.bytes.length := by
    rw [length_area_of_execute hback, hlength, StreamDraft.replyLength]
  have harea : dataArea .fromDevice (some buffer.bytes)
      (UInt32.ofNat b.draft.replyLength).toNat = some b.draft.area := by
    rw [dataArea_fromDevice (by rw [hsize, hlength]), hbytes]
  have hblock := b.draft.sentBlock.bytes_ne_nil
  have hrequest : b.initiator.request .fromDevice b.draft.sentBlock.bytes (some buffer.bytes)
      (UInt32.ofNat b.draft.replyLength) = b.draft.request b.initiator := by
    rw [StreamDraft.request, hbytes]
  refine ⟨buffer.withBytes area hkept, hcapacity, rfl, ?_⟩
  rw [Builder.issue_of_command hfresh hcommand, Initiator.issue_of_accepted _ _
    (checkCommandBlock_of_ne_nil hblock)
    (checkDataSize_fromDevice (by rw [hsize, Bytes.ofMemory_some, hlength]))]
  dsimp only
  rw [hrequest, harea, hback]
  dsimp only
  rw [withArea_of_length_eq hkept]

/-- Too many descriptors spend the builder and send nothing. -/
theorem issue_of_above (hfresh : b.issued = false)
    (hcount : 536870910 < b.draft.descriptorLength.toNat) (t : Transport) :
    b.issue t =
      ({ b with issued := true }, t,
        .error (.outOfBounds (.ofText "descriptor length") 536870910
          b.draft.descriptorLength.toUInt64)) := by
  have hcommand : b.draft.command =
      .error (.outOfBounds (.ofText "descriptor length") 536870910
        b.draft.descriptorLength.toUInt64) := by
    rw [StreamDraft.command, allocationLength_of_lt hcount]
    rfl
  exact Builder.issue_of_command_error hfresh hcommand t

/-- An issue whose outcome passes the checks gives a report, and the report
describes the data area that came back. -/
theorem exists_report_of_execute (hfresh : b.issued = false)
    (hcount : b.draft.descriptorLength.toNat ≤ 536870910)
    (hback : t.execute (b.draft.request b.initiator) (some b.draft.area) =
      (t', outcome, some area))
    (htransport : outcome.checkTransport = .ok ()) (hdevice : outcome.checkDevice = .ok ()) :
    ∃ report : Report, report.Describes area b.draft.descriptorLength.toNat ∧
      b.issue t = ({ b with issued := true }, t', .ok report) := by
  obtain ⟨buffer, hcapacity, rfl, hissue⟩ := issue_of_execute hfresh hcount hback
  have hcheck : outcome.check = .ok () := by
    rw [Outcome.check, htransport, hdevice]
    rfl
  have hdescribes := Report.describes_ofBuffer buffer
  rw [hcapacity] at hdescribes
  rw [hcheck] at hissue
  exact ⟨Report.ofBuffer buffer, hdescribes, hissue⟩

/-- The report of an issue describes the data area of that issue, in any session.
The data area arrives as zeros, and no more is read of it than it holds. -/
theorem issue_reports (hfresh : b.issued = false)
    (hcount : b.draft.descriptorLength.toNat ≤ 536870910)
    (hback : t.execute (b.draft.request b.initiator) (some b.draft.area) =
      (t', outcome, some area))
    (htransport : outcome.checkTransport = .ok ()) (hdevice : outcome.checkDevice = .ok ()) :
    area.length = 8 + 8 * b.draft.descriptorLength.toNat ∧
    ∃ report : Report,
      report.Describes area b.draft.descriptorLength.toNat ∧
      8 + 8 * report.identifiers.length ≤ area.length ∧
      b.issue t = ({ b with issued := true }, t', .ok report) ∧
      ∀ (s : Session) (id : String), s.transport = t → s.streams id = some b →
        s.step (.stream (.issue id)) =
          ({ s with streams := s.streams.insert id { b with issued := true }, transport := t' },
            .ok (.report report)) := by
  obtain ⟨report, hdescribes, hissue⟩ :=
    exists_report_of_execute hfresh hcount hback htransport hdevice
  have hlength := length_area_of_execute hback
  have hle := hdescribes.length_identifiers_le
  refine ⟨hlength, report, hdescribes, by omega, hissue, ?_⟩
  intro s id hs hb
  exact Session.step_stream_issue_of_ok hb (hs ▸ hissue)

/-- Two descriptors are announced to a builder with room for one. -/
theorem issue_reports_one_of_two :
    ((⟨.default, ⟨.blank, 1⟩, false⟩ : Builder StreamDraft).issue
      { handler := ⟨fun _ _ => ({}, [0, 0, 0, 24, 0, 0, 0, 5, 0, 0, 0, 7]), true⟩ }).2.2 =
      .ok ⟨2, 5, [7]⟩ := by
  obtain ⟨-, report, hdescribes, -, hissue, -⟩ :=
    issue_reports (b := ⟨.default, ⟨.blank, 1⟩, false⟩)
      (t := { handler := ⟨fun _ _ => ({}, [0, 0, 0, 24, 0, 0, 0, 5, 0, 0, 0, 7]), true⟩ })
      rfl (by decide)
      (show _ = (_, _, some [0, 0, 0, 24, 0, 0, 0, 5, 0, 0, 0, 7, 0, 0, 0, 0]) from rfl) rfl rfl
  have hreport : report = ⟨2, 5, [7]⟩ :=
    hdescribes.eq ⟨by decide, by decide, by decide⟩
  rw [hissue, hreport]

end StreamStatus

end ScsiInitiator
