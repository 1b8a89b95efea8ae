import Mathlib.Order.Bounds.Defs
import ScsiInitiator.Proofs.Endings
import ScsiInitiator.Proofs.Serialization

/-!
# Allocation lengths

The byte length of a reply is worked out in three places: in 32 bits for the
transport, in 64 bits for the buffer, and once more in a field of the command
block.  A number of descriptors is admissible exactly if its byte length has 32
bits (`allocationLength_eq_ok_iff`, `isGreatest_maxDescriptors`), and then the
three agree.

So a draft with an admissible number of descriptors becomes a command that no
dispatch refuses (`StreamDraft.exists_accepted`).  What is left to fail is the
number itself, the transport and the device (`fault_of_issue`).
-/

namespace ScsiInitiator.StreamStatus

/-! ## Admissible numbers of descriptors -/

/-- A byte length that is given is exact, and it is given if 32 bits hold it. -/
theorem allocationLength_eq_ok_iff {count n : UInt32} :
    allocationLength count = .ok n ↔ n.toNat = 8 + 8 * count.toNat := by
  have hn := n.toNat_lt
  rcases Nat.lt_or_ge 536870910 count.toNat with hlt | hle
  · rw [allocationLength_of_lt hlt]
    constructor
    · intro h
      cases h
    · intro h
      omega
  · have hexact : (UInt32.ofNat (8 + 8 * count.toNat)).toNat = 8 + 8 * count.toNat := by
      rw [UInt32.toNat_ofNat']
      omega
    rw [allocationLength_of_le hle, Except.ok.injEq, ← UInt32.toNat_inj, hexact]
    exact eq_comm

theorem le_of_allocationLength {count n : UInt32} (h : allocationLength count = .ok n) :
    count.toNat ≤ 536870910 := by
  have hn := n.toNat_lt
  rw [allocationLength_eq_ok_iff] at h
  omega

theorem exists_allocationLength_iff {count : UInt32} :
    (∃ n, allocationLength count = .ok n) ↔ 8 + 8 * count.toNat < 2 ^ 32 := by
  constructor
  · rintro ⟨n, h⟩
    have hle := le_of_allocationLength h
    omega
  · intro h
    exact ⟨_, allocationLength_of_le (by omega)⟩

/-- The limit is the largest number of descriptors whose byte length has 32 bits. -/
theorem isGreatest_maxDescriptors :
    IsGreatest {n : Nat | 8 + 8 * n < 2 ^ 32} maxDescriptors.toUInt64.toNat := by
  have hmax : maxDescriptors.toUInt64.toNat = 536870910 := rfl
  rw [hmax]
  constructor
  · decide
  · intro n hn
    have hlt : 8 + 8 * n < 2 ^ 32 := hn
    omega

/-- A byte length is refused for the number of descriptors and nothing else. -/
theorem allocationLength_eq_error {count : UInt32} {fault : Fault}
    (h : allocationLength count = .error fault) :
    fault = .outOfBounds (.ofText "descriptor length") maxDescriptors.toUInt64 count.toUInt64 ∧
      2 ^ 32 ≤ 8 + 8 * count.toNat := by
  rcases Nat.lt_or_ge 536870910 count.toNat with hlt | hle
  · rw [allocationLength_of_lt hlt] at h
    cases h
    exact ⟨rfl, by omega⟩
  · rw [allocationLength_of_le hle] at h
    cases h

/-! ## The buffer and the command block -/

/-- The buffer for an admissible number of descriptors has the byte length. -/
theorem exists_buffer_of_allocationLength {count n : UInt32} (h : allocationLength count = .ok n) :
    ∃ buffer : ReplyBuffer replyShape,
      ReplyBuffer.ofCapacity replyShape count.toUInt64 = .ok buffer ∧ buffer.size = n.toNat := by
  have hle := le_of_allocationLength h
  rw [allocationLength_eq_ok_iff] at h
  have hheader : replyShape.header.size = 8 := rfl
  have helement : replyShape.element.size = 8 := rfl
  have hcount : count.toUInt64.toNat = count.toNat := UInt32.toNat_toUInt64 count
  have hsize : replyShape.header.size + count.toUInt64.toNat * replyShape.element.size <
      UInt64.size := by
    rw [hheader, helement, hcount, UInt64.size]
    omega
  obtain ⟨buffer, hbuffer, -, hbytes⟩ := ReplyBuffer.exists_ofCapacity (by decide) hsize
  refine ⟨buffer, hbuffer, ?_⟩
  rw [ReplyBuffer.size, hbytes, Bytes.length_zeros, hheader, helement, hcount, h, Nat.mul_comm]

namespace CommandBlock

theorem allocationLength_setAllocationLength (b : CommandBlock) (v : UInt32) :
    (b.setAllocationLength v).allocationLength = v := by
  rw [allocationLength, setAllocationLength, Record.get_set, if_pos rfl]
  exact UInt32.toUInt32_toUInt64 v

theorem ofMemory_bytes (b : CommandBlock) :
    ofMemory (some b.bytes) b.bytes.length = .ok b := by
  rw [ofMemory, bytes, Record.ofMemory_bytes]
  rfl

end CommandBlock

/-! ## Issuing -/

/-- A byte length that is given is the one of the draft. -/
theorem StreamDraft.ofNat_replyLength {d : StreamDraft} {n : UInt32}
    (h : allocationLength d.descriptorLength = .ok n) : UInt32.ofNat d.replyLength = n := by
  rw [replyLength, ← allocationLength_eq_ok_iff.mp h]
  exact UInt32.ofNat_toNat

/-- The command of a draft with an admissible number of descriptors is accepted
by every dispatch. -/
theorem StreamDraft.exists_accepted {d : StreamDraft} {n : UInt32}
    (h : allocationLength d.descriptorLength = .ok n) :
    ∃ c : Command Report, d.command = .ok c ∧ c.dataSize = n ∧
      (Bytes.ofMemory c.buffer).length = n.toNat ∧
      ∀ (i : Initiator) (t : Transport), ∃ exchange : Exchange c.buffer,
        i.dispatch t c.direction c.commandBlock c.buffer c.dataSize = .ok exchange := by
  have hsize := ofNat_replyLength h
  have hle := le_of_allocationLength h
  rw [allocationLength_eq_ok_iff] at h
  obtain ⟨buffer, -, hbytes, hcommand⟩ := exists_command (d := d) hle
  have hlength : buffer.bytes.length = n.toNat := by
    rw [hbytes, area, Bytes.length_zeros, replyLength, h]
  have hmoved : (UInt32.ofNat d.replyLength).toNat = buffer.bytes.length := by
    rw [hsize, hlength]
  refine ⟨_, hcommand, hsize, hlength, ?_⟩
  intro i t
  exact ⟨_, i.dispatch_of_accepted t (checkCommandBlock_of_ne_nil d.sentBlock.bytes_ne_nil)
    (checkDataSize_fromDevice hmoved)⟩

variable {b : Builder StreamDraft}

/-- The allocation length that is sent is the number of bytes that are taken. -/
theorem exists_request_of_issue {n : UInt32} (hfresh : b.issued = false)
    (h : allocationLength b.draft.descriptorLength = .ok n) (t : Transport) :
    ∃ (r : Request) (block : CommandBlock),
      (b.issue t).2.1.requests = t.requests ++ [r] ∧ r.dataLength = n ∧
      CommandBlock.ofMemory (some r.commandBlock) r.commandBlock.length = .ok block ∧
      block.allocationLength = n := by
  have hsize := StreamDraft.ofNat_replyLength h
  obtain ⟨report, -, hissue⟩ :=
    exists_report_of_respond hfresh (le_of_allocationLength h) (t := t) rfl
  refine ⟨b.draft.request b.initiator, b.draft.sentBlock, ?_, hsize,
    b.draft.sentBlock.ofMemory_bytes, ?_⟩
  · rw [hissue, Transport.requests_execute]
  · rw [StreamDraft.sentBlock, CommandBlock.allocationLength_setAllocationLength, hsize]

/-- A first issue fails for the number of descriptors, for the transport or for
the device, and for nothing else. -/
theorem fault_of_issue {t : Transport} {fault : Fault} (hfresh : b.issued = false)
    (h : (b.issue t).2.2 = .error fault) :
    allocationLength b.draft.descriptorLength = .error fault ∨
      (∃ text e host driver, fault = .transport text e host driver) ∨
      ∃ status sense, fault = .device status sense := by
  rcases Nat.lt_or_ge 536870910 b.draft.descriptorLength.toNat with hlt | hle
  · rw [issue_of_above hfresh hlt] at h
    cases h
    exact .inl (allocationLength_of_lt hlt)
  · obtain ⟨report, -, hissue⟩ := exists_report_of_respond hfresh hle (t := t) rfl
    rw [hissue] at h
    right
    generalize (t.handler.respond b.draft.sentBlock.bytes (some b.draft.area)).1 = o at h
    by_cases ht : o.TransportFailed
    · rw [Outcome.settle_of_transportFailed ht] at h
      cases h
      exact .inl ⟨_, _, _, _, rfl⟩
    · by_cases hd : o.DeviceFailed
      · rw [Outcome.settle_of_deviceFailed ht hd] at h
        cases h
        exact .inr ⟨_, _, rfl⟩
      · rw [Outcome.settle_of_success ht hd] at h
        cases h

/-- A byte length is given exactly if 32 bits hold it, without being cut, and the
limit of a refusal is the largest number of descriptors that is not refused.  A
byte length that is given is the size of the buffer, the number of bytes that are
taken, and the allocation length in the command block that is sent.  So no
dispatch refuses a first issue as a logic error, and no buffer is too large to be
made. -/
theorem allocation_lengths_agree (count : UInt32) :
    ((∃ n, allocationLength count = .ok n) ↔ 8 + 8 * count.toNat < 2 ^ 32) ∧
    (∀ fault, allocationLength count = .error fault →
      ∃ limit : UInt64, fault = .outOfBounds (.ofText "descriptor length") limit count.toUInt64 ∧
        fault.kind = .argumentOutOfBounds ∧
        IsGreatest {c : Nat | 8 + 8 * c < 2 ^ 32} limit.toNat) ∧
    (∀ n, allocationLength count = .ok n →
      n.toNat = 8 + 8 * count.toNat ∧
      (∃ buffer : ReplyBuffer replyShape,
        ReplyBuffer.ofCapacity replyShape count.toUInt64 = .ok buffer ∧ buffer.size = n.toNat) ∧
      ∀ b : Builder StreamDraft, b.draft.descriptorLength = count →
        (∃ c : Command Report, Draft.command b.draft = .ok c ∧ c.dataSize = n ∧
          (Bytes.ofMemory c.buffer).length = n.toNat ∧
          ∀ (i : Initiator) (t : Transport), ∃ exchange : Exchange c.buffer,
            i.dispatch t c.direction c.commandBlock c.buffer c.dataSize = .ok exchange) ∧
        (b.issued = false → ∀ t : Transport, ∃ (r : Request) (block : CommandBlock),
          (b.issue t).2.1.requests = t.requests ++ [r] ∧ r.dataLength = n ∧
          CommandBlock.ofMemory (some r.commandBlock) r.commandBlock.length = .ok block ∧
          block.allocationLength = n)) ∧
    (∀ b : Builder StreamDraft, b.issued = false → b.draft.descriptorLength = count →
      ∀ (t : Transport) (fault : Fault), (b.issue t).2.2 = .error fault →
        fault.kind ≠ .logicError ∧ fault.kind ≠ .lengthError ∧
        ((allocationLength count = .error fault ∧
            fault = .outOfBounds (.ofText "descriptor length") maxDescriptors.toUInt64
              count.toUInt64) ∨
          (∃ text e host driver, fault = .transport text e host driver) ∨
          ∃ status sense, fault = .device status sense)) := by
  refine ⟨exists_allocationLength_iff, ?_, ?_, ?_⟩
  · intro fault h
    obtain ⟨rfl, -⟩ := allocationLength_eq_error h
    exact ⟨_, rfl, rfl, isGreatest_maxDescriptors⟩
  · intro n h
    refine ⟨allocationLength_eq_ok_iff.mp h, exists_buffer_of_allocationLength h, ?_⟩
    rintro b rfl
    exact ⟨StreamDraft.exists_accepted h, fun hfresh t => exists_request_of_issue hfresh h t⟩
  · rintro b hfresh rfl t fault h
    rcases fault_of_issue hfresh h with hcount | ⟨text, e, host, driver, rfl⟩ | ⟨s, sense, rfl⟩
    · obtain ⟨rfl, -⟩ := allocationLength_eq_error hcount
      exact ⟨Fault.Kind.noConfusion, Fault.Kind.noConfusion, .inl ⟨hcount, rfl⟩⟩
    · exact ⟨Fault.Kind.noConfusion, Fault.Kind.noConfusion, .inr (.inl ⟨_, _, _, _, rfl⟩)⟩
    · exact ⟨Fault.Kind.noConfusion, Fault.Kind.noConfusion, .inr (.inr ⟨_, _, rfl⟩)⟩

/-- The largest number of descriptors is sent with a length just below `2 ^ 32`,
and one more is refused. -/
theorem allocation_lengths_agree_at_limit :
    (∃ (r : Request) (block : CommandBlock),
      ((⟨.default, ⟨.blank, 536870910⟩, false⟩ : Builder StreamDraft).issue {}).2.1.requests =
        [r] ∧
      CommandBlock.ofMemory (some r.commandBlock) r.commandBlock.length = .ok block ∧
      block.allocationLength = 0xFFFFFFF8) ∧
    ¬∃ n, allocationLength 536870911 = .ok n := by
  have hlast : allocationLength 536870910 = .ok 0xFFFFFFF8 := rfl
  obtain ⟨-, -, hgiven, -⟩ := allocation_lengths_agree 536870910
  obtain ⟨-, -, hbuilders⟩ := hgiven _ hlast
  obtain ⟨-, hsent⟩ := hbuilders ⟨.default, ⟨.blank, 536870910⟩, false⟩ rfl
  obtain ⟨r, block, hrequests, -, hread, hlength⟩ := hsent rfl {}
  refine ⟨⟨r, block, hrequests, hread, hlength⟩, ?_⟩
  rw [(allocation_lengths_agree 536870911).1]
  decide

end ScsiInitiator.StreamStatus
