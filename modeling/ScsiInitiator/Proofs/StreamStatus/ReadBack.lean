import ScsiInitiator.Proofs.StreamStatus.Issue
import ScsiInitiator.Proofs.StreamStatus.Replies
import ScsiInitiator.Script

/-!
# Replies read back

A device that answers with a reply is read back: the report has the total the
reply announces, its open streams, and its streams as far as they are announced
and there is room for them (`issue_reads_reply`).  Streams that are announced
but not sent are zeros, because the data area arrives as zeros.
-/

namespace ScsiInitiator.StreamStatus

variable {b : Builder StreamDraft} {t : Transport} {outcome : Outcome} {reply : Reply}

/-- A length that is that of the streams announces all of them. -/
theorem announced_of_eq {length n : Nat} (h : length = 8 + 8 * n) : announced length = n := by
  rw [announced, if_neg (by omega)]
  omega

/-- A report of what a reply writes to zeros is a report of the reply. -/
theorem Report.Describes.of_reply {report : Report} {count : Nat}
    (h : report.Describes
      (reply.write (Bytes.zeros (8 + 8 * count)) (8 + 8 * count)) count) :
    report.total.toNat = announced reply.length.toNat ∧
      report.openStreams = reply.openStreams ∧
      report.identifiers =
        padded reply.identifiers (min (announced reply.length.toNat) count) := by
  have hrow : report.Describes (reply.header.bytes ++ row (padded reply.identifiers count))
      (padded reply.identifiers count).length := by
    rw [length_padded, ← reply.write_zeros]
    exact h
  obtain ⟨htotal, hopen, hids⟩ := hrow.of_row
  rw [reply.length_header] at htotal hids
  rw [reply.openStreams_header] at hopen
  rw [take_padded] at hids
  exact ⟨htotal, hopen, hids⟩

theorem execute_of_reply
    (hanswer : t.handler.respond b.draft.sentBlock.bytes (some b.draft.area) =
      (outcome, reply.write b.draft.area b.draft.area.length)) :
    t.execute (b.draft.request b.initiator) (some b.draft.area) =
      ((t.execute (b.draft.request b.initiator) (some b.draft.area)).1, outcome,
        some (reply.write b.draft.area b.draft.area.length)) := by
  have hblock : (b.draft.request b.initiator).commandBlock = b.draft.sentBlock.bytes := rfl
  rw [Transport.execute, hblock, hanswer]
  dsimp only
  rw [Option.map_some, Bytes.overwrite_zero_of_length_eq (reply.length_write _ _)]

/-- A device that answers with a reply is read back, in any session. -/
theorem issue_reads_reply (hfresh : b.issued = false)
    (hcount : b.draft.descriptorLength.toNat ≤ 536870910)
    (hanswer : t.handler.respond b.draft.sentBlock.bytes (some b.draft.area) =
      (outcome, reply.write b.draft.area b.draft.area.length))
    (htransport : outcome.checkTransport = .ok ()) (hdevice : outcome.checkDevice = .ok ()) :
    let count := b.draft.descriptorLength.toNat
    let t' := (t.execute (b.draft.request b.initiator) (some b.draft.area)).1
    ∃ report : Report,
      b.issue t = ({ b with issued := true }, t', .ok report) ∧
      (∀ (s : Session) (id : String), s.transport = t → s.streams id = some b →
        s.step (.stream (.issue id)) =
          ({ s with streams := s.streams.insert id { b with issued := true }, transport := t' },
            .ok (.report report))) ∧
      report.total.toNat = announced reply.length.toNat ∧
      report.openStreams = reply.openStreams ∧
      report.identifiers = padded reply.identifiers (min (announced reply.length.toNat) count) ∧
      (reply.length.toNat = 8 + 8 * reply.identifiers.length →
        report.total.toNat = reply.identifiers.length ∧
        report.identifiers = reply.identifiers.take count ∧
        (reply.identifiers.length ≤ count → report.identifiers = reply.identifiers)) := by
  obtain ⟨report, hdescribes, hissue⟩ :=
    exists_report_of_execute hfresh hcount (execute_of_reply hanswer) htransport hdevice
  rw [StreamDraft.area, Bytes.length_zeros] at hdescribes
  obtain ⟨htotal, hopen, hids⟩ := hdescribes.of_reply
  refine ⟨report, hissue, ?_, htotal, hopen, hids, ?_⟩
  · intro s id hs hb
    exact Session.step_stream_issue_of_ok hb (hs ▸ hissue)
  · intro hlength
    rw [announced_of_eq hlength] at htotal hids
    have htake : report.identifiers = reply.identifiers.take b.draft.descriptorLength.toNat := by
      rw [hids, padded_of_le (Nat.min_le_left _ _), Nat.min_comm]
      exact List.take_eq_take_min.symm
    refine ⟨htotal, htake, ?_⟩
    intro hroom
    rw [htake]
    exact List.take_of_length_le hroom

/-- Three streams are announced and one is sent, to a builder with room for two. -/
theorem issue_reads_reply_one_of_three :
    ((⟨.default, ⟨.blank, 2⟩, false⟩ : Builder StreamDraft).issue
      { handler := Script.handler { streams := some ⟨32, 1, [10]⟩ } }).2.2 =
      .ok ⟨3, 1, [10, 0]⟩ := by
  obtain ⟨report, hissue, -, htotal, hopen, hids, -⟩ :=
    issue_reads_reply (b := ⟨.default, ⟨.blank, 2⟩, false⟩)
      (t := { handler := Script.handler { streams := some ⟨32, 1, [10]⟩ } })
      rfl (by decide) (show _ = (_, Reply.write ⟨32, 1, [10]⟩ _ _) from rfl) rfl rfl
  have hreport : report = ⟨3, 1, [10, 0]⟩ := by
    cases report
    cases hopen
    cases hids
    cases UInt64.toNat_inj.mp (htotal.trans (by decide : _ = (3 : UInt64).toNat))
    rfl
  rw [hissue, hreport]

end ScsiInitiator.StreamStatus
