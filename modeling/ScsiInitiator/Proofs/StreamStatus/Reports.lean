import ScsiInitiator.Proofs.RecordFields
import ScsiInitiator.Proofs.ReplyBuffers
import ScsiInitiator.StreamStatus.Parameters

/-!
# Reports in terms of bytes

What a report says of a data area, byte by byte (`Report.Describes`).  The length
in the header may announce more descriptors than there is room for, or be no
length at all.  Only descriptors that are announced and that fit are looked at,
so a report is a matter of the data area alone.
-/

namespace ScsiInitiator.StreamStatus

/-! ## Announced descriptors -/

/-- The number of descriptors that a length of the parameters announces. -/
def announced (length : Nat) : Nat := if length < 8 then 0 else (length - 8) / 8

/-- A report describes a data area with room for a number of descriptors. -/
structure Report.Describes (r : Report) (area : Bytes) (room : Nat) : Prop where
  /-- The total is what the first four bytes announce. -/
  total : r.total.toNat = announced (Bytes.toNat (Bytes.slice area 0 4))
  /-- The open streams are the last two bytes of the header. -/
  openStreams : r.openStreams.toNat = Bytes.toNat (Bytes.slice area 6 2)
  /-- The streams are in the third and fourth byte of each descriptor that is
  announced and that there is room for. -/
  identifiers : r.identifiers.map UInt16.toNat =
    (List.range (min (announced (Bytes.toNat (Bytes.slice area 0 4))) room)).map fun i =>
      Bytes.toNat (Bytes.slice area (8 + 8 * i + 2) 2)

/-- A data area has one description. -/
theorem Report.Describes.eq {r r' : Report} {area : Bytes} {room : Nat}
    (h : r.Describes area room) (h' : r'.Describes area room) : r = r' := by
  have htotal : r.total = r'.total := UInt64.toNat_inj.mp (h.total.trans h'.total.symm)
  have hopen : r.openStreams = r'.openStreams :=
    UInt16.toNat_inj.mp (h.openStreams.trans h'.openStreams.symm)
  have hids : r.identifiers = r'.identifiers :=
    List.map_injective_iff.mpr (fun _ _ => UInt16.toNat_inj.mp)
      (h.identifiers.trans h'.identifiers.symm)
  cases r
  cases r'
  cases htotal
  cases hopen
  cases hids
  rfl

/-- As many streams are described as are announced and as there is room for. -/
theorem Report.Describes.length_identifiers {r : Report} {area : Bytes} {room : Nat}
    (h : r.Describes area room) : r.identifiers.length = min r.total.toNat room := by
  have hlength := congrArg List.length h.identifiers
  rw [List.length_map, List.length_map, List.length_range] at hlength
  rw [hlength, h.total]

theorem Report.Describes.length_identifiers_le {r : Report} {area : Bytes} {room : Nat}
    (h : r.Describes area room) : r.identifiers.length ≤ room := by
  rw [h.length_identifiers]
  exact Nat.min_le_right ..

/-! ## Header and descriptors -/

theorem Header.toNat_length (h : Header) :
    h.length.toNat = Bytes.toNat (Bytes.slice h.bytes 0 4) :=
  (h.record.toNat_toUInt32_get lengthField (by decide)).trans
    (h.record.toNat_get_slice lengthField rfl rfl)

theorem Header.toNat_openStreams (h : Header) :
    h.openStreams.toNat = Bytes.toNat (Bytes.slice h.bytes 6 2) :=
  (h.record.toNat_toUInt16_get openStreamsField (by decide)).trans
    (h.record.toNat_get_slice openStreamsField rfl rfl)

theorem Descriptor.toNat_identifier (d : Descriptor) :
    d.identifier.toNat = Bytes.toNat (Bytes.slice d.bytes 2 2) :=
  (d.record.toNat_toUInt16_get identifierField (by decide)).trans
    (d.record.toNat_get_slice identifierField rfl rfl)

/-- A header reports what its length announces. -/
theorem Header.toNat_reported (h : Header) : h.reported.toNat = announced h.length.toNat := by
  have hoverhead : overhead.toNat = 8 := rfl
  rcases Nat.lt_or_ge h.length.toNat 8 with hlt | hge
  · rw [reported, if_pos (UInt32.lt_iff_toNat_lt.mpr hlt), announced, if_pos hlt]
    rfl
  · have hle : overhead ≤ h.length := UInt32.le_iff_toNat_le.mpr hge
    rw [reported, if_neg (UInt32.not_lt.mpr hle), announced, if_neg (Nat.not_lt.mpr hge),
      UInt32.toNat_toUInt64, UInt32.toNat_div, UInt32.toNat_sub_of_le _ _ hle, hoverhead]
    rfl

/-! ## Reading a buffer -/

/-- The streams of a view are in the third and fourth byte of each descriptor. -/
theorem identifiers_elements (b : ReplyBuffer replyShape) (reported : UInt64) :
    ((b.elements reported).toList.map fun r => Descriptor.identifier ⟨r⟩).map UInt16.toNat =
      (List.range (min reported.toNat b.capacity.toNat)).map fun i =>
        Bytes.toNat (Bytes.slice b.bytes (8 + 8 * i + 2) 2) := by
  have hread : ∀ (i : Nat) (r : Record descriptorLayout),
      r.bytes = Bytes.slice b.bytes (8 + i * 8) 8 → (Descriptor.identifier ⟨r⟩).toNat =
        Bytes.toNat (Bytes.slice b.bytes (8 + 8 * i + 2) 2) := by
    intro i r hr
    rw [Descriptor.toNat_identifier, Descriptor.bytes, hr, Bytes.slice_slice _ _ (by decide),
      Nat.mul_comm]
  exact List.map_map.trans (b.map_toList_elements reported hread)

/-- A report that is read from a buffer describes the bytes of the buffer. -/
theorem Report.describes_ofBuffer (b : ReplyBuffer replyShape) :
    (Report.ofBuffer b).Describes b.bytes b.capacity.toNat := by
  have hheader : (⟨b.header⟩ : Header).bytes = Bytes.slice b.bytes 0 8 := rfl
  have htotal : (⟨b.header⟩ : Header).reported.toNat =
      announced (Bytes.toNat (Bytes.slice b.bytes 0 4)) := by
    rw [Header.toNat_reported, Header.toNat_length, hheader, Bytes.slice_slice _ _ (by decide)]
  have hopen : (⟨b.header⟩ : Header).openStreams.toNat =
      Bytes.toNat (Bytes.slice b.bytes 6 2) := by
    rw [Header.toNat_openStreams, hheader, Bytes.slice_slice _ _ (by decide)]
  have hids := identifiers_elements b (Header.reported ⟨b.header⟩)
  rw [htotal] at hids
  exact ⟨htotal, hopen, hids⟩

end ScsiInitiator.StreamStatus
