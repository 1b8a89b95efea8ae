import ScsiInitiator.Proofs.StreamStatus.Reports
import ScsiInitiator.StreamStatus.Reply

/-!
# What a reply writes

A reply writes its header and a *row* of descriptors, one after another, and
leaves the rest of the area alone (`Reply.writeDescriptors_eq`).  In an area of
zeros the rest is a row too, since eight zero bytes are the descriptor of stream
zero (`Reply.write_zeros`).  A report of a header and a row has the streams of
the row again (`Report.Describes.of_row`).
-/

namespace ScsiInitiator.StreamStatus

/-! ## Fields that were set -/

theorem Descriptor.identifier_setIdentifier (d : Descriptor) (v : UInt16) :
    (d.setIdentifier v).identifier = v := by
  rw [identifier, setIdentifier, Record.get_set, if_pos rfl]
  exact UInt16.toUInt16_toUInt64 v

theorem Reply.length_header (r : Reply) : r.header.length = r.length := by
  rw [Header.length, header, Header.setOpenStreams, Record.get_set, if_neg (by decide),
    Header.setLength, Record.get_set, if_pos rfl]
  exact UInt32.toUInt32_toUInt64 r.length

theorem Reply.openStreams_header (r : Reply) : r.header.openStreams = r.openStreams := by
  rw [Header.openStreams, header, Header.setOpenStreams, Record.get_set, if_pos rfl]
  exact UInt16.toUInt16_toUInt64 r.openStreams

/-! ## Rows of descriptors -/

/-- The descriptors of some streams, one after another. -/
def row (ids : List UInt16) : Bytes :=
  ids.flatMap fun id => (Descriptor.blank.setIdentifier id).bytes

@[simp] theorem row_nil : row [] = [] := rfl

@[simp] theorem row_cons (id : UInt16) (ids : List UInt16) :
    row (id :: ids) = (Descriptor.blank.setIdentifier id).bytes ++ row ids := rfl

theorem row_append (ids ids' : List UInt16) : row (ids ++ ids') = row ids ++ row ids' :=
  List.flatMap_append

/-- Zeros are a row of streams zero. -/
theorem row_replicate_zero (n : Nat) : row (List.replicate n 0) = Bytes.zeros (8 * n) := by
  induction n with
  | zero => rfl
  | succ n ih =>
      have hzero : (Descriptor.blank.setIdentifier 0).bytes = Bytes.zeros 8 := by decide +kernel
      rw [List.replicate_succ, row_cons, ih, hzero, Bytes.zeros, Bytes.zeros, Bytes.zeros,
        List.replicate_append_replicate, Nat.mul_succ, Nat.add_comm]

theorem length_descriptor (id : UInt16) : (Descriptor.blank.setIdentifier id).bytes.length = 8 :=
  Descriptor.length_bytes _

/-- The descriptor at a position is that of the stream there. -/
theorem slice_row : ∀ (ids : List UInt16) (i : Nat) (h : i < ids.length),
    Bytes.slice (row ids) (8 * i) 8 = (Descriptor.blank.setIdentifier ids[i]).bytes
  | [], _, h => absurd h (Nat.not_lt_zero _)
  | id :: ids, 0, _ => by
      rw [row_cons, Bytes.slice_append_left _ (Nat.le_of_eq (length_descriptor id).symm),
        ← length_descriptor id]
      exact List.take_length
  | id :: ids, i + 1, h => by
      have hplace : 8 * (i + 1) = (Descriptor.blank.setIdentifier id).bytes.length + 8 * i := by
        rw [length_descriptor]
        omega
      rw [row_cons, hplace, Bytes.slice_append_right]
      exact slice_row ids i (Nat.lt_of_succ_lt_succ h)

/-- The stream at a position is in the third and fourth byte of its descriptor. -/
theorem toNat_slice_row (ids : List UInt16) (i : Nat) (h : i < ids.length) :
    Bytes.toNat (Bytes.slice (row ids) (8 * i + 2) 2) = (ids.get ⟨i, h⟩).toNat := by
  rw [← Bytes.slice_slice _ _ (show 2 + 2 ≤ 8 by decide), slice_row ids i h,
    ← Descriptor.toNat_identifier, Descriptor.identifier_setIdentifier]
  rfl

/-- A report of a header and a row has the streams of the row, as far as they
are announced. -/
theorem Report.Describes.of_row {r : Report} {h : Header} {ids : List UInt16}
    (hr : r.Describes (h.bytes ++ row ids) ids.length) :
    r.total.toNat = announced h.length.toNat ∧ r.openStreams = h.openStreams ∧
      r.identifiers = ids.take (announced h.length.toNat) := by
  have hsize : h.bytes.length = 8 := h.length_bytes
  have hlength : Bytes.toNat (Bytes.slice (h.bytes ++ row ids) 0 4) = h.length.toNat := by
    rw [Bytes.slice_append_left _ (by omega), Header.toNat_length]
  have hopen : Bytes.toNat (Bytes.slice (h.bytes ++ row ids) 6 2) = h.openStreams.toNat := by
    rw [Bytes.slice_append_left _ (by omega), Header.toNat_openStreams]
  obtain ⟨htotal, hstreams, hids⟩ := hr
  rw [hlength] at htotal hids
  rw [hopen] at hstreams
  refine ⟨htotal, UInt16.toNat_inj.mp hstreams, ?_⟩
  apply List.map_injective_iff.mpr (fun _ _ => UInt16.toNat_inj.mp)
  rw [hids]
  apply List.ext_getElem
  · simp
  · intro i hi _
    rw [List.length_map, List.length_range] at hi
    rw [List.getElem_map, List.getElem_range, List.getElem_map, List.getElem_take,
      show 8 + 8 * i + 2 = h.bytes.length + (8 * i + 2) by omega, Bytes.slice_append_right]
    exact toNat_slice_row ids i (by omega)

/-! ## Writing -/

/-- The first `n` of some streams, with zeros after the last one. -/
def padded (ids : List UInt16) (n : Nat) : List UInt16 := (ids ++ List.replicate n 0).take n

@[simp] theorem length_padded (ids : List UInt16) (n : Nat) : (padded ids n).length = n := by
  rw [padded, List.length_take, List.length_append, List.length_replicate]
  omega

theorem padded_of_le {ids : List UInt16} {n : Nat} (h : n ≤ ids.length) :
    padded ids n = ids.take n := List.take_append_of_le_length h

theorem padded_eq (ids : List UInt16) (n : Nat) :
    padded ids n = ids.take n ++ List.replicate (n - ids.length) 0 := by
  rw [padded, List.take_append, List.take_replicate, Nat.min_eq_left (Nat.sub_le _ _)]

theorem take_padded (ids : List UInt16) (m n : Nat) :
    (padded ids n).take m = padded ids (min m n) := by
  rw [padded_eq, padded_eq, List.take_append, List.take_take, List.take_replicate,
    List.length_take]
  congr 2
  omega

namespace Reply

/-- As many descriptors are written as there is room for whole ones. -/
theorem writeDescriptors_eq : ∀ (area : Bytes) (room : Nat) (ids : List UInt16),
    room ≤ area.length → writeDescriptors area room ids =
      row (ids.take (room / 8)) ++ area.drop (8 * min ids.length (room / 8))
  | area, room, [], _ => by simp [writeDescriptors]
  | area, room, id :: ids, h => by
      have hsize : descriptorLayout.size = 8 := rfl
      rw [writeDescriptors, hsize]
      rcases Nat.lt_or_ge room 8 with hroom | hroom
      · rw [if_pos hroom, Nat.div_eq_of_lt hroom]
        simp
      · have ih := writeDescriptors_eq (area.drop 8) (room - 8) ids
          (by rw [List.length_drop]; omega)
        rw [if_neg (Nat.not_lt.mpr hroom), ih, show room / 8 = (room - 8) / 8 + 1 by omega,
          List.take_succ_cons, row_cons, List.append_assoc, List.drop_drop, List.length_cons]
        congr 3
        omega

/-- A reply to an area of zeros is its header and the row of its streams, padded
to what there is room for. -/
theorem write_zeros (r : Reply) (count : Nat) :
    r.write (Bytes.zeros (8 + 8 * count)) (8 + 8 * count) =
      r.header.bytes ++ row (padded r.identifiers count) := by
  have hsize : headerLayout.size = 8 := rfl
  have hdrop : (Bytes.zeros (8 + 8 * count)).drop 8 = Bytes.zeros (8 * count) := by
    rw [Bytes.zeros, List.drop_replicate, Nat.add_sub_cancel_left, Bytes.zeros]
  rw [write, Bytes.length_zeros, Nat.min_self, hsize]
  rw [if_neg (by omega), hdrop, Nat.add_sub_cancel_left,
    writeDescriptors_eq _ _ _ (by rw [Bytes.length_zeros]),
    Nat.mul_div_cancel_left _ (by decide), padded_eq, row_append, row_replicate_zero, Bytes.zeros,
    List.drop_replicate, Bytes.zeros]
  congr 3
  omega

end Reply

end ScsiInitiator.StreamStatus
