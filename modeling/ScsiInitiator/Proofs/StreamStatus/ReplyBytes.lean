import ScsiInitiator.Proofs.Serialization
import ScsiInitiator.Proofs.StreamStatus.Replies

/-!
# The bytes of a reply

A reply that is written to a piece of memory puts whole records at its start: the
header, then a descriptor for each stream as long as one fits.  Header and
descriptors are told in bytes (`Reply.bytes_header`, `bytes_descriptor`), and the
rest is what was there before (`Reply.write_whole_records`).
-/

namespace ScsiInitiator.StreamStatus

/-! ## Records in bytes -/

/-- The eight bytes of a header. -/
def headerBytes (length : UInt32) (openStreams : UInt16) : Bytes :=
  Bytes.ofNat 4 length.toNat ++ [0, 0] ++ Bytes.ofNat 2 openStreams.toNat

/-- The eight bytes of the descriptor of a stream. -/
def descriptorBytes (id : UInt16) : Bytes := [0, 0] ++ Bytes.ofNat 2 id.toNat ++ [0, 0, 0, 0]

theorem Reply.values_header (r : Reply) :
    r.header.record.values = [r.length.toUInt64, 0, r.openStreams.toUInt64] := by
  have hblank : Header.blank.record.values = [0, 0, 0] := by decide +kernel
  rw [header, Header.setOpenStreams, Record.values_set, Header.setLength, Record.values_set, hblank]
  rfl

theorem Reply.bytes_header (r : Reply) : r.header.bytes = headerBytes r.length r.openStreams := by
  have hbytes := r.header.record.bytes_of_whole_fields (by decide)
  rw [Record.fieldBytes, values_header] at hbytes
  exact hbytes

theorem bytes_descriptor (id : UInt16) :
    (Descriptor.blank.setIdentifier id).bytes = descriptorBytes id := by
  have hblank : Descriptor.blank.record.values = [0, 0, 0] := by decide +kernel
  have hvalues : (Descriptor.blank.setIdentifier id).record.values = [0, id.toUInt64, 0] := by
    rw [Descriptor.setIdentifier, Record.values_set, hblank]
    rfl
  have hbytes := (Descriptor.blank.setIdentifier id).record.bytes_of_whole_fields (by decide)
  rw [Record.fieldBytes, hvalues] at hbytes
  exact hbytes

@[simp] theorem length_headerBytes (length : UInt32) (openStreams : UInt16) :
    (headerBytes length openStreams).length = 8 := rfl

@[simp] theorem length_descriptorBytes (id : UInt16) : (descriptorBytes id).length = 8 := rfl

theorem row_eq_flatMap (ids : List UInt16) : row ids = ids.flatMap descriptorBytes := by
  rw [row, funext bytes_descriptor]

theorem length_row (ids : List UInt16) : (row ids).length = 8 * ids.length := by
  rw [row_eq_flatMap, List.length_flatMap]
  simp [Nat.mul_comm]

/-! ## Memory after a reply -/

namespace Reply

variable (r : Reply)

/-- The number of descriptors that are written where `limit` bytes may be. -/
def fitting (limit : Nat) : Nat := min r.identifiers.length ((limit - 8) / 8)

/-- The records that are written where `limit` bytes may be. -/
def written (limit : Nat) : Bytes :=
  headerBytes r.length r.openStreams ++ row (r.identifiers.take (r.fitting limit))

theorem length_written (limit : Nat) : (r.written limit).length = 8 + 8 * r.fitting limit := by
  rw [written, List.length_append, length_headerBytes, length_row, List.length_take, fitting]
  omega

theorem write_of_lt {area : Bytes} {limit : Nat} (h : limit < 8) : r.write area limit = area := by
  have hsize : headerLayout.size = 8 := rfl
  rw [write, hsize]
  exact if_pos (by omega)

/-- Records are written as far as they fit, and what comes after them stays. -/
theorem write_eq {area : Bytes} {limit : Nat} (h : 8 ≤ limit) (hlimit : limit ≤ area.length) :
    r.write area limit = r.written limit ++ area.drop (8 + 8 * r.fitting limit) := by
  have hsize : headerLayout.size = 8 := rfl
  rw [write, Nat.min_eq_left hlimit, hsize, written, fitting]
  rw [if_neg (by omega), bytes_header, writeDescriptors_eq _ _ _ (by rw [List.length_drop]; omega),
    List.drop_drop, List.append_assoc, List.take_eq_take_min, Nat.min_comm]

theorem writeTo_of_lt {memory : Option Bytes} {limit : Nat} (h : memory = none ∨ limit < 8) :
    r.writeTo memory limit = memory := by
  cases memory with
  | none => rfl
  | some area =>
      have hlt : limit < 8 := h.resolve_left (Option.some_ne_none area)
      rw [writeTo, Option.map_some, r.write_of_lt hlt]

/-- Each place for a descriptor has a whole one or what it had before. -/
theorem slice_write {area : Bytes} {limit : Nat} (h : 8 ≤ limit) (hlimit : limit ≤ area.length)
    (i : Nat) :
    (∀ hi : i < r.identifiers.length, i < r.fitting limit →
      Bytes.slice (r.write area limit) (8 + 8 * i) 8 = descriptorBytes r.identifiers[i]) ∧
    (r.fitting limit ≤ i →
      Bytes.slice (r.write area limit) (8 + 8 * i) 8 = Bytes.slice area (8 + 8 * i) 8) := by
  have hlength := r.length_written limit
  rw [r.write_eq h hlimit]
  constructor
  · intro hi hlt
    have htaken : i < (r.identifiers.take (r.fitting limit)).length := by
      rw [List.length_take]
      omega
    have hplace : 8 + 8 * i = (headerBytes r.length r.openStreams).length + 8 * i := rfl
    rw [Bytes.slice_append_left _ (by omega), written, hplace, Bytes.slice_append_right,
      slice_row _ _ htaken, bytes_descriptor, List.getElem_take]
  · intro hle
    have hplace : 8 + 8 * i = (r.written limit).length + 8 * (i - r.fitting limit) := by omega
    rw [hplace, Bytes.slice_append_right, Bytes.slice_drop, hlength]

/-- A reply is written to memory in whole records and within its limit.  Missing
memory and a limit without room for a header leave everything as it was.
Otherwise the header is written, then a descriptor for each stream as long as a
whole one fits, and all other bytes stay, those from the limit on among them. -/
theorem write_whole_records (limit : Nat) :
    (∀ memory : Option Bytes, memory = none ∨ limit < 8 → r.writeTo memory limit = memory) ∧
    ∀ area : Bytes, limit ≤ area.length → 8 ≤ limit →
      let k := min r.identifiers.length ((limit - 8) / 8)
      ∃ after : Bytes, r.writeTo (some area) limit = some after ∧
        after = headerBytes r.length r.openStreams ++
          (r.identifiers.take k).flatMap descriptorBytes ++ area.drop (8 + 8 * k) ∧
        after.length = area.length ∧ 8 + 8 * k ≤ limit ∧ after.drop limit = area.drop limit ∧
        (∀ (i : Nat) (h : i < r.identifiers.length), i < k →
          Bytes.slice after (8 + 8 * i) 8 = descriptorBytes r.identifiers[i]) ∧
        ∀ i, k ≤ i → Bytes.slice after (8 + 8 * i) 8 = Bytes.slice area (8 + 8 * i) 8 := by
  refine ⟨fun memory h => r.writeTo_of_lt h, ?_⟩
  intro area hlimit h k
  have hwritten := r.length_written limit
  have hwithin : 8 + 8 * r.fitting limit ≤ limit := by
    rw [fitting]
    omega
  refine ⟨r.write area limit, rfl, ?_, r.length_write area limit, hwithin, ?_,
    fun i => (r.slice_write h hlimit i).1, fun i => (r.slice_write h hlimit i).2⟩
  · rw [← row_eq_flatMap]
    exact r.write_eq h hlimit
  · rw [r.write_eq h hlimit, List.drop_append, List.drop_of_length_le (by omega), List.nil_append,
      List.drop_drop, hwritten]
    congr 1
    omega

/-- Of two streams one fits, and a byte before the limit is too few for the other. -/
theorem write_whole_records_one_of_two :
    (⟨24, 1, [0x0A, 0x0B]⟩ : Reply).writeTo (some (List.replicate 19 0xEE)) 17 =
      some [0, 0, 0, 24, 0, 0, 0, 1, 0, 0, 0, 0x0A, 0, 0, 0, 0, 0xEE, 0xEE, 0xEE] := by
  obtain ⟨-, hrecords⟩ := write_whole_records ⟨24, 1, [0x0A, 0x0B]⟩ 17
  obtain ⟨after, hwrite, hafter, -⟩ := hrecords (List.replicate 19 0xEE) (by decide) (by decide)
  rw [hwrite, hafter]
  rfl

end Reply

end ScsiInitiator.StreamStatus
