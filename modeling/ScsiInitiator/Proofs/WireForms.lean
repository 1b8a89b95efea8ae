import ScsiInitiator.Proofs.Forms

/-!
# The forms that cross the wire

Two command blocks, the header of the stream parameters and the descriptor of a
stream are forms.  The fields that can be filled in are whole bytes, and
`forms_show_latest` says where they are, in bytes and without layouts.  All other
bits are preprinted: operation codes, the service action and what is reserved.
-/

namespace ScsiInitiator

open Form (Change after)

namespace StreamStatus

/-! ## The command block of GET STREAM STATUS -/

namespace CommandBlock

/-- An entry in the command block. -/
inductive Entry
  /-- The first stream that is asked for. -/
  | startingStream (v : UInt16)
  /-- The number of bytes there is room for. -/
  | allocationLength (v : UInt32)
  /-- The control byte. -/
  | control (v : UInt8)

/-- The first stream an entry says. -/
def Entry.startingStream? : Entry → Option UInt16
  | .startingStream v => some v
  | _ => none

/-- The number of bytes an entry says. -/
def Entry.allocationLength? : Entry → Option UInt32
  | .allocationLength v => some v
  | _ => none

/-- The control byte an entry says. -/
def Entry.control? : Entry → Option UInt8
  | .control v => some v
  | _ => none

instance : Form CommandBlock Entry where
  layout := commandBlockLayout
  record := record
  ofRecord := mk
  blank := blank
  field
    | .startingStream _ => startingStreamField
    | .allocationLength _ => allocationLengthField
    | .control _ => controlField
  value
    | .startingStream v => v.toUInt64
    | .allocationLength v => v.toUInt64
    | .control v => v.toUInt64
  enter
    | .startingStream v, b => b.setStartingStream v
    | .allocationLength v, b => b.setAllocationLength v
    | .control v, b => b.setControl v
  ofMemory := ofMemory

instance : LawfulForm CommandBlock where
  record_ofRecord _ := rfl
  ofRecord_record _ := rfl
  ofMemory_eq _ _ := rfl
  setChecked_record e b := by
    cases e with
    | startingStream v =>
        exact b.record.setChecked_of_fits (Layout.fits_uint16 _ startingStreamField (by decide) v)
    | allocationLength v =>
        exact b.record.setChecked_of_fits
          (Layout.fits_uint32 _ allocationLengthField (by decide) v)
    | control v =>
        exact b.record.setChecked_of_fits (Layout.fits_uint8 _ controlField (by decide) v)

theorem steady :
    Form.Steady CommandBlock ([0x9E, 0x16] ++ Bytes.zeros 14) [(4, 2), (10, 4), (15, 1)] := by
  apply Form.steady
  · decide +kernel
  · intro e
    cases e with
    | startingStream _ => exact ⟨(4, 2), by decide, rfl, rfl⟩
    | allocationLength _ => exact ⟨(10, 4), by decide, rfl, rfl⟩
    | control _ => exact ⟨(15, 1), by decide, rfl, rfl⟩

theorem operationCode_after (xs : List (Change Entry)) :
    (after CommandBlock xs).operationCode =
      latest (Change.says? 16 (fun _ => none) fun m => .ofNat (Bytes.toNat (Bytes.slice m 0 1)))
        0x9E xs := by
  apply Form.window_after (S := CommandBlock) UInt8.ofNat operationCodeField rfl rfl
  · intro e
    cases e with
    | startingStream _ => rfl
    | allocationLength _ => rfl
    | control _ => rfl
  · decide +kernel

/-- The service action has the low five bits of its byte. -/
theorem serviceAction_after (xs : List (Change Entry)) :
    (after CommandBlock xs).serviceAction =
      latest (Change.says? 16 (fun _ => none) fun m =>
        .ofNat (Bytes.toNat (Bytes.slice m 1 1) % 32)) 0x16 xs := by
  apply Form.get_after (S := CommandBlock) serviceActionField UInt64.toUInt8
  · intro e
    cases e with
    | startingStream _ => rfl
    | allocationLength _ => rfl
    | control _ => rfl
  · intro b
    have hbyte : commandBlockLayout.offset serviceActionField +
        commandBlockLayout.width serviceActionField = 8 * (1 + 1) := rfl
    exact congrArg UInt8.ofNat
      (b.record.toNat_get_slice_mod serviceActionField hbyte (by decide))
  · decide +kernel

theorem startingStream_after (xs : List (Change Entry)) :
    (after CommandBlock xs).startingStream =
      latest (Change.says? 16 Entry.startingStream? fun m =>
        .ofNat (Bytes.toNat (Bytes.slice m 4 2))) 0 xs := by
  apply Form.window_after (S := CommandBlock) UInt16.ofNat startingStreamField rfl rfl
  · intro e
    cases e with
    | startingStream v => exact (congrArg some v.toUInt16_toUInt64).symm
    | allocationLength _ => rfl
    | control _ => rfl
  · decide +kernel

theorem allocationLength_after (xs : List (Change Entry)) :
    (after CommandBlock xs).allocationLength =
      latest (Change.says? 16 Entry.allocationLength? fun m =>
        .ofNat (Bytes.toNat (Bytes.slice m 10 4))) 0 xs := by
  apply Form.window_after (S := CommandBlock) UInt32.ofNat allocationLengthField rfl rfl
  · intro e
    cases e with
    | startingStream _ => rfl
    | allocationLength v => exact (congrArg some v.toUInt32_toUInt64).symm
    | control _ => rfl
  · decide +kernel

theorem control_after (xs : List (Change Entry)) :
    (after CommandBlock xs).control =
      latest (Change.says? 16 Entry.control? fun m => .ofNat (Bytes.toNat (Bytes.slice m 15 1)))
        0 xs := by
  apply Form.window_after (S := CommandBlock) UInt8.ofNat controlField rfl rfl
  · intro e
    cases e with
    | startingStream _ => rfl
    | allocationLength _ => rfl
    | control v => exact (congrArg some v.toUInt8_toUInt64).symm
  · decide +kernel

end CommandBlock

/-! ## The header of the parameters -/

namespace Header

/-- An entry in the header. -/
inductive Entry
  /-- The length of the parameters. -/
  | length (v : UInt32)
  /-- The number of open streams. -/
  | openStreams (v : UInt16)

/-- The length an entry says. -/
def Entry.length? : Entry → Option UInt32
  | .length v => some v
  | _ => none

/-- The number of open streams an entry says. -/
def Entry.openStreams? : Entry → Option UInt16
  | .openStreams v => some v
  | _ => none

instance : Form Header Entry where
  layout := headerLayout
  record := record
  ofRecord := mk
  blank := blank
  field
    | .length _ => lengthField
    | .openStreams _ => openStreamsField
  value
    | .length v => v.toUInt64
    | .openStreams v => v.toUInt64
  enter
    | .length v, h => h.setLength v
    | .openStreams v, h => h.setOpenStreams v
  ofMemory := ofMemory

instance : LawfulForm Header where
  record_ofRecord _ := rfl
  ofRecord_record _ := rfl
  ofMemory_eq _ _ := rfl
  setChecked_record e h := by
    cases e with
    | length v =>
        exact h.record.setChecked_of_fits (Layout.fits_uint32 _ lengthField (by decide) v)
    | openStreams v =>
        exact h.record.setChecked_of_fits (Layout.fits_uint16 _ openStreamsField (by decide) v)

theorem steady : Form.Steady Header (Bytes.zeros 8) [(0, 4), (6, 2)] := by
  apply Form.steady
  · rfl
  · intro e
    cases e with
    | length _ => exact ⟨(0, 4), by decide, rfl, rfl⟩
    | openStreams _ => exact ⟨(6, 2), by decide, rfl, rfl⟩

theorem length_after (xs : List (Change Entry)) :
    (after Header xs).length =
      latest (Change.says? 8 Entry.length? fun m => .ofNat (Bytes.toNat (Bytes.slice m 0 4)))
        0 xs := by
  apply Form.window_after (S := Header) UInt32.ofNat lengthField rfl rfl
  · intro e
    cases e with
    | length v => exact (congrArg some v.toUInt32_toUInt64).symm
    | openStreams _ => rfl
  · decide +kernel

theorem openStreams_after (xs : List (Change Entry)) :
    (after Header xs).openStreams =
      latest (Change.says? 8 Entry.openStreams? fun m => .ofNat (Bytes.toNat (Bytes.slice m 6 2)))
        0 xs := by
  apply Form.window_after (S := Header) UInt16.ofNat openStreamsField rfl rfl
  · intro e
    cases e with
    | length _ => rfl
    | openStreams v => exact (congrArg some v.toUInt16_toUInt64).symm
  · decide +kernel

end Header

/-! ## The descriptor of a stream -/

namespace Descriptor

/-- An entry in a descriptor. -/
inductive Entry
  /-- The stream. -/
  | identifier (v : UInt16)

/-- The stream an entry says. -/
def Entry.identifier? : Entry → Option UInt16
  | .identifier v => some v

instance : Form Descriptor Entry where
  layout := descriptorLayout
  record := record
  ofRecord := mk
  blank := blank
  field
    | .identifier _ => identifierField
  value
    | .identifier v => v.toUInt64
  enter
    | .identifier v, d => d.setIdentifier v
  ofMemory := ofMemory

instance : LawfulForm Descriptor where
  record_ofRecord _ := rfl
  ofRecord_record _ := rfl
  ofMemory_eq _ _ := rfl
  setChecked_record e d := by
    cases e with
    | identifier v =>
        exact d.record.setChecked_of_fits (Layout.fits_uint16 _ identifierField (by decide) v)

theorem steady : Form.Steady Descriptor (Bytes.zeros 8) [(2, 2)] := by
  apply Form.steady
  · rfl
  · intro e
    cases e with
    | identifier _ => exact ⟨(2, 2), by decide, rfl, rfl⟩

theorem identifier_after (xs : List (Change Entry)) :
    (after Descriptor xs).identifier =
      latest (Change.says? 8 Entry.identifier? fun m => .ofNat (Bytes.toNat (Bytes.slice m 2 2)))
        0 xs := by
  apply Form.window_after (S := Descriptor) UInt16.ofNat identifierField rfl rfl
  · intro e
    cases e with
    | identifier v => exact (congrArg some v.toUInt16_toUInt64).symm
  · decide +kernel

end Descriptor

end StreamStatus

/-! ## The command block of TEST UNIT READY -/

namespace UnitReady.CommandBlock

/-- An entry in the command block. -/
inductive Entry
  /-- The control byte. -/
  | control (v : UInt8)

/-- The control byte an entry says. -/
def Entry.control? : Entry → Option UInt8
  | .control v => some v

instance : Form CommandBlock Entry where
  layout := commandBlockLayout
  record := record
  ofRecord := mk
  blank := blank
  field
    | .control _ => controlField
  value
    | .control v => v.toUInt64
  enter
    | .control v, b => b.setControl v
  ofMemory := ofMemory

instance : LawfulForm CommandBlock where
  record_ofRecord _ := rfl
  ofRecord_record _ := rfl
  ofMemory_eq _ _ := rfl
  setChecked_record e b := by
    cases e with
    | control v =>
        exact b.record.setChecked_of_fits (Layout.fits_uint8 _ controlField (by decide) v)

theorem steady : Form.Steady CommandBlock (Bytes.zeros 6) [(5, 1)] := by
  apply Form.steady
  · decide +kernel
  · intro e
    cases e with
    | control _ => exact ⟨(5, 1), by decide, rfl, rfl⟩

theorem operationCode_after (xs : List (Change Entry)) :
    (after CommandBlock xs).operationCode =
      latest (Change.says? 6 (fun _ => none) fun m => .ofNat (Bytes.toNat (Bytes.slice m 0 1)))
        0 xs := by
  apply Form.window_after (S := CommandBlock) UInt8.ofNat operationCodeField rfl rfl
  · intro e
    cases e with
    | control _ => rfl
  · decide +kernel

theorem control_after (xs : List (Change Entry)) :
    (after CommandBlock xs).control =
      latest (Change.says? 6 Entry.control? fun m => .ofNat (Bytes.toNat (Bytes.slice m 5 1)))
        0 xs := by
  apply Form.window_after (S := CommandBlock) UInt8.ofNat controlField rfl rfl
  · intro e
    cases e with
    | control v => exact (congrArg some v.toUInt8_toUInt64).symm
  · decide +kernel

end UnitReady.CommandBlock

/-! ## All four -/

/-- Whatever entries and loads a form goes through, each field shows the latest
value for it, from an entry or from memory that was read, or zero if there was
none.  No entry is refused.  A load is refused exactly if memory is missing or too
short, and then it changes nothing.  Every bit outside the windows of the entries
is as in the memory that was read last, or as in the blank form, which has no
bit set but those of the operation code and the service action.  A form is read
back from its bytes, whatever follows them. -/
theorem forms_show_latest :
    (Form.Steady StreamStatus.CommandBlock ([0x9E, 0x16] ++ Bytes.zeros 14)
        [(4, 2), (10, 4), (15, 1)] ∧
      ∀ xs : List (Change StreamStatus.CommandBlock.Entry),
        let b := after StreamStatus.CommandBlock xs
        b.operationCode = latest (Change.says? 16 (fun _ => none) fun m =>
          .ofNat (Bytes.toNat (Bytes.slice m 0 1))) 0x9E xs ∧
        b.serviceAction = latest (Change.says? 16 (fun _ => none) fun m =>
          .ofNat (Bytes.toNat (Bytes.slice m 1 1) % 32)) 0x16 xs ∧
        b.startingStream = latest (Change.says? 16 (·.startingStream?) fun m =>
          .ofNat (Bytes.toNat (Bytes.slice m 4 2))) 0 xs ∧
        b.allocationLength = latest (Change.says? 16 (·.allocationLength?) fun m =>
          .ofNat (Bytes.toNat (Bytes.slice m 10 4))) 0 xs ∧
        b.control = latest (Change.says? 16 (·.control?) fun m =>
          .ofNat (Bytes.toNat (Bytes.slice m 15 1))) 0 xs) ∧
    (Form.Steady UnitReady.CommandBlock (Bytes.zeros 6) [(5, 1)] ∧
      ∀ xs : List (Change UnitReady.CommandBlock.Entry),
        let b := after UnitReady.CommandBlock xs
        b.operationCode = latest (Change.says? 6 (fun _ => none) fun m =>
          .ofNat (Bytes.toNat (Bytes.slice m 0 1))) 0 xs ∧
        b.control = latest (Change.says? 6 (·.control?) fun m =>
          .ofNat (Bytes.toNat (Bytes.slice m 5 1))) 0 xs) ∧
    (Form.Steady StreamStatus.Header (Bytes.zeros 8) [(0, 4), (6, 2)] ∧
      ∀ xs : List (Change StreamStatus.Header.Entry),
        let h := after StreamStatus.Header xs
        h.length = latest (Change.says? 8 (·.length?) fun m =>
          .ofNat (Bytes.toNat (Bytes.slice m 0 4))) 0 xs ∧
        h.openStreams = latest (Change.says? 8 (·.openStreams?) fun m =>
          .ofNat (Bytes.toNat (Bytes.slice m 6 2))) 0 xs) ∧
    Form.Steady StreamStatus.Descriptor (Bytes.zeros 8) [(2, 2)] ∧
      ∀ xs : List (Change StreamStatus.Descriptor.Entry),
        (after StreamStatus.Descriptor xs).identifier =
          latest (Change.says? 8 (·.identifier?) fun m =>
            .ofNat (Bytes.toNat (Bytes.slice m 2 2))) 0 xs := by
  refine ⟨⟨StreamStatus.CommandBlock.steady, ?_⟩, ⟨UnitReady.CommandBlock.steady, ?_⟩,
    ⟨StreamStatus.Header.steady, ?_⟩, StreamStatus.Descriptor.steady,
    StreamStatus.Descriptor.identifier_after⟩
  · intro xs b
    exact ⟨StreamStatus.CommandBlock.operationCode_after xs,
      StreamStatus.CommandBlock.serviceAction_after xs,
      StreamStatus.CommandBlock.startingStream_after xs,
      StreamStatus.CommandBlock.allocationLength_after xs,
      StreamStatus.CommandBlock.control_after xs⟩
  · intro xs b
    exact ⟨UnitReady.CommandBlock.operationCode_after xs, UnitReady.CommandBlock.control_after xs⟩
  · intro xs h
    exact ⟨StreamStatus.Header.length_after xs, StreamStatus.Header.openStreams_after xs⟩

/-- A header that is read keeps its reserved bits through an entry. -/
example : Form.bytes (after StreamStatus.Header
    [.enter (.length 24), .load ⟨some [0, 0, 0, 9, 0xAB, 0xCD, 1, 2, 3], 9, by simp⟩,
      .load ⟨none, 9, by simp⟩, .enter (.openStreams 5)]) =
    [0, 0, 0, 9, 0xAB, 0xCD, 0, 5] := by decide +kernel

end ScsiInitiator
