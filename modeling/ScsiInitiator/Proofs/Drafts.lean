import ScsiInitiator.Proofs.Refusals
import ScsiInitiator.Proofs.Serialization
import ScsiInitiator.Proofs.StreamStatus.Issue
import ScsiInitiator.Proofs.UnitReady

/-!
# The requests of drafts

A draft is made by settings, first setting first.  Of the values that are set for
a field, the last one counts, and a field that is never set has its default
(`latest`).  This fixes every bit of the command block
(`StreamStatus.CommandBlock.bytes_of_values`,
`UnitReady.CommandBlock.bytes_of_values`), and with the initiator the whole
request (`StreamStatus.StreamDraft.request_ofSettings`,
`UnitReady.UnitDraft.request_ofSettings`).
-/

namespace ScsiInitiator

/-! ## Settings -/

/-- The draft that settings make. -/
def Draft.ofSettings (δ : Type) {σ α : Type} [Draft δ σ α] (settings : List σ) : δ :=
  settings.foldl (fun d x => Draft.apply x d) Draft.blank

theorem Draft.ofSettings_concat {δ σ α : Type} [Draft δ σ α] (settings : List σ) (x : σ) :
    Draft.ofSettings δ (settings ++ [x]) = Draft.apply x (Draft.ofSettings δ settings) := by
  rw [ofSettings, List.foldl_append]
  rfl

/-- The last value that settings give, or a default. -/
def latest {σ β : Type} (value? : σ → Option β) (default : β) (settings : List σ) : β :=
  (settings.filterMap value?).getLast?.getD default

theorem latest_concat {σ β : Type} (value? : σ → Option β) (default : β) (settings : List σ)
    (x : σ) : latest value? default (settings ++ [x]) =
      (value? x).getD (latest value? default settings) := by
  rw [latest, List.filterMap_append]
  cases h : value? x with
  | none => simp [h, latest]
  | some v => simp [h]

namespace StreamStatus

/-! ## GET STREAM STATUS -/

/-- The first stream that a setting asks for. -/
def Setting.startingStream? : Setting → Option UInt16
  | .startingStream v => some v
  | _ => none

/-- The control byte of a setting. -/
def Setting.control? : Setting → Option UInt8
  | .control v => some v
  | _ => none

/-- The number of descriptors that a setting makes room for. -/
def Setting.descriptorLength? : Setting → Option UInt32
  | .descriptorLength v => some v
  | _ => none

/-- The number of descriptors that settings make room for. -/
def room (settings : List Setting) : Nat := (latest Setting.descriptorLength? 0 settings).toNat

/-- The sixteen bytes of a command block. -/
def blockBytes (start : UInt16) (length : UInt32) (control : UInt8) : Bytes :=
  [0x9E, 0x16, 0, 0] ++ Bytes.ofNat 2 start.toNat ++ [0, 0, 0, 0] ++
    Bytes.ofNat 4 length.toNat ++ [0, control]

namespace CommandBlock

theorem values_setStartingStream (b : CommandBlock) (v : UInt16) :
    (b.setStartingStream v).record.values = b.record.values.set 4 v.toUInt64 :=
  b.record.values_set (Layout.fits_uint16 _ _ (by decide) v)

theorem values_setAllocationLength (b : CommandBlock) (v : UInt32) :
    (b.setAllocationLength v).record.values = b.record.values.set 6 v.toUInt64 :=
  b.record.values_set (Layout.fits_uint32 _ _ (by decide) v)

theorem values_setControl (b : CommandBlock) (v : UInt8) :
    (b.setControl v).record.values = b.record.values.set 8 v.toUInt64 :=
  b.record.values_set (Layout.fits_uint8 _ _ (by decide) v)

/-- The bytes of a command block are told by the values of its fields, since both
are the same number. -/
theorem bytes_of_values {b : CommandBlock} {start : UInt16} {length : UInt32} {control : UInt8}
    (h : b.record.values =
      [0x9E, 0, 0x16, 0, start.toUInt64, 0, length.toUInt64, 0, control.toUInt64]) :
    b.bytes = blockBytes start length control := by
  have hnumber := b.record.toNat_bytes
  simp only [← Record.getD_values, h] at hnumber
  change Bytes.toNat b.bytes = ∑ i : Fin 9, _ at hnumber
  apply Bytes.eq_of_toNat_eq
  · rw [b.length_bytes]
    simp [blockBytes]
  · rw [hnumber]
    simp [Fin.sum_univ_succ, commandBlockLayout, blockBytes, Bytes.toNat_append, Bytes.toNat_ofNat,
      Bytes.toNat]

end CommandBlock

namespace StreamDraft

/-- The fields of the command block of a draft.  A setting changes its own field
and no other. -/
theorem values_ofSettings (settings : List Setting) :
    (Draft.ofSettings StreamDraft settings).block.record.values =
      [0x9E, 0, 0x16, 0, (latest Setting.startingStream? 0 settings).toUInt64, 0, 0, 0,
        (latest Setting.control? 0 settings).toUInt64] := by
  induction settings using List.reverseRecOn with
  | nil => decide +kernel
  | append_singleton settings x ih =>
      rw [Draft.ofSettings_concat, latest_concat, latest_concat]
      cases x with
      | startingStream v =>
          refine (CommandBlock.values_setStartingStream _ v).trans ?_
          rw [ih]
          rfl
      | control v =>
          refine (CommandBlock.values_setControl _ v).trans ?_
          rw [ih]
          rfl
      | descriptorLength v => exact ih

theorem descriptorLength_ofSettings (settings : List Setting) :
    (Draft.ofSettings StreamDraft settings).descriptorLength =
      latest Setting.descriptorLength? 0 settings := by
  induction settings using List.reverseRecOn with
  | nil => rfl
  | append_singleton settings x ih =>
      rw [Draft.ofSettings_concat, latest_concat]
      cases x with
      | startingStream v => exact ih
      | control v => exact ih
      | descriptorLength v => rfl

/-- The number of bytes that settings make room for. -/
theorem replyLength_ofSettings (settings : List Setting) :
    (Draft.ofSettings StreamDraft settings).replyLength = 8 + 8 * room settings := by
  rw [replyLength, descriptorLength_ofSettings, room]

theorem sentBlock_ofSettings (settings : List Setting) :
    (Draft.ofSettings StreamDraft settings).sentBlock.bytes =
      blockBytes (latest Setting.startingStream? 0 settings)
        (UInt32.ofNat (8 + 8 * room settings)) (latest Setting.control? 0 settings) := by
  apply CommandBlock.bytes_of_values
  rw [sentBlock, CommandBlock.values_setAllocationLength, values_ofSettings,
    replyLength_ofSettings]
  rfl

/-- The request of settings: the whole reply is taken from the device, into a
data area with room for it. -/
theorem request_ofSettings (settings : List Setting) (i : Initiator) :
    (Draft.ofSettings StreamDraft settings).request i =
      { direction := .fromDevice
        commandBlock := blockBytes (latest Setting.startingStream? 0 settings)
          (UInt32.ofNat (8 + 8 * room settings)) (latest Setting.control? 0 settings)
        dataLength := UInt32.ofNat (8 + 8 * room settings)
        hasDataArea := true
        timeout := i.settings.timeout
        senseBufferSize := i.settings.senseBufferSize } := by
  rw [request, Initiator.request, sentBlock_ofSettings, replyLength_ofSettings]
  rfl

end StreamDraft

end StreamStatus

namespace UnitReady

/-! ## TEST UNIT READY -/

/-- The control byte of a setting. -/
def Setting.control? : Setting → Option UInt8
  | .control v => some v

theorem CommandBlock.values_setControl (b : CommandBlock) (v : UInt8) :
    (b.setControl v).record.values = b.record.values.set 2 v.toUInt64 :=
  b.record.values_set (Layout.fits_uint8 _ _ (by decide) v)

theorem CommandBlock.bytes_of_values {b : CommandBlock} {control : UInt8}
    (h : b.record.values = [0, 0, control.toUInt64]) : b.bytes = [0, 0, 0, 0, 0, control] := by
  have hbytes := b.record.bytes_of_whole_fields (by decide)
  rw [Record.fieldBytes, h] at hbytes
  rw [bytes, hbytes]
  simp [commandBlockLayout, Bytes.ofNat]

namespace UnitDraft

theorem values_ofSettings (settings : List Setting) :
    (Draft.ofSettings UnitDraft settings).block.record.values =
      [0, 0, (latest Setting.control? 0 settings).toUInt64] := by
  induction settings using List.reverseRecOn with
  | nil => decide +kernel
  | append_singleton settings x ih =>
      rw [Draft.ofSettings_concat, latest_concat]
      cases x with
      | control v =>
          refine (CommandBlock.values_setControl _ v).trans ?_
          rw [ih]
          rfl

/-- The request of settings: no data moves. -/
theorem request_ofSettings (settings : List Setting) (i : Initiator) :
    (Draft.ofSettings UnitDraft settings).request i =
      { direction := .none
        commandBlock := [0, 0, 0, 0, 0, latest Setting.control? 0 settings]
        dataLength := 0
        hasDataArea := false
        timeout := i.settings.timeout
        senseBufferSize := i.settings.senseBufferSize } := by
  have hblock := CommandBlock.bytes_of_values (values_ofSettings settings)
  rw [request, Initiator.request, hblock]
  rfl

end UnitDraft

end UnitReady

end ScsiInitiator
