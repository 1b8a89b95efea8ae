import ScsiInitiator.Proofs.Dispatch

/-!
# Refused and accepted commands

A command is refused for one of three causes, and `Command.RefusedFor` says
which.  A command with two of them is refused for the first.  Nothing else makes
a dispatch fail (`Initiator.dispatch_eq_error_iff`), and a refused command leaves
the transport alone.

An accepted command is handed to the transport once
(`Initiator.issue_of_not_refused`).  If data moves, the transport is given the
memory of the data buffer itself, be it empty or missing (`dataArea_of_ne`).  It
sees the first bytes there, as many as the command moves, and what it leaves
there is all that changes in the buffer (`val_withArea`).
-/

namespace ScsiInitiator

/-! ## Causes -/

namespace Command

variable {α : Type}

/-- The command has no byte of a command block. -/
def LacksBlock (c : Command α) : Prop := c.commandBlock = none ∨ c.commandBlock = some []

instance (c : Command α) : Decidable c.LacksBlock := inferInstanceAs (Decidable (_ ∨ _))

/-- The command is not handed to the transport: it has no command block, it moves
more than its buffer has, or it takes other than a whole buffer. -/
def Refused (c : Command α) : Prop :=
  c.LacksBlock ∨
    (c.direction ≠ .none ∧ (Bytes.ofMemory c.buffer).length < c.dataSize.toNat) ∨
    (c.direction = .fromDevice ∧ c.dataSize.toNat ≠ (Bytes.ofMemory c.buffer).length)

instance (c : Command α) : Decidable c.Refused := inferInstanceAs (Decidable (_ ∨ _ ∨ _))

/-- The cause a command is refused for. -/
inductive RefusedFor (c : Command α) : Fault → Prop
  /-- There is no command block. -/
  | block (hb : c.LacksBlock) : RefusedFor c .emptyCommandBlock
  /-- There is more to move than the buffer has. -/
  | exceeds (hb : ¬c.LacksBlock) (hd : c.direction ≠ .none)
      (hs : (Bytes.ofMemory c.buffer).length < c.dataSize.toNat) :
      RefusedFor c (.dataExceedsBuffer c.dataSize (Bytes.ofMemory c.buffer).length)
  /-- There is less to take than the buffer has. -/
  | differs (hb : ¬c.LacksBlock) (hd : c.direction = .fromDevice)
      (hs : c.dataSize.toNat < (Bytes.ofMemory c.buffer).length) :
      RefusedFor c (.dataDiffersFromReply c.dataSize (Bytes.ofMemory c.buffer).length)

variable {c : Command α} {fault : Fault}

theorem RefusedFor.refused (h : c.RefusedFor fault) : c.Refused := by
  cases h with
  | block hb => exact .inl hb
  | exceeds _ hd hs => exact .inr (.inl ⟨hd, hs⟩)
  | differs _ hd hs => exact .inr (.inr ⟨hd, Nat.ne_of_lt hs⟩)

/-- A command that is refused contradicts itself. -/
theorem RefusedFor.kind_eq (h : c.RefusedFor fault) : fault.kind = .logicError := by
  cases h <;> rfl

theorem Refused.exists_cause (h : c.Refused) : ∃ fault, c.RefusedFor fault := by
  by_cases hb : c.LacksBlock
  · exact ⟨_, .block hb⟩
  · rcases h with h | ⟨hd, hs⟩ | ⟨hd, hs⟩
    · exact absurd h hb
    · exact ⟨_, .exceeds hb hd hs⟩
    · rcases Nat.lt_or_gt_of_ne hs with hlt | hgt
      · exact ⟨_, .differs hb hd hlt⟩
      · exact ⟨_, .exceeds hb (by rw [hd]; exact Direction.noConfusion) hgt⟩

/-- A command that is not refused has a command block, and suits its buffer if it
moves data at all. -/
theorem exists_block_of_not_refused (h : ¬c.Refused) :
    ∃ block, c.commandBlock = some block ∧ block ≠ [] ∧
      checkDataSize c.direction c.dataSize (Bytes.ofMemory c.buffer).length = .ok () ∧
      (c.direction ≠ .none → c.dataSize.toNat ≤ (Bytes.ofMemory c.buffer).length) := by
  obtain ⟨hb, hsize⟩ := not_or.mp h
  obtain ⟨hexceeds, hdiffers⟩ := not_or.mp hsize
  obtain ⟨hnone, hnil⟩ := not_or.mp hb
  cases hc : c.commandBlock with
  | none => exact absurd hc hnone
  | some block =>
      refine ⟨block, rfl, ?_, ?_, ?_⟩
      · intro hblock
        exact hnil (by rw [hc, hblock])
      · rw [checkDataSize, if_neg hexceeds, if_neg hdiffers]
      · intro hd
        exact Nat.not_lt.mp fun hs => hexceeds ⟨hd, hs⟩

end Command

/-! ## Refusals -/

theorem checkCommandBlock_of_lacks {α : Type} {c : Command α} (h : c.LacksBlock) :
    checkCommandBlock c.commandBlock = .error .emptyCommandBlock := by
  rcases h with h | h
  · rw [h]
    rfl
  · rw [h]
    rfl

theorem exists_checkCommandBlock {α : Type} {c : Command α} (h : ¬c.LacksBlock) :
    ∃ block, checkCommandBlock c.commandBlock = .ok block := by
  obtain ⟨hnone, hnil⟩ := not_or.mp h
  cases hc : c.commandBlock with
  | none => exact absurd hc hnone
  | some block =>
      cases block with
      | nil => exact absurd hc hnil
      | cons x b => exact ⟨x :: b, rfl⟩

namespace Initiator

variable {α : Type} (i : Initiator) (t : Transport) {c : Command α} {fault : Fault}

theorem dispatch_of_size_error {block : Bytes} (hb : checkCommandBlock c.commandBlock = .ok block)
    (hs : checkDataSize c.direction c.dataSize (Bytes.ofMemory c.buffer).length = .error fault) :
    i.dispatch t c.direction c.commandBlock c.buffer c.dataSize = .error fault := by
  rw [dispatch, hb]
  show (checkDataSize c.direction c.dataSize (Bytes.ofMemory c.buffer).length >>= _) = _
  rw [hs]
  rfl

theorem dispatch_of_refusedFor (h : c.RefusedFor fault) :
    i.dispatch t c.direction c.commandBlock c.buffer c.dataSize = .error fault := by
  cases h with
  | block hb =>
      rw [dispatch, checkCommandBlock_of_lacks hb]
      rfl
  | exceeds hb hd hs =>
      obtain ⟨block, hblock⟩ := exists_checkCommandBlock hb
      apply i.dispatch_of_size_error t hblock
      rw [checkDataSize, if_pos ⟨hd, hs⟩]
  | differs hb hd hs =>
      obtain ⟨block, hblock⟩ := exists_checkCommandBlock hb
      apply i.dispatch_of_size_error t hblock
      rw [checkDataSize, if_neg (fun hc => Nat.lt_asymm hs hc.2), if_pos ⟨hd, Nat.ne_of_lt hs⟩]

/-- A dispatch fails for the causes of a refusal and for nothing else. -/
theorem dispatch_eq_error_iff :
    i.dispatch t c.direction c.commandBlock c.buffer c.dataSize = .error fault ↔
      c.RefusedFor fault := by
  constructor
  · intro hfault
    by_cases h : c.Refused
    · obtain ⟨cause, hcause⟩ := h.exists_cause
      rw [i.dispatch_of_refusedFor t hcause] at hfault
      cases hfault
      exact hcause
    · obtain ⟨block, hblock, hne, hsize, -⟩ := Command.exists_block_of_not_refused h
      rw [hblock, i.dispatch_of_accepted t (checkCommandBlock_of_ne_nil hne) hsize] at hfault
      cases hfault
  · exact i.dispatch_of_refusedFor t

/-- A refused command leaves the transport alone. -/
theorem issue_of_refusedFor (h : c.RefusedFor fault) : i.issue c t = (t, .error fault) := by
  rw [issue, i.dispatch_of_refusedFor t h]

end Initiator

/-! ## What the transport is given and what comes back -/

/-- If data moves, the transport is given the memory of the data buffer, also if
no byte of it moves. -/
theorem dataArea_of_ne {direction : Direction} (buffer : Option Bytes) (size : Nat)
    (hd : direction ≠ .none) : dataArea direction buffer size = buffer.map (·.take size) :=
  if_neg hd

/-- What is written to the data area is all that changes in the buffer. -/
theorem val_withArea {buffer : Option Bytes} {size : Nat} (written : Bytes)
    (hs : size ≤ (Bytes.ofMemory buffer).length) :
    (withArea buffer ((buffer.map (·.take size)).map (Bytes.overwrite · 0 written))).val =
      Bytes.overwrite ((Bytes.ofMemory buffer).take size) 0 written ++
        (Bytes.ofMemory buffer).drop size := by
  cases buffer with
  | none => simp [withArea, Bytes.overwrite]
  | some b =>
      have hlength : (Bytes.overwrite (b.take size) 0 written).length = size := by
        rw [Bytes.length_overwrite, List.length_take]
        exact Nat.min_eq_left hs
      show Bytes.overwrite b 0 (Bytes.overwrite (b.take size) 0 written) = _
      rw [Bytes.overwrite, hlength, List.take_zero, List.nil_append, Nat.sub_zero, Nat.zero_add,
        List.take_of_length_le (by rw [hlength]; exact hs)]
      rfl

namespace Initiator

/-- A command that is not refused is handed to the transport once, and its result
is made from what comes back. -/
theorem issue_of_not_refused {α : Type} (i : Initiator) (t : Transport) {c : Command α}
    {block : Bytes} (hc : c.commandBlock = some block) (h : ¬c.Refused) :
    let area := dataArea c.direction c.buffer c.dataSize.toNat
    let answer := t.handler.respond block area
    i.issue c t =
      ((t.execute (i.request c.direction block c.buffer c.dataSize) area).1,
        c.finish answer.1 (withArea c.buffer (area.map (·.overwrite 0 answer.2)))) := by
  obtain ⟨block', hc', hne, hsize, -⟩ := Command.exists_block_of_not_refused h
  have hsame : block' = block := Option.some.inj (hc'.symm.trans hc)
  subst hsame
  rw [i.issue_of_accepted t (hc' ▸ checkCommandBlock_of_ne_nil hne) hsize]
  rfl

/-- A command is refused exactly if its command block is missing or empty, if it
moves more than its buffer has, or if it takes other than its whole buffer.  It
then contradicts itself, and the transport is left alone.  Any other command
reaches the transport once, with the command block as it is.  If no data moves,
no data area goes along, and the buffer stays as it was.  Else the data area is
the memory of the buffer itself: none exactly if the buffer has no memory, and
there also if the buffer has no bytes.  The transport sees the first bytes of the
buffer, and the rest of the buffer stays as it was.  The outcome reaches the
command unchanged, and what the command makes of it is the result. -/
theorem issue_refuses_or_hands_over {α : Type} (i : Initiator) (c : Command α) (t : Transport) :
    let n := (Bytes.ofMemory c.buffer).length
    ((∃ fault, i.dispatch t c.direction c.commandBlock c.buffer c.dataSize = .error fault) ↔
      (c.commandBlock = none ∨ c.commandBlock = some []) ∨
        (c.direction ≠ .none ∧ n < c.dataSize.toNat) ∨
        (c.direction = .fromDevice ∧ c.dataSize.toNat ≠ n)) ∧
    (∀ fault, i.dispatch t c.direction c.commandBlock c.buffer c.dataSize = .error fault →
      c.RefusedFor fault ∧ fault.kind = .logicError ∧ i.issue c t = (t, .error fault)) ∧
    (¬c.Refused → ∃ (block : Bytes) (area : Option Bytes)
        (after : { after : Bytes // after.length = n }),
      c.commandBlock = some block ∧ block ≠ [] ∧
      (c.direction = .none → area = none ∧ after.val = Bytes.ofMemory c.buffer) ∧
      (c.direction ≠ .none →
        c.dataSize.toNat ≤ n ∧
        area = c.buffer.map (·.take c.dataSize.toNat) ∧
        (area = none ↔ c.buffer = none) ∧
        after.val = Bytes.overwrite ((Bytes.ofMemory c.buffer).take c.dataSize.toNat) 0
          (t.handler.respond block area).2 ++ (Bytes.ofMemory c.buffer).drop c.dataSize.toNat) ∧
      i.issue c t =
        ({ t with
            requests := t.requests ++
              [{ direction := c.direction
                 commandBlock := block
                 dataLength := if c.direction = .none then 0 else c.dataSize
                 hasDataArea := area.isSome
                 timeout := i.settings.timeout
                 senseBufferSize := i.settings.senseBufferSize }]
            seen := if t.handler.observes then area else t.seen },
          c.finish (t.handler.respond block area).1 after)) := by
  refine ⟨?_, ?_, ?_⟩
  · constructor
    · rintro ⟨fault, hfault⟩
      exact ((i.dispatch_eq_error_iff t).mp hfault).refused
    · intro h
      obtain ⟨fault, hcause⟩ := Command.Refused.exists_cause h
      exact ⟨fault, i.dispatch_of_refusedFor t hcause⟩
  · intro fault hfault
    have hcause := (i.dispatch_eq_error_iff t).mp hfault
    exact ⟨hcause, hcause.kind_eq, i.issue_of_refusedFor t hcause⟩
  · intro h
    obtain ⟨block, hc, hne, -, hle⟩ := Command.exists_block_of_not_refused h
    refine ⟨block, dataArea c.direction c.buffer c.dataSize.toNat, _, hc, hne, ?_, ?_,
      i.issue_of_not_refused t hc h⟩
    · intro hd
      rw [hd]
      exact ⟨rfl, rfl⟩
    · intro hd
      have harea := dataArea_of_ne c.buffer c.dataSize.toNat hd
      refine ⟨hle hd, harea, ?_, ?_⟩
      · rw [harea, Option.map_eq_none_iff]
      · rw [harea]
        exact val_withArea _ (hle hd)

/-- A device that writes three bytes changes the two that are moved.  A buffer
that is there and has no bytes goes along, and a buffer without memory does not. -/
theorem issue_refuses_or_hands_over_of_memory :
    let c := Command.transfer .toDevice (some [0x12]) (some [1, 2, 3]) 2 .nothing
    let empty := Command.transfer .fromDevice (some [0x12]) (some []) 0 .nothing
    let missing := Command.transfer .fromDevice (some [0x12]) none 0 .nothing
    let t : Transport := { handler := ⟨fun _ _ => ({}, [9, 9, 9]), true⟩ }
    (¬c.Refused ∧ (Initiator.default.issue c t).2 = .ok ⟨[9, 9, 3], {}⟩) ∧
    (¬empty.Refused ∧ (Initiator.default.issue empty t).1.seen = some [] ∧
      (Initiator.default.issue empty t).1.requests.map Request.hasDataArea = [true]) ∧
    (¬missing.Refused ∧ (Initiator.default.issue missing t).1.seen = none ∧
      (Initiator.default.issue missing t).1.requests.map Request.hasDataArea = [false]) := by
  intro c empty missing t
  have haccepted : ¬c.Refused := by decide
  have hempty : ¬empty.Refused := by decide
  have hmissing : ¬missing.Refused := by decide
  refine ⟨⟨haccepted, ?_⟩, ⟨hempty, ?_⟩, hmissing, ?_⟩
  · obtain ⟨-, -, hhanded⟩ := Initiator.default.issue_refuses_or_hands_over c t
    obtain ⟨block, area, after, -, -, -, hmoved, hissue⟩ := hhanded haccepted
    obtain ⟨-, -, -, hafter⟩ := hmoved (by decide)
    rw [hissue]
    exact congrArg (fun bytes => Except.ok (Transfer.mk bytes {})) hafter
  · obtain ⟨-, -, hhanded⟩ := Initiator.default.issue_refuses_or_hands_over empty t
    obtain ⟨block, area, after, -, -, -, hmoved, hissue⟩ := hhanded hempty
    obtain ⟨-, rfl, -, -⟩ := hmoved (by decide)
    rw [hissue]
    exact ⟨rfl, rfl⟩
  · obtain ⟨-, -, hhanded⟩ := Initiator.default.issue_refuses_or_hands_over missing t
    obtain ⟨block, area, after, -, -, -, hmoved, hissue⟩ := hhanded hmissing
    obtain ⟨-, rfl, -, -⟩ := hmoved (by decide)
    rw [hissue]
    exact ⟨rfl, rfl⟩

end Initiator

end ScsiInitiator
