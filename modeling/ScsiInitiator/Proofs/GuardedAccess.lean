import Mathlib.Data.Set.Lattice
import ScsiInitiator.Proofs.WireForms

/-!
# Guarded reads and writes

A read or a write of a bit range takes a segment at a time.  A segment is *safe*
in some bytes (`Segment.Safe`) if its byte is there, its bits are in the byte, and
no shift or mask is too large for what it works on.  A *guarded* read or write
looks at this before each segment and leaves it to its caller what happens if a
segment is not safe.

The segments of a range start where the one before ends and take what is left of
the range (`segments_split`), one for each byte that the range touches
(`length_segments`).  They are all safe exactly if the range is inside the bytes
(`forall_safe_iff`).  So a guarded access of such a range is the plain one,
whatever its caller would do (`Bytes.getBitsGuarded_eq`, `Bytes.setBitsGuarded_eq`).

The fields of a layout are ranges inside its bytes.  They fill it in order, without
gaps and without overlap, so no guard is ever seen when a field is read or set.
-/

namespace ScsiInitiator

/-! ## The fields of a layout -/

namespace Layout

variable {l : Layout}

/-- The bits of a field. -/
def range (l : Layout) (i : l.Field) : Set Nat := Set.Ico (l.offset i) (l.offset i + l.width i)

theorem offset_first {i : l.Field} (h : i.val = 0) : l.offset i = 0 := by
  rw [offset, h]
  rfl

theorem offset_next {i j : l.Field} (h : j.val = i.val + 1) :
    l.offset j = l.offset i + l.width i := by
  rw [offset_add_width, offset, h]

theorem pairwise_range_inter (l : Layout) : Pairwise fun i j => l.range i ∩ l.range j = ∅ := by
  intro i j hij
  rw [Set.eq_empty_iff_forall_notMem]
  rintro p ⟨⟨hi, hi'⟩, ⟨hj, hj'⟩⟩
  exact hij (field_unique hi hi' hj hj')

theorem iUnion_range (l : Layout) : ⋃ i, l.range i = Set.Ico 0 (8 * l.size) := by
  ext p
  rw [Set.mem_iUnion, Set.mem_Ico, ← l.bitCount_eq]
  constructor
  · rintro ⟨i, -, hp⟩
    exact ⟨Nat.zero_le p, Nat.lt_of_lt_of_le hp (l.offset_add_width_le i)⟩
  · rintro ⟨-, hp⟩
    exact l.exists_field hp

end Layout

/-! ## Segments in a row -/

open Segment (first)

namespace Segment

/-- The position of the first bit of a segment in the byte string. -/
def position (s : Segment) : Nat := 8 * s.index + s.start

/-- The number of bits that segments have together. -/
def taken (l : List Segment) : Nat := (l.map width).sum

theorem first_position (offset width : Nat) : (first offset width).position = offset :=
  Nat.div_add_mod offset 8

end Segment

/-- A segment starts where those before it end, and what is not in them and not in
it is left. -/
theorem segments_split : ∀ {before : List Segment} {offset width : Nat} {s : Segment}
    {after : List Segment}, segments offset width = before ++ s :: after →
    s.position = offset + Segment.taken before ∧ Segment.taken before + s.width + s.left = width
  | before, offset, width, s, after, h => by
      rcases Nat.eq_zero_or_pos width with rfl | hpos
      · rw [segments_zero] at h
        exact absurd h.symm (List.append_ne_nil_of_right_ne_nil _ (List.cons_ne_nil _ _))
      · have hsum := width_add_left_first offset width
        rw [segments_eq_cons offset hpos] at h
        cases before with
        | nil =>
            obtain ⟨rfl, -⟩ := List.cons.inj h
            refine ⟨Segment.first_position offset width, ?_⟩
            simpa [Segment.taken] using hsum
        | cons x before =>
            obtain ⟨rfl, hrest⟩ := List.cons.inj h
            obtain ⟨hposition, hwidth⟩ := segments_split hrest
            simp only [Segment.taken, List.map_cons, List.sum_cons] at hposition hwidth ⊢
            omega

theorem length_segments_of_pos (offset : Nat) {width : Nat} (h : 0 < width) :
    (segments offset width).length = (offset % 8 + width + 7) / 8 := by
  induction width using Nat.strongRecOn generalizing offset with
  | ind width ih =>
      rw [segments_eq_cons offset h, List.length_cons]
      simp only [first]
      rcases Nat.eq_zero_or_pos (width - min width (8 - offset % 8)) with hlast | hmore
      · rw [hlast, segments_zero, List.length_nil]
        omega
      · rw [ih _ (by omega) _ hmore]
        omega

/-- There is a segment for each byte that a range touches: an eighth of the bits from
the start of the first byte on, rounded up. -/
theorem length_segments (offset width : Nat) : (segments offset width).length =
    (if width = 0 then 0 else (offset % 8 + width + 7) / 8) := by
  split
  · rename_i hzero
    rw [hzero, segments_zero, List.length_nil]
  · rename_i hne
    exact length_segments_of_pos offset (Nat.pos_of_ne_zero hne)

theorem length_segments_le (offset : Nat) {width : Nat} (hw : width ≤ 64) :
    (segments offset width).length ≤ 9 := by
  rcases Nat.eq_zero_or_pos width with rfl | hpos
  · rw [segments_zero]
    exact Nat.zero_le 9
  · rw [length_segments_of_pos offset hpos]
    omega

/-- The byte of every bit of a range has a segment. -/
theorem exists_segment {p : Nat} : ∀ {width offset : Nat}, offset ≤ p → p < offset + width →
    ∃ s ∈ segments offset width, s.index = p / 8 := by
  intro width
  induction width using Nat.strongRecOn with
  | ind width ih =>
      intro offset hle hlt
      have hpos : 0 < width := by omega
      have hsum := width_add_left_first offset width
      have hfirst := (Segment.first_within offset hpos).pos
      rw [segments_eq_cons offset hpos]
      rcases Nat.lt_or_ge p (offset + (first offset width).width) with hin | hafter
      · exact ⟨_, List.mem_cons_self, (position_first offset width hle hin).1.symm⟩
      · obtain ⟨s, hs, hindex⟩ := ih (first offset width).left (by omega) hafter (by omega)
        exact ⟨s, List.mem_cons_of_mem _ hs, hindex⟩

/-! ## Safe segments -/

namespace Segment

/-- A segment can be read and written in `n` bytes. -/
structure Safe (s : Segment) (n : Nat) : Prop extends s.Within where
  /-- The byte is there. -/
  index_lt : s.index < n
  /-- A segment has no more bits than a byte. -/
  width_le : s.width ≤ 8
  /-- A byte is shifted by less than its bits. -/
  shift_le : s.shift ≤ 7
  /-- A value is shifted by less than its bits. -/
  left_lt : s.left < 64
  /-- The mask is a byte. -/
  mask_lt : s.mask < 256

instance (s : Segment) (n : Nat) : Decidable (s.Safe n) :=
  decidable_of_iff
    ((0 < s.width ∧ s.start + s.width ≤ 8) ∧ s.index < n ∧ s.width ≤ 8 ∧ s.shift ≤ 7 ∧
      s.left < 64 ∧ s.mask < 256)
    ⟨fun ⟨⟨hpos, hinside⟩, hindex, hwidth, hshift, hleft, hmask⟩ =>
      ⟨⟨hpos, hinside⟩, hindex, hwidth, hshift, hleft, hmask⟩,
     fun h => ⟨⟨h.pos, h.inside⟩, h.index_lt, h.width_le, h.shift_le, h.left_lt, h.mask_lt⟩⟩

variable {s : Segment} {n : Nat}

theorem Within.safe (h : s.Within) (hindex : s.index < n) (hleft : s.left < 64) : s.Safe n where
  toWithin := h
  index_lt := hindex
  width_le := Nat.le_trans (Nat.le_add_left _ _) h.inside
  shift_le := Nat.le_of_lt_succ h.shift_lt
  left_lt := hleft
  mask_lt := h.mask_lt

/-- The chunk of a value is no larger than the mask, where it goes. -/
theorem Safe.shifted_chunk_lt (h : s.Safe n) (v : UInt64) :
    (s.chunk v).toNat <<< s.shift < 256 := by
  have hones : (UInt64.ofNat s.ones).toNat = s.ones :=
    UInt64.toNat_ofNat_of_lt' (Nat.lt_trans h.ones_lt (by decide))
  have hchunk : (s.chunk v).toNat ≤ s.ones := by
    rw [chunk, UInt64.toNat_and, hones]
    exact Nat.and_le_right
  have hmask := h.mask_lt
  rw [mask, Nat.shiftLeft_eq] at hmask
  rw [Nat.shiftLeft_eq]
  exact Nat.lt_of_le_of_lt (Nat.mul_le_mul_right _ hchunk) hmask

end Segment

/-- The segments of a range inside `n` bytes are safe. -/
theorem safe_of_mem_segments {n : Nat} {s : Segment} : ∀ {width offset : Nat}, width ≤ 64 →
    offset + width ≤ 8 * n → s ∈ segments offset width → s.Safe n := by
  intro width
  induction width using Nat.strongRecOn with
  | ind width ih =>
      intro offset hw h hs
      rcases Nat.eq_zero_or_pos width with rfl | hpos
      · rw [segments_zero] at hs
        cases hs
      · have hfirst := Segment.first_within offset hpos
        have hsum := width_add_left_first offset width
        have hpos' := hfirst.pos
        rw [segments_eq_cons offset hpos, List.mem_cons] at hs
        rcases hs with rfl | hrest
        · exact hfirst.safe (by simp only [first]; omega) (by omega)
        · exact ih _ (by omega) (by omega) (by omega) hrest

/-- The segments of a range are safe exactly if the range is inside the bytes.  Of
a range that is not, the last bit has a segment in a byte that is not there. -/
theorem forall_safe_iff {n offset width : Nat} (hw : width ≤ 64) :
    (∀ s ∈ segments offset width, s.Safe n) ↔ width = 0 ∨ offset + width ≤ 8 * n := by
  constructor
  · intro h
    rcases Nat.eq_zero_or_pos width with hzero | hpos
    · exact .inl hzero
    · have hstart : offset ≤ offset + width - 1 := by omega
      have hend : offset + width - 1 < offset + width := by omega
      obtain ⟨s, hs, hindex⟩ := exists_segment hstart hend
      have hlt := (h s hs).index_lt
      omega
  · rintro (rfl | h) s hs
    · rw [segments_zero] at hs
      cases hs
    · exact safe_of_mem_segments hw h hs

/-! ## Guarded loops -/

section Guarded

variable {m : Type → Type} [Monad m] {β : Type}

/-- Go on if a segment is safe in `n` bytes, and else do what the caller wants. -/
def Segment.guard (refuse : m Unit) (s : Segment) (n : Nat) : m Unit :=
  if s.Safe n then pure () else refuse

/-- Take a step for each segment, guarded by the size of what there is then. -/
def guardedLoop (refuse : m Unit) (size : β → Nat) (step : β → Segment → β) (l : List Segment)
    (x : β) : m β :=
  l.foldlM (fun x s => do
    s.guard refuse (size x)
    pure (step x s)) x

variable {refuse : m Unit} {size : β → Nat} {step : β → Segment → β}

/-- With safe segments the guards are not seen. -/
theorem guardedLoop_of_safe [LawfulMonad m] (hsize : ∀ x s, size (step x s) = size x) :
    ∀ {l : List Segment} {x : β}, (∀ s ∈ l, s.Safe (size x)) →
      guardedLoop refuse size step l x = pure (l.foldl step x)
  | [], x, _ => by rw [guardedLoop, List.foldlM_nil, List.foldl_nil]
  | s :: l, x, h => by
      have hrest : ∀ t ∈ l, t.Safe (size (step x s)) := by
        intro t ht
        rw [hsize]
        exact h t (List.mem_cons_of_mem _ ht)
      have ih := guardedLoop_of_safe hsize hrest
      rw [guardedLoop] at ih ⊢
      rw [List.foldlM_cons, Segment.guard, if_pos (h s List.mem_cons_self), pure_bind, pure_bind,
        ih, List.foldl_cons]

/-- A guard that gives up does so exactly if some segment is not safe. -/
theorem isSome_guardedLoop (hsize : ∀ x s, size (step x s) = size x) :
    ∀ {l : List Segment} {x : β},
      (guardedLoop (none : Option Unit) size step l x).isSome ↔ ∀ s ∈ l, s.Safe (size x)
  | [], x => by simp [guardedLoop]
  | s :: l, x => by
      have ih := isSome_guardedLoop hsize (l := l) (x := step x s)
      rw [hsize, guardedLoop] at ih
      rw [guardedLoop, List.foldlM_cons, Segment.guard, List.forall_mem_cons]
      by_cases h : s.Safe (size x)
      · rw [if_pos h, pure_bind, pure_bind, ih]
        exact (and_iff_right h).symm
      · rw [if_neg h]
        exact iff_of_false Bool.false_ne_true (fun hall => h hall.1)

/-! ## Guarded reads and writes -/

/-- The value of a bit range, with a guard before each segment. -/
def Bytes.getBitsGuarded (refuse : m Unit) (b : Bytes) (offset width : Nat) : m UInt64 :=
  guardedLoop refuse (fun _ => b.length)
    (fun v s => (v <<< UInt64.ofNat s.width) ||| s.extract (Bytes.byteAt b s.index))
    (segments offset width) 0

/-- The byte string with a value in a bit range, with a guard before each segment. -/
def Bytes.setBitsGuarded (refuse : m Unit) (b : Bytes) (offset width : Nat) (v : UInt64) :
    m Bytes :=
  guardedLoop refuse List.length (fun b s => b.modify s.index (s.insert v))
    (segments offset width) b

/-- The value of a field, with guards. -/
def Record.getGuarded (refuse : m Unit) {l : Layout} (r : Record l) (i : l.Field) : m UInt64 :=
  r.bytes.getBitsGuarded refuse (l.offset i) (l.width i)

/-- The bytes of a record with a value in a field, with guards. -/
def Record.setGuarded (refuse : m Unit) {l : Layout} (r : Record l) (i : l.Field) (v : UInt64) :
    m Bytes :=
  r.bytes.setBitsGuarded refuse (l.offset i) (l.width i) v

variable [LawfulMonad m]

/-- A guarded read of a range inside the bytes is the plain one. -/
theorem Bytes.getBitsGuarded_eq (b : Bytes) {offset width : Nat} (hw : width ≤ 64)
    (h : offset + width ≤ 8 * b.length) :
    b.getBitsGuarded refuse offset width = pure (b.getBits offset width) := by
  apply guardedLoop_of_safe
  · intro _ _
    rfl
  · intro s
    exact safe_of_mem_segments hw h

/-- A guarded write to a range inside the bytes is the plain one. -/
theorem Bytes.setBitsGuarded_eq (b : Bytes) {offset width : Nat} (hw : width ≤ 64)
    (h : offset + width ≤ 8 * b.length) (v : UInt64) :
    b.setBitsGuarded refuse offset width v = pure (b.setBits offset width v) := by
  apply guardedLoop_of_safe
  · intro _ _
    exact List.length_modify ..
  · intro s
    exact safe_of_mem_segments hw h

namespace Record

variable {l : Layout}

theorem offset_add_width_le_length (r : Record l) (i : l.Field) :
    l.offset i + l.width i ≤ 8 * r.bytes.length := by
  rw [r.length_bits]
  exact l.offset_add_width_le i

theorem getGuarded_eq (r : Record l) (i : l.Field) : r.getGuarded refuse i = pure (r.get i) :=
  r.bytes.getBitsGuarded_eq (l.width_bounds i).2 (r.offset_add_width_le_length i)

theorem setGuarded_eq (r : Record l) {i : l.Field} {v : UInt64} (h : l.Fits i v) :
    r.setGuarded refuse i v = pure (r.set i v h).bytes :=
  r.bytes.setBitsGuarded_eq (l.width_bounds i).2 (r.offset_add_width_le_length i) v

/-- A field that is shown in a type of its own is read with guards as it is without. -/
theorem map_getGuarded {β : Type} (view : UInt64 → β) (r : Record l) (i : l.Field) :
    view <$> r.getGuarded refuse i = pure (view (r.get i)) := by
  rw [getGuarded_eq, map_pure]

end Record

/-- An entry in a form is made with guards as it is without. -/
theorem Form.setGuarded_eq {S ε : Type} [Form S ε] [LawfulForm S] (e : ε) (s : S) :
    (Form.record s).setGuarded refuse (Form.field e) (Form.value S e) =
      pure (Form.bytes (Form.enter e s)) := by
  obtain ⟨hfits, henter⟩ := Form.exists_record_enter e s
  rw [Form.bytes, henter]
  exact Record.setGuarded_eq _ hfits

end Guarded

theorem isSome_getBitsGuarded (b : Bytes) {offset width : Nat} (hw : width ≤ 64) :
    (b.getBitsGuarded none offset width).isSome ↔ width = 0 ∨ offset + width ≤ 8 * b.length := by
  rw [← forall_safe_iff hw]
  apply isSome_guardedLoop
  intro _ _
  rfl

theorem isSome_setBitsGuarded (b : Bytes) {offset width : Nat} (hw : width ≤ 64) (v : UInt64) :
    (b.setBitsGuarded none offset width v).isSome ↔
      width = 0 ∨ offset + width ≤ 8 * b.length := by
  rw [← forall_safe_iff hw]
  apply isSome_guardedLoop
  intro _ _
  exact List.length_modify ..

/-! ## Everything stays inside -/

/-- The fields of a layout follow each other from its first bit to its last one,
without gaps and without overlap.  Of a range inside `n` bytes, each segment starts
where those before it end, takes no more than is left, and is safe, and there is one
for each byte that the range touches, nine at most.  So a guarded read or write of
such a range is the plain one, whatever a guard would do, and this holds of every
field of a record, of every entry in a form and of every field that a form shows.
The guards of any other range do give up. -/
theorem access_stays_inside :
    (∀ l : Layout,
      (∀ i : l.Field, i.val = 0 → l.offset i = 0) ∧
      (∀ i j : l.Field, j.val = i.val + 1 → l.offset j = l.offset i + l.width i) ∧
      (Pairwise fun i j => l.range i ∩ l.range j = ∅) ∧
      ⋃ i, l.range i = Set.Ico 0 (8 * l.size)) ∧
    (∀ n offset width : Nat, width ≤ 64 → offset + width ≤ 8 * n →
      (∀ before s after, segments offset width = before ++ s :: after →
        s.position = offset + Segment.taken before ∧
        Segment.taken before + s.width + s.left = width ∧
        s.Safe n ∧ ∀ v, (s.chunk v).toNat <<< s.shift < 256) ∧
      (segments offset width).length =
        (if width = 0 then 0 else (offset % 8 + width + 7) / 8) ∧
      (segments offset width).length ≤ 9) ∧
    (∀ (m : Type → Type) [Monad m] [LawfulMonad m] (refuse : m Unit),
      (∀ (b : Bytes) (offset width : Nat), width ≤ 64 → offset + width ≤ 8 * b.length →
        b.getBitsGuarded refuse offset width = pure (b.getBits offset width) ∧
        ∀ v, b.setBitsGuarded refuse offset width v = pure (b.setBits offset width v)) ∧
      (∀ (l : Layout) (r : Record l) (i : l.Field),
        r.getGuarded refuse i = pure (r.get i) ∧
        ∀ v fits, r.setGuarded refuse i v = pure (r.set i v fits).bytes) ∧
      (∀ (S ε : Type) [Form S ε] [LawfulForm S] (e : ε) (s : S),
        (Form.record s).setGuarded refuse (Form.field e) (Form.value S e) =
          pure (Form.bytes (Form.enter e s))) ∧
      (∀ b : StreamStatus.CommandBlock,
        UInt64.toUInt8 <$> b.record.getGuarded refuse StreamStatus.CommandBlock.operationCodeField =
          pure b.operationCode ∧
        UInt64.toUInt8 <$> b.record.getGuarded refuse StreamStatus.CommandBlock.serviceActionField =
          pure b.serviceAction ∧
        UInt64.toUInt16 <$>
            b.record.getGuarded refuse StreamStatus.CommandBlock.startingStreamField =
          pure b.startingStream ∧
        UInt64.toUInt32 <$>
            b.record.getGuarded refuse StreamStatus.CommandBlock.allocationLengthField =
          pure b.allocationLength ∧
        UInt64.toUInt8 <$> b.record.getGuarded refuse StreamStatus.CommandBlock.controlField =
          pure b.control) ∧
      (∀ b : UnitReady.CommandBlock,
        UInt64.toUInt8 <$> b.record.getGuarded refuse UnitReady.CommandBlock.operationCodeField =
          pure b.operationCode ∧
        UInt64.toUInt8 <$> b.record.getGuarded refuse UnitReady.CommandBlock.controlField =
          pure b.control) ∧
      (∀ h : StreamStatus.Header,
        UInt64.toUInt32 <$> h.record.getGuarded refuse StreamStatus.Header.lengthField =
          pure h.length ∧
        UInt64.toUInt16 <$> h.record.getGuarded refuse StreamStatus.Header.openStreamsField =
          pure h.openStreams) ∧
      (∀ d : StreamStatus.Descriptor,
        UInt64.toUInt16 <$> d.record.getGuarded refuse StreamStatus.Descriptor.identifierField =
          pure d.identifier)) ∧
    (∀ (b : Bytes) (offset width : Nat) (v : UInt64), width ≤ 64 →
      ((b.getBitsGuarded none offset width).isSome ↔
        width = 0 ∨ offset + width ≤ 8 * b.length) ∧
      ((b.setBitsGuarded none offset width v).isSome ↔
        width = 0 ∨ offset + width ≤ 8 * b.length)) := by
  refine ⟨?_, ?_, ?_, fun b _ _ v hw => ⟨isSome_getBitsGuarded b hw, isSome_setBitsGuarded b hw v⟩⟩
  · intro l
    exact ⟨fun _ => Layout.offset_first, fun _ _ => Layout.offset_next, l.pairwise_range_inter,
      l.iUnion_range⟩
  · intro n offset width hw h
    refine ⟨?_, length_segments offset width, length_segments_le offset hw⟩
    intro before s after hsplit
    have hmem : s ∈ segments offset width := by
      rw [hsplit]
      exact List.mem_append_right _ List.mem_cons_self
    have hsafe := safe_of_mem_segments hw h hmem
    obtain ⟨hposition, hwidth⟩ := segments_split hsplit
    exact ⟨hposition, hwidth, hsafe, hsafe.shifted_chunk_lt⟩
  · intro m _ _ refuse
    refine ⟨?_, ?_, fun _ _ _ _ => Form.setGuarded_eq, ?_, ?_, ?_, ?_⟩
    · intro b offset width hw h
      exact ⟨b.getBitsGuarded_eq hw h, b.setBitsGuarded_eq hw h⟩
    · intro l r i
      exact ⟨r.getGuarded_eq i, fun _ => r.setGuarded_eq⟩
    · intro b
      exact ⟨Record.map_getGuarded _ _ _, Record.map_getGuarded _ _ _,
        Record.map_getGuarded _ _ _, Record.map_getGuarded _ _ _, Record.map_getGuarded _ _ _⟩
    · intro b
      exact ⟨Record.map_getGuarded _ _ _, Record.map_getGuarded _ _ _⟩
    · intro h
      exact ⟨Record.map_getGuarded _ _ _, Record.map_getGuarded _ _ _⟩
    · intro d
      exact Record.map_getGuarded _ _ _

/-- A range of 64 bits that touches nine bytes is inside nine bytes and not inside
eight. -/
theorem access_stays_inside_nine_bytes :
    let b : Bytes := [0xF0, 0x12, 0x34, 0x56, 0x78, 0x9A, 0xBC, 0xDE, 0xF5]
    (segments 4 64).length = 9 ∧
    b.getBitsGuarded (.error 9 : Except Nat Unit) 4 64 = .ok 0x0123456789ABCDEF ∧
    b.setBitsGuarded (.error 9 : Except Nat Unit) 4 64 0 = .ok [0xF0, 0, 0, 0, 0, 0, 0, 0, 0x05] ∧
    Bytes.getBitsGuarded none (b.take 8) 4 64 = none := by
  intro b
  obtain ⟨-, hloop, hguarded, houtside⟩ := access_stays_inside
  obtain ⟨hbytes, -⟩ := hguarded (Except Nat) (.error 9)
  obtain ⟨hread, hwrite⟩ := hbytes b 4 64 (by decide) (by decide)
  refine ⟨?_, ?_, ?_, ?_⟩
  · exact (hloop 9 4 64 (by decide) (by decide)).2.1
  · rw [hread]
    exact congrArg Except.ok (by decide +kernel)
  · rw [hwrite]
    exact congrArg Except.ok (by decide +kernel)
  · rw [← Option.not_isSome_iff_eq_none, (houtside (b.take 8) 4 64 0 (by decide)).1]
    decide

end ScsiInitiator
